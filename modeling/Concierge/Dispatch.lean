import Concierge.Directive
import Concierge.Executor

/-!
# Dispatch

The directives of a text are found, executed one after another, and removed for display. Every
directive has one report, whatever became of it.
-/

namespace Concierge.Dispatch

variable {σ : Type}

/-- The directives of a text. An empty text has none, and does not use the registry. -/
def find (order : DispatchOrder) (text : String) : Registry.Use σ (List (Directive σ)) := do
  if text = "" then return []
  let triggers ← Registry.all
  return Directive.findAll order triggers text.toList

/-- A text without its directives. -/
def strip (text : String) : Registry.Use σ String := do
  let triggers ← Registry.all
  let patterns := triggers.map fun t => t.definition.pattern
  return String.ofList (Display.clean patterns text.toList)

/-- The directives of a value. What counts as false has none; otherwise they can only be looked for in a
text, once there is a trigger to look for. -/
def findIn (order : DispatchOrder) : Value → Registry.Use σ (List (Directive σ))
  | .text s => find order s
  | v => do
    if !v.truthy then return []
    if (← Registry.all).isEmpty then return []
    throw (.notText v.kind)

/-- A value without its directives, which has to be a text. -/
def stripIn : Value → Registry.Use σ String
  | .text s => strip s
  | v => do
    let _ ← Registry.all
    throw (.notText v.kind)

/-- Executes one directive. -/
def executeOne (x : Executor) (c : Context) (d : Directive σ) : Action σ Report := do
  let r ← x.execute d.trigger (.dict d.params) c
  return .ofResult d.trigger.definition r d.start

/-- Executes directives one after another. -/
def executeAll (x : Executor) (c : Context) : List (Directive σ) → Action σ (List Report)
  | [] => pure []
  | d :: rest => do
    let report ← executeOne x c d
    let reports ← executeAll x c rest
    return report :: reports

end Concierge.Dispatch
