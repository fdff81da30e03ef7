import Concierge.Trigger.Basic

/-!
# Scripted triggers

A scripted trigger does as it is told, and records what it was told. It stands in for a trigger of
the application when a registry is rehearsed.
-/

namespace Concierge.Scripted

/-- Who may fire a scripted trigger. -/
inductive Rule where
  /-- Answers with a value. -/
  | always (v : Value)
  | raises (fault : Fault)
  /-- Those to whom a capability is granted. -/
  | grants (capability : String)

/-- What a scripted trigger does. -/
inductive Act where
  | raises (fault : Fault)
  | answers (a : Answer)
  /-- Answers with the context, with its time if told so. -/
  | showsContext (withTime : Bool)
  /-- Answers with its arguments. -/
  | showsParams

/-- What a scripted trigger is told to do. -/
structure Script where
  rule : Rule := .always (.bool true)
  act : Act := .showsParams

/-- The arguments of the executions of scripted triggers, by the numbers of the triggers. -/
abbrev Calls := List (Nat × Params)

/-- The answer of a rule. -/
def Rule.permits (c : Context) : Rule → Except Fault Value
  | always v => .ok v
  | raises f => .error f
  | grants capability => .ok (.bool (c.grants capability))

/-- A context as data. -/
def contextData (c : Context) (withTime : Bool) : Dict Value :=
  [("user_id", c.userId), ("session_id", c.session), ("ip_address", c.address),
   ("user_agent", c.agent), ("user_message", c.userMessage),
   ("anonymous", .bool c.isAnonymous), ("history", .list (c.history.map fun m => .dict m.toDict)),
   ("capabilities", .list (c.capabilities.map Value.text))] ++
    if withTime then [("timestamp", .text c.timestamp.iso)] else []

/-- What an act comes to. -/
def Act.answer (id : String) (params : Params) (c : Context) : Act → Except Fault Answer
  | raises f => .error f
  | answers a => .ok a
  | showsContext withTime => .ok (.value (.dict [("data", .dict (contextData c withTime))]))
  | showsParams =>
    .ok (.ofResult { message := "done " ++ id, data := [("params", .dict params)] })

/-- A scripted trigger with a number, which records its executions. -/
def trigger (number : Nat) (definition : Definition) (script : Script) : Trigger Calls where
  definition
  permits c := script.rule.permits c
  perform params c := do
    modify fun w => { w with site := w.site ++ [(number, params)] }
    Action.ofExcept (script.act.answer definition.id params c)

end Concierge.Scripted
