import Concierge.Config
import Concierge.Dispatch

/-!
# The assistant

An assistant is a registry of triggers and the world that they act on, with an executor and a
configuration.
-/

namespace Concierge

/-- Everything that a directive can reach. -/
structure Assistant (σ : Type) where
  world : World σ
  registry : Registry σ
  executor : Executor := {}
  order : DispatchOrder := .registry
  config : Config := {}
  isClosed : Bool := false

namespace Assistant

variable {σ α : Type}

/-- A computation of an assistant. -/
abbrev Run (σ : Type) := ExceptT Fault (StateM (Assistant σ))

/-- Acts on the world. -/
def act (a : Action σ α) : Run σ α := fun s =>
  let (result, world) := a s.world
  (result, { s with world })

/-- Uses the registry. -/
def use (u : Registry.Use σ α) : Run σ α := fun s =>
  let (result, registry) := u s.registry
  (result, { s with registry })

/-- A computation that ends with a fault, or gives the value. -/
def ofExcept (e : Except Fault α) : Run σ α := fun s => (e, s)

/-- The directives of a text. -/
def find (text : Value) : Run σ (List (Directive σ)) := do
  use (Dispatch.findIn (← get).order text)

/-- A text without its directives. -/
def strip (text : Value) : Run σ String := use (Dispatch.stripIn text)

/-- Executes the directives of a text. -/
def dispatch (text : Value) (c : Context) : Run σ (List Report) := do
  let directives ← find text
  let s ← get
  act (Dispatch.executeAll s.executor c directives)

/-- Executes the trigger with an identifier. -/
def execute (id : String) (params : Value) (c : Context) : Run σ Result := do
  let t ← use (Registry.lookUp id)
  let s ← get
  act (s.executor.execute t params c)

/-- The session of a trial at a time. -/
def trialSession (t : Timestamp) : String := "test_" ++ toString t.unixSeconds

/-- The session of a trial at a time that may be a local one. A local time is compared with the day
before it, which has to lie in the calendar. -/
def trialSessionAt (t : Timestamp) : Except TimestampError String :=
  if t.offset.isNone && t.toMicros < Instant.day then .error (.year 0) else .ok (trialSession t)

/-- The context of a trial at an instant. -/
def trialContext (now : Instant) : Context where
  session := .text (trialSession (Timestamp.universal now))
  timestamp := Timestamp.universal now
  userMessage := .text "Test message"

/-- Fires a trigger, on trial when there is no context. -/
def fire (id : String) (params : Value) (c : Option Context) : Run σ Result := do
  let t ← use (Registry.lookUp id)
  let s ← get
  act (s.executor.execute t params (c.getD (trialContext s.world.now)))

/-- Switches the trigger with an identifier on or off, and gives its stored settings. -/
def setEnabled (id : String) (on : Value) : Run σ (Dict Value) := do
  let t ← use (Registry.lookUp id)
  act (Action.tryStore (Settings.keyOf t.id) fun now s => Settings.setEnabled now t.definition on s)

/-- The state of an assistant in a word: closed, or how many triggers it has. -/
def state : Run σ String := do
  if (← get).isClosed then return "closed"
  let triggers ← use Registry.all
  return toString triggers.length ++ " triggers"

/-- An assistant in a word. -/
def describe : Run σ String := do
  let path := (← get).config.path
  return "<Assistant db=" ++ Text.quoted path ++ " " ++ (← state) ++ ">"

/-- The store at a place is gone when the assistant is closed. -/
def isPassing : Except PlaceError Place → Bool
  | .ok .memory => true
  | _ => false

/-- Closes an assistant. A store in memory is gone then; one in a file is opened again when it is
used. -/
def close : Run σ Unit :=
  modify fun s =>
    { s with isClosed := true, world := { s.world with isLost := isPassing s.config.place } }

/-- The executor that a configuration describes. -/
def executorOf (c : Config) : Except Fault Executor := do
  let log ← Audit.Log.ofCapacity c.auditCapacity c.auditLifetime
  return { log, rule := c.triggerRule, isVerbose := c.isVerbose }

end Assistant

end Concierge
