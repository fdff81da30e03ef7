import Concierge.Assistant
import Concierge.Site.Basic
import Concierge.Trigger.Scripted

/-!
# Rehearsals

In a rehearsal an assistant acts on a stage: a site, and the record of what scripted triggers were
told. Every scripted trigger gets a number, so that its calls are told from those of others with its
identifier. A trigger of an extension is made when the script of the extension comes to it, which the
journal of the registry shows.
-/

namespace Concierge

/-- What the triggers of a rehearsal act on. -/
structure Stage where
  site : Site := {}
  calls : Scripted.Calls := []

namespace Stage

/-- A trigger of a site, on a stage. -/
def onSite (t : Trigger Site) : Trigger Stage := t.within site fun site s => { s with site }

/-- A scripted trigger, on a stage. -/
def scripted (number : Nat) (d : Definition) (script : Scripted.Script) : Trigger Stage :=
  (Scripted.trigger number d script).within calls fun calls s => { s with calls }

end Stage

namespace Rehearsal

/-- A move of an extension. -/
inductive Move where
  /-- Registers a scripted trigger with a number, if it is well defined. -/
  | register (made : Except Fault (Nat × Definition × Scripted.Script))
  | unregister (id : String)
  | list
  | raise (fault : Fault)
  | filter (f : Registry.Filter Stage)
  | extend (moves : List Move)
  deriving Inhabited

mutual

/-- The step of the registry that a move is. -/
def Move.step : Move → Registry.Step Stage
  | .register made => .register (made.map fun (n, d, script) => Stage.scripted n d script)
  | .unregister id => .unregister id
  | .list => .list
  | .raise f => .raise f
  | .filter f => .filter f
  | .extend moves => .extend (steps moves)

/-- The steps of the registry that moves are. -/
def steps : List Move → List (Registry.Step Stage)
  | [] => []
  | m :: rest => m.step :: steps rest

end

/-- How far some moves have come. -/
inductive Reach where
  | finished
  | stopped
  /-- Nothing that comes later is carried out either. -/
  | interrupted
  deriving DecidableEq, Repr

/-- The numbers and identifiers of the triggers that moves have made, the events that come after
them, and how far the moves have come. -/
abbrev Trace := List (Nat × String) × List (Registry.Event Stage) × Reach

/-- Goes on after a trace that has finished. -/
def andThen (t : Trace) (next : List (Registry.Event Stage) → Trace) : Trace :=
  match t with
  | (made, events, .finished) =>
    let (more, events, reach) := next events
    (made ++ more, events, reach)
  | t => t

/-- The trace of a move that leaves an event when it succeeds. -/
def witnessed (made : List (Nat × String)) (holds : Registry.Event Stage → Bool) :
    List (Registry.Event Stage) → Trace
  | e :: events => if holds e then (made, events, .finished) else (made, e :: events, .stopped)
  | [] => (made, [], .stopped)

mutual

/-- The trace of a move. -/
def Move.trace (events : List (Registry.Event Stage)) : Move → Trace
  | .register (.ok (n, d, _)) =>
    witnessed [(n, d.id)] (fun | .scriptRegistered .. => true | _ => false) events
  | .register (.error _) => ([], events, .stopped)
  | .unregister _ => witnessed [] (fun | .scriptUnregistered .. => true | _ => false) events
  | .list => witnessed [] (fun | .scriptListed _ => true | _ => false) events
  | .raise f => ([], events, if f.isInterrupt then .interrupted else .stopped)
  | .filter _ => ([], events, .finished)
  | .extend moves =>
    match traceAll events moves with
    | (made, events, .interrupted) => (made, events, .interrupted)
    | (made, events, _) => (made, events, .finished)

/-- The trace of moves one after another. -/
def traceAll (events : List (Registry.Event Stage)) : List Move → Trace
  | [] => ([], events, .finished)
  | m :: rest => andThen (m.trace events) fun events => traceAll events rest

end

/-- The event was left by a script. -/
def isScripted : Registry.Event Stage → Bool
  | .registered _ | .unregistered _ => false
  | _ => true

end Rehearsal

/-- An assistant on a stage, and the scripted triggers that have been made for it. -/
structure Rehearsal where
  assistant : Assistant Stage
  /-- How many numbers have been given out. -/
  issued : Nat := 0
  /-- The numbers and identifiers of the triggers, in the order of their making. -/
  made : List (Nat × String) := []
  /-- The extensions that have not been run. -/
  waiting : List (List Rehearsal.Move) := []

namespace Rehearsal

variable {α : Type}

/-- A computation of a rehearsal. -/
abbrev Run := ExceptT Fault (StateM Rehearsal)

/-- Records the triggers that the waiting extensions have made, if they have been run. -/
def settled (s : Rehearsal) (assistant : Assistant Stage) : Rehearsal :=
  if assistant.registry.isStarted then
    let news := assistant.registry.journal.drop s.assistant.registry.journal.length
    let (made, _) := traceAll (news.filter isScripted) (s.waiting.map Move.extend)
    { s with assistant, made := s.made ++ made, waiting := [] }
  else { s with assistant }

/-- Carries out a computation of the assistant. -/
def play (r : Assistant.Run Stage α) : Run α := fun s =>
  let (a, assistant) := r s.assistant
  (a, s.settled assistant)

/-- Acts on the world. -/
def act (a : Action Stage α) : Run α := play (Assistant.act a)

/-- Uses the registry. -/
def use (u : Registry.Use Stage α) : Run α := play (Assistant.use u)

/-- Gives out a number. -/
def issue : StateM Rehearsal Nat :=
  modifyGet fun s => (s.issued, { s with issued := s.issued + 1 })

/-- Makes a scripted trigger. -/
def make (d : Definition) (script : Scripted.Script) : StateM Rehearsal (Trigger Stage) := do
  let n ← issue
  modify fun s => { s with made := s.made ++ [(n, d.id)] }
  return Stage.scripted n d script

/-- Adds an extension. -/
def extend (moves : List Move) : Run Unit := do
  modify fun s => { s with waiting := s.waiting ++ [moves] }
  use (Registry.addExtension (steps moves))

/-- The arguments of the calls of every trigger that was made with an identifier. -/
def callsOf (s : Rehearsal) (id : String) : List (List Params) :=
  (s.made.filter (·.2 == id)).map fun (n, _) =>
    (s.assistant.world.site.calls.filter (·.1 == n)).map Prod.snd

end Rehearsal

end Concierge
