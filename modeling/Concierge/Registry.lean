import Concierge.Trigger.Basic

/-!
# The registry of triggers

The registry holds triggers in the order of their registration, at most one for each identifier. It
starts with its first use: the built-in triggers are registered, and then the extensions are run, each
of which is a script of uses of the registry. An extension that ends with an ordinary fault does not
keep the ones after it from running. Filters reshape what is looked up and leave the registry as it is.
Listeners are told of every registration and removal, and a journal records what they and the scripts
have seen.
-/

namespace Concierge

namespace Registry

/-- Reshapes the list of triggers that a look-up gives. -/
abbrev Filter (σ : Type) := List (Trigger σ) → Except Fault (List (Trigger σ))

/-- A listener, which may end with a fault when it is told of something. -/
abbrev Listener (α : Type) := α → Option Fault

/-- One step of the script of an extension. -/
inductive Step (σ : Type) where
  /-- Registers a trigger, if it can be made. -/
  | register (made : Except Fault (Trigger σ))
  | unregister (id : String)
  /-- Asks for the start, which has begun when a script is run. -/
  | start
  /-- Looks up the trigger with an identifier. -/
  | find (id : String)
  /-- Looks up the identifiers of all triggers. -/
  | list
  | raise (fault : Fault)
  | filter (f : Filter σ)
  /-- Adds another extension. -/
  | extend (script : List (Step σ))

/-- An extension of the registry. -/
abbrev Extension (σ : Type) := List (Step σ)

/-- What the journal records. -/
inductive Event (σ : Type) where
  /-- A listener was told of a registration. -/
  | registered (t : Trigger σ)
  /-- A listener was told of a removal. -/
  | unregistered (id : String)
  /-- An extension registered a trigger, or tried to. -/
  | scriptRegistered (id : String) (done : Bool)
  /-- An extension removed a trigger, or tried to. -/
  | scriptUnregistered (id : String) (done : Bool)
  /-- An extension looked up the identifiers. -/
  | scriptListed (ids : List String)

end Registry

/-- The triggers that can be fired. -/
structure Registry (σ : Type) where
  builtins : List (Trigger σ) := []
  /-- The extensions that wait for the start. -/
  extensions : List (Registry.Extension σ) := []
  triggers : List (Trigger σ) := []
  filters : List (Registry.Filter σ) := []
  onRegistered : List (Registry.Listener (Trigger σ)) := []
  onUnregistered : List (Registry.Listener String) := []
  isStarted : Bool := false
  journal : List (Registry.Event σ) := []

namespace Registry

variable {σ α : Type}

/-- A use of a registry. -/
abbrev Use (σ : Type) := ExceptT Fault (StateM (Registry σ))

/-- A use that ends with a fault, or gives the value. -/
def ofExcept (e : Except Fault α) : Use σ α := fun r => (e, r)

/-- A use after whose ordinary faults the script goes on. -/
def shielded (use : Use σ Unit) : Use σ Unit := fun r =>
  match use r with
  | (.error f, r) => if f.isInterrupt then (.error f, r) else (.ok (), r)
  | done => done

/-- Records an event. -/
def record (e : Event σ) : Use σ Unit := modify fun r => { r with journal := r.journal ++ [e] }

/-- Tells listeners in turn until one ends with a fault. -/
def tell (event : α → Event σ) (news : α) : List (Listener α) → Use σ Unit
  | [] => pure ()
  | listener :: rest => do
    record (event news)
    match listener news with
    | some f => throw f
    | none => tell event news rest

/-- A trigger with the identifier is registered. -/
def hasId (r : Registry σ) (id : String) : Bool := r.triggers.any (·.id == id)

/-- Registers a trigger unless its identifier is taken, and tells whether it did. -/
def place (t : Trigger σ) : Use σ Bool := do
  let r ← get
  if r.hasId t.id then return false
  set { r with triggers := r.triggers ++ [t] }
  tell .registered t r.onRegistered
  return true

/-- Removes a trigger, and tells whether there was one. -/
def remove (id : String) : Use σ Bool := do
  let r ← get
  if !r.hasId id then return false
  set { r with triggers := r.triggers.filter (·.id != id) }
  tell .unregistered id r.onUnregistered
  return true

/-- The registered triggers behind the filters, which are applied in the order of their addition. -/
def view : Use σ (List (Trigger σ)) := do
  let r ← get
  ofExcept (r.filters.foldlM (fun ts f => f ts) r.triggers)

/-- Adds a filter. -/
def addFilter (f : Filter σ) : Use σ Unit := modify fun r => { r with filters := r.filters ++ [f] }

mutual

/-- Runs one step of a script on a registry that has started. -/
def runStep : Step σ → Use σ Unit
  | .register made => do
    let t ← ofExcept made
    let done ← place t
    record (.scriptRegistered t.id done)
  | .unregister id => do
    let done ← remove id
    record (.scriptUnregistered id done)
  | .start => pure ()
  | .find _ => do
    let _ ← view
  | .list => do
    let ts ← view
    record (.scriptListed (ts.map Trigger.id))
  | .raise f => throw f
  | .filter f => addFilter f
  | .extend script => shielded (run script)

/-- Runs a script up to its first fault. -/
def run : List (Step σ) → Use σ Unit
  | [] => pure ()
  | step :: rest => do
    runStep step
    run rest

end

/-- Registers triggers in order. -/
def placeAll : List (Trigger σ) → Use σ Unit
  | [] => pure ()
  | t :: rest => do
    let _ ← place t
    placeAll rest

/-- Runs extensions in order, each of them shielded. -/
def runAll : List (Extension σ) → Use σ Unit
  | [] => pure ()
  | e :: rest => do
    shielded (run e)
    runAll rest

/-- Starts the registry, unless it has been started before. -/
def start : Use σ Unit := do
  let r ← get
  if r.isStarted then return
  set { r with isStarted := true }
  placeAll r.builtins
  runAll r.extensions

/-- Adds an extension: it runs at once if the registry has started, and with the start otherwise. -/
def addExtension (e : Extension σ) : Use σ Unit := do
  let r ← get
  if r.isStarted then shielded (run e) else set { r with extensions := r.extensions ++ [e] }

/-- Registers a trigger. -/
def register (t : Trigger σ) : Use σ Bool := do
  start
  place t

/-- Removes a trigger. -/
def unregister (id : String) : Use σ Bool := do
  start
  remove id

/-- All triggers, after the filters. -/
def all : Use σ (List (Trigger σ)) := do
  start
  view

/-- The identifiers of all triggers. -/
def ids : Use σ (List String) := do return (← all).map Trigger.id

/-- The first trigger with an identifier. -/
def find? (id : String) : Use σ (Option (Trigger σ)) := do return (← all).find? (·.id == id)

/-- The trigger with an identifier, which has to be there. -/
def lookUp (id : String) : Use σ (Trigger σ) := do
  match ← find? id with
  | some t => return t
  | none => throw (.unknownTrigger (.text id))

/-- A value is the identifier of a trigger. -/
def contains : Value → Use σ Bool
  | .text id => do return (← find? id).isSome
  | _ => pure false

/-- Adds a listener to registrations. -/
def listen (l : Listener (Trigger σ)) : Use σ Unit :=
  modify fun r => { r with onRegistered := r.onRegistered ++ [l] }

/-- Adds a listener to removals. -/
def listenRemoved (l : Listener String) : Use σ Unit :=
  modify fun r => { r with onUnregistered := r.onUnregistered ++ [l] }

/-- The journal, which starts anew. -/
def takeJournal : Use σ (List (Event σ)) := do
  let r ← get
  set { r with journal := [] }
  return r.journal

end Registry

end Concierge
