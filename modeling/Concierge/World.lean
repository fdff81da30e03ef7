import Concierge.Fault
import Concierge.Store.Basic

/-!
# Worlds and actions

Triggers act on a world: the reading of the clock, the store, and whatever else the application lets
them act on. An action either gives a value or ends with a fault; in both cases the world is left as
the action has made it.
-/

namespace Concierge

/-- What triggers act on. -/
structure World (σ : Type) where
  now : Instant
  store : Store
  site : σ
  /-- The store is gone, and cannot be used any more. -/
  isLost : Bool := false

/-- A computation that acts on a world and may end with a fault. -/
abbrev Action (σ : Type) := ExceptT Fault (StateM (World σ))

namespace Action

variable {σ α : Type}

/-- Runs an action on a world. -/
def on (act : Action σ α) (w : World σ) : Except Fault α × World σ := act w

/-- An action that ends with a fault, or gives the value. -/
def ofExcept (e : Except Fault α) : Action σ α := fun w => (e, w)

/-- Acts on the store at the time of the world, beginning with the row of a key, and may end with a
fault. A store that is gone has no such row. -/
def tryStore (key : String) (f : Instant → Store → Except Fault α × Store) : Action σ α := fun w =>
  if w.isLost then (.error (.storeLost key), w)
  else
    let (a, store) := f w.now w.store
    (a, { w with store })

/-- Acts on the store at the time of the world, beginning with the row of a key. -/
def onStore (key : String) (f : Instant → Store → α × Store) : Action σ α :=
  tryStore key fun now s =>
    let (a, s) := f now s
    (.ok a, s)

/-- The outcome of an action as a value. An interrupt remains an interrupt. -/
def outcome (act : Action σ α) : Action σ (Except Fault α) := fun w =>
  match act w with
  | (.ok a, w) => (.ok (.ok a), w)
  | (.error f, w) => if f.isInterrupt then (.error f, w) else (.ok (.error f), w)

/-- An action after whose ordinary faults another one takes over. -/
def recover (act : Action σ α) (handler : Fault → Action σ α) : Action σ α := do
  match ← outcome act with
  | .ok a => pure a
  | .error f => handler f

end Action

end Concierge
