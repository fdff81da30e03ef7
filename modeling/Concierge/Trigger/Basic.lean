import Concierge.Context
import Concierge.Result
import Concierge.World

/-!
# Triggers

A trigger is one kind of directive: its definition, a rule that tells who may fire it, and what it
does. The rule answers with any value, which counts by its truth; it does not act on the world.
-/

namespace Concierge

/-- A kind of directive, acting on a world with sites of type `σ`. -/
structure Trigger (σ : Type) where
  definition : Definition
  /-- Whether a context may fire the trigger. -/
  permits : Context → Except Fault Value
  /-- What the trigger does with cleaned arguments. -/
  perform : Params → Context → Action σ Answer

namespace Trigger

variable {σ τ : Type}

/-- The identifier of a trigger. -/
def id (t : Trigger σ) : String := t.definition.id

/-- A trigger on a larger world, of which it only sees and changes one part. -/
def within (part : τ → σ) (replace : σ → τ → τ) (t : Trigger σ) : Trigger τ where
  definition := t.definition
  permits := t.permits
  perform params c := fun w =>
    let (answer, inner) := t.perform params c ⟨w.now, w.store, part w.site, w.isLost⟩
    (answer, ⟨inner.now, inner.store, replace inner.site w.site, inner.isLost⟩)

end Trigger

end Concierge
