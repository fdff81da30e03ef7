import Concierge.Pattern.Command
import Concierge.Proofs.Executor.Invariant
import Concierge.Proofs.Store.Use

/-!
# Rows that are spared

While an assistant is at work time passes, rows expire, and those that have expired are removed by whoever
touches them. The rows of some keys are spared if beyond this nothing happens to them. An execution spares
all rows but those of its budget and of the log, as long as the trigger only reads.
-/

namespace Concierge

variable {σ : Type} {keys : String → Prop}

/-- Time may have passed between two worlds; every key has one row, and the rows of some keys are those of
before, as far as they are still alive. -/
structure World.Spares (keys : String → Prop) (w w' : World σ) : Prop where
  le : w.now ≤ w'.now
  isKeyed : w'.store.IsKeyed
  view : ∀ k, keys k → ∀ later, w'.now ≤ later → w'.store.view later k = w.store.view later k

namespace World.Spares

variable {w w' w'' : World σ}

/-- A world spares all its own rows. -/
theorem refl (keys : String → Prop) (h : w.store.IsKeyed) : w.Spares keys w :=
  ⟨Nat.le_refl _, h, fun _ _ _ _ => rfl⟩

/-- What has been spared is spared further. -/
theorem trans (h : w.Spares keys w') (h' : w'.Spares keys w'') : w.Spares keys w'' where
  le := Nat.le_trans h.le h'.le
  isKeyed := h'.isKeyed
  view k hk later hle := (h'.view k hk later hle).trans (h.view k hk later (Nat.le_trans h'.le hle))

/-- Where many rows are spared, so are some of them. -/
theorem mono {keys' : String → Prop} (h : w.Spares keys w') (himp : ∀ k, keys' k → keys k) :
    w.Spares keys' w' := ⟨h.le, h.isKeyed, fun k hk => h.view k (himp k hk)⟩

/-- Some time later. -/
theorem later (h : w.Spares keys w') (wait : Nat) :
    w.Spares keys { w' with now := w'.now + wait } where
  le := Nat.le_trans h.le (Nat.le_add_right w'.now wait)
  isKeyed := h.isKeyed
  view k hk later hle := h.view k hk later (Nat.le_trans (Nat.le_add_right w'.now wait) hle)

/-- A store that has the same live rows under the keys. -/
theorem withStore (h : w.Spares keys w') {store : Store} (hkeyed : store.IsKeyed)
    (hview : ∀ k, keys k → store.view w'.now k = w'.store.view w'.now k) :
    w.Spares keys { w' with store } where
  le := h.le
  isKeyed := hkeyed
  view k hk later hle := (Store.view_congr_later hle (hview k hk)).trans (h.view k hk later hle)

/-- An operation on another row. -/
theorem keptBut (h : w.Spares keys w') {key : String} {store : Store}
    (hkept : w'.store.KeptBut key w'.now store) (hkey : ¬ keys key) :
    w.Spares keys { w' with store } :=
  h.withStore (hkept.isKeyed h.isKeyed) fun k hk => hkept.view_eq k fun heq => hkey (heq ▸ hk)

/-- Reading a row. -/
theorem touch (h : w.Spares keys w') (key : String) :
    w.Spares keys { w' with store := (w'.store.touch w'.now key).2 } :=
  h.withStore (h.isKeyed.touch _ _) fun k _ => congrFun (Store.view_touch w'.now key w'.store) k

end World.Spares

/-- A trigger does not write to the store; time may pass while it acts. -/
def Trigger.OnlyReads (t : Trigger σ) : Prop :=
  ∀ params c (w : World σ), w.store.IsKeyed → w.Spares (fun _ => True) (t.perform params c w).2

/-- A trigger that only reads spares all rows. -/
theorem Trigger.OnlyReads.keeps {t : Trigger σ} (h : t.OnlyReads) (w : World σ) (params : Params)
    (c : Context) : Keeps (w.Spares keys) (t.perform params c) :=
  fun w' hw' => hw'.trans ((h params c w' hw'.isKeyed).mono fun _ _ => trivial)

/-- A trigger that anyone may fire, some times a minute, and that does nothing. -/
def Trigger.idle (id : String) (limit : Int) : Trigger σ where
  definition :=
    { id, name := id, pattern := Pattern.command "IDLE" 0, required := ["target"]
      description := "", settings := [], budget := some ⟨.int 60, .int limit⟩, arity := rfl }
  permits _ := .ok (.bool true)
  perform _ _ := return .value .null

/-- A trigger that does nothing only reads. -/
theorem Trigger.onlyReads_idle (id : String) (limit : Int) : (idle id limit : Trigger σ).OnlyReads :=
  fun _ _ _ hkeyed => .refl _ hkeyed

namespace Executor

variable {x : Executor} {t : Trigger σ} {c : Context}

/-- Looking up whether a trigger is switched on spares all rows. -/
theorem keeps_spares_isEnabled (w : World σ) (d : Definition) :
    Keeps (w.Spares keys) (x.isEnabled d) :=
  keeps_isEnabled fun _ hw' _ => hw'.touch (Settings.keyOf d.id)

/-- What the executor finds out about a trigger is what the settings say. -/
theorem isEnabled_of_ok {w : World σ} {d : Definition} {on : Bool} (h : (x.isEnabled d w).1 = .ok on) :
    (Settings.isEnabled w.now d w.store).1 = .ok on := by
  unfold isEnabled at h
  cases hsettings : x.outage.settings with
  | some f =>
    rw [hsettings] at h
    cases h
  | none =>
    rw [hsettings] at h
    dsimp only [Action.tryStore] at h
    split at h
    · cases h
    · exact h

/-- An execution spares rows other than those of the budget and the log. -/
theorem keeps_spares_execute (w : World σ) (hbudget : ¬ keys (Budget.keyOf t.id c.session))
    (hlog : ¬ keys x.log.key) (ht : t.OnlyReads) (params : Value) :
    Keeps (w.Spares keys) (x.execute t params c) := by
  have hmaintains : Maintains x t c (w.Spares keys) :=
    { isEnabled := keeps_spares_isEnabled w _
      isWithinBudget := keeps_isWithinBudget fun _ _ _ hw' _ =>
        hw'.keptBut (Budget.keptBut_allow ..) hbudget
      conclude := fun _ _ _ _ => keeps_conclude fun _ hw' _ _ =>
        hw'.keptBut (x.log.keptBut_append ..) hlog
      perform := fun params _ => ht.keeps w params c }
  exact hmaintains.execute params

end Executor

end Concierge
