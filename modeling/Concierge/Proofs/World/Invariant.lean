import Concierge.Proofs.World.Action

/-!
# Invariants of computations

A computation keeps an invariant of the state that it acts on, whether it gives a value or ends with a
fault. Where a later step depends on the value of an earlier one, it matters besides which values the
earlier step can give. Both are told step by step for a computation that is built of others.
-/

namespace Concierge

variable {ε σ α β : Type} {I : σ → Prop}

/-- A computation keeps an invariant of its state. -/
def Keeps (I : σ → Prop) (run : ExceptT ε (StateM σ) α) : Prop := ∀ s, I s → I (run s).2

/-- From a state with the invariant, a computation gives only certain values. -/
def Gives (I : σ → Prop) (run : ExceptT ε (StateM σ) α) (Q : α → Prop) : Prop :=
  ∀ s, I s → ∀ a, (run s).1 = .ok a → Q a

namespace Keeps

/-- The state that a computation leaves has the invariant. -/
theorem of_run {run : ExceptT ε (StateM σ) α} (h : Keeps I run) {s left : σ} {e : Except ε α}
    (hs : I s) (hrun : run s = (e, left)) : I left := by
  have hleft := h s hs
  rwa [hrun] at hleft

/-- A computation that leaves the state as it is. -/
theorem of_silent {run : ExceptT ε (StateM σ) α} (h : ∀ s, (run s).2 = s) : Keeps I run := by
  intro s hs
  rwa [h s]

/-- Giving a value. -/
theorem pure (a : α) : Keeps I (Pure.pure a : ExceptT ε (StateM σ) α) := fun _ hs => hs

/-- Reading the state. -/
theorem get : Keeps I (MonadState.get : ExceptT ε (StateM σ) σ) := fun _ hs => hs

/-- One computation after another, where the first one comes to a state with the invariant. -/
theorem snd_bind {first : ExceptT ε (StateM σ) α} {next : α → ExceptT ε (StateM σ) β} {s : σ}
    (hfirst : I (first s).2) (hnext : ∀ a, Keeps I (next a)) : I ((first >>= next) s).2 := by
  rcases bind_cases first next s with ⟨e, left, hrun, hbind⟩ | ⟨a, left, hrun, hbind⟩
  · rw [hbind]
    rwa [hrun] at hfirst
  · rw [hrun] at hfirst
    rw [hbind]
    exact hnext a left hfirst

/-- One computation after another, where the second depends on what the first can give. -/
theorem bind_of {first : ExceptT ε (StateM σ) α} {next : α → ExceptT ε (StateM σ) β} {Q : α → Prop}
    (hfirst : Keeps I first) (hgives : Gives I first Q) (hnext : ∀ a, Q a → Keeps I (next a)) :
    Keeps I (first >>= next) := by
  intro s hs
  rcases bind_cases first next s with ⟨e, left, hrun, hbind⟩ | ⟨a, left, hrun, hbind⟩
  · rw [hbind]
    exact hfirst.of_run hs hrun
  · rw [hbind]
    exact hnext a (hgives s hs a (congrArg Prod.fst hrun)) left (hfirst.of_run hs hrun)

/-- One computation after another. -/
theorem bind {first : ExceptT ε (StateM σ) α} {next : α → ExceptT ε (StateM σ) β}
    (hfirst : Keeps I first) (hnext : ∀ a, Keeps I (next a)) : Keeps I (first >>= next) :=
  fun s hs => snd_bind (hfirst s hs) hnext

end Keeps

namespace Gives

variable {run : ExceptT ε (StateM σ) α} {Q : α → Prop}

/-- Whatever a computation gives is a value of its type. -/
theorem of_forall (h : ∀ a, Q a) : Gives I run Q := fun _ _ a _ => h a

/-- What gives only certain values gives only values of a larger class. -/
theorem mono {Q' : α → Prop} (h : Gives I run Q) (himp : ∀ a, Q a → Q' a) : Gives I run Q' :=
  fun s hs a ha => himp a (h s hs a ha)

/-- Giving a value. -/
theorem pure {a : α} (h : Q a) : Gives I (Pure.pure a : ExceptT ε (StateM σ) α) Q := by
  rintro s - _ ⟨rfl⟩
  exact h

/-- One computation after another. -/
theorem bind {first : ExceptT ε (StateM σ) β} {next : β → ExceptT ε (StateM σ) α} {R : β → Prop}
    (hkeeps : Keeps I first) (hfirst : Gives I first R) (hnext : ∀ b, R b → Gives I (next b) Q) :
    Gives I (first >>= next) Q := by
  intro s hs a ha
  obtain ⟨b, left, hrun, hrest⟩ := ok_of_bind (Prod.ext ha rfl : (first >>= next) s = (.ok a, _))
  exact hnext b (hfirst s hs b (congrArg Prod.fst hrun)) left (hkeeps.of_run hs hrun) a
    (congrArg Prod.fst hrest)

end Gives

/-! ## Actions -/

namespace Action

variable {σ α β : Type} {I : World σ → Prop}

/-- An action that does not act on the world. -/
theorem keeps_ofExcept (e : Except Fault α) : Keeps I (Action.ofExcept e : Action σ α) := fun _ hw => hw

/-- A value that is computed without acting on the world, and an action that depends on it. -/
theorem keeps_ofExcept_bind {e : Except Fault α} {next : α → Action σ β}
    (h : ∀ a, e = .ok a → Keeps I (next a)) : Keeps I (Action.ofExcept e >>= next) :=
  (keeps_ofExcept e).bind_of (Q := fun a => e = .ok a) (fun _ _ _ ha => ha) h

/-- An action whose outcome is a value. -/
theorem keeps_outcome {act : Action σ α} (h : Keeps I act) : Keeps I act.outcome := by
  intro w hw
  rw [outcome_snd]
  exact h w hw

/-- An action that comes to a world with the invariant, and another one that takes over after an ordinary
fault. -/
theorem snd_recover {act : Action σ α} {handler : Fault → Action σ α} {w : World σ} (h : I (act w).2)
    (hhandler : ∀ f, Keeps I (handler f)) : I (act.recover handler w).2 := by
  refine Keeps.snd_bind (by rwa [outcome_snd]) fun e => ?_
  cases e with
  | ok a => exact .pure a
  | error f => exact hhandler f

/-- An action after whose ordinary faults another one takes over. -/
theorem keeps_recover {act : Action σ α} {handler : Fault → Action σ α} (h : Keeps I act)
    (hhandler : ∀ f, Keeps I (handler f)) : Keeps I (act.recover handler) :=
  fun w hw => snd_recover (h w hw) hhandler

/-- An action on the store. -/
theorem keeps_tryStore {key : String} {f : Instant → Store → Except Fault α × Store}
    (h : ∀ w, I w → w.isLost = false → I { w with store := (f w.now w.store).2 }) :
    Keeps I (Action.tryStore key f) := by
  intro w hw
  unfold Action.tryStore
  split
  · exact hw
  · rename_i hpresent
    exact h w hw (by simpa using hpresent)

end Action

end Concierge
