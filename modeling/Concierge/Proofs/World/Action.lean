import Concierge.World

/-!
# Running actions

How an action that is built of others runs on a world: one step at a time, each of them with the world
that the step before it has left.
-/

namespace Concierge

/-- A computation goes on with the value of its first step, from the state that it has left. -/
theorem bind_of_ok {ε σ α β : Type} {first : ExceptT ε (StateM σ) α} {next : α → ExceptT ε (StateM σ) β}
    {s s' : σ} {a : α} (h : first s = (.ok a, s')) : (first >>= next) s = next a s' := by
  simp only [Bind.bind, ExceptT.bind, ExceptT.mk, StateT.bind, h]
  rfl

/-- A computation ends with the fault of its first step, in the state that it has left. -/
theorem bind_of_error {ε σ α β : Type} {first : ExceptT ε (StateM σ) α}
    {next : α → ExceptT ε (StateM σ) β} {s s' : σ} {e : ε} (h : first s = (.error e, s')) :
    (first >>= next) s = (.error e, s') := by
  simp only [Bind.bind, ExceptT.bind, ExceptT.mk, StateT.bind, h]
  rfl

/-- A computation that reads the state goes on with it. -/
theorem get_bind_eq {ε σ α : Type} (next : σ → ExceptT ε (StateM σ) α) (s : σ) :
    (get >>= next) s = next s s := rfl

/-- A computation ends with its first step, or goes on from there. -/
theorem bind_cases {ε σ α β : Type} (first : ExceptT ε (StateM σ) α) (next : α → ExceptT ε (StateM σ) β)
    (s : σ) :
    (∃ e s', first s = (.error e, s') ∧ (first >>= next) s = (.error e, s')) ∨
      ∃ a s', first s = (.ok a, s') ∧ (first >>= next) s = next a s' := by
  cases hrun : first s with
  | mk e s' =>
    cases e with
    | error e => exact .inl ⟨e, s', rfl, bind_of_error hrun⟩
    | ok a => exact .inr ⟨a, s', rfl, bind_of_ok hrun⟩

/-- A computation that gives a value has passed its first step, and gone on from there. -/
theorem ok_of_bind {ε σ α β : Type} {first : ExceptT ε (StateM σ) α} {next : α → ExceptT ε (StateM σ) β}
    {s s'' : σ} {b : β} (h : (first >>= next) s = (.ok b, s'')) :
    ∃ a s', first s = (.ok a, s') ∧ next a s' = (.ok b, s'') := by
  rcases bind_cases first next s with ⟨e, s', -, hbind⟩ | ⟨a, s', hrun, hbind⟩
  · cases hbind.symm.trans h
  · exact ⟨a, s', hrun, hbind.symm.trans h⟩

/-- A computation gives its value, however its errors are wrapped. -/
theorem Fault.ok_of_mapError {ε δ α : Type} {wrap : ε → δ} {e : Except ε α} {a : α}
    (h : e.mapError wrap = .ok a) : e = .ok a := by
  cases e with
  | ok b =>
    cases h
    rfl
  | error error => cases h

/-- A computation in two steps that gives a value has passed the first one. -/
theorem Fault.ok_of_bind {ε α β : Type} {first : Except ε α} {next : α → Except ε β} {b : β}
    (h : first >>= next = .ok b) : ∃ a, first = .ok a ∧ next a = .ok b := by
  cases first with
  | ok a => exact ⟨a, rfl, h⟩
  | error error => cases h

/-- What has been made of a value was made of one that is there. -/
theorem Fault.ok_of_map {ε α β : Type} {g : α → β} {e : Except ε α} {b : β} (h : e.map g = .ok b) :
    ∃ a, e = .ok a ∧ g a = b := by
  cases e with
  | ok a => exact ⟨a, rfl, Except.ok.inj h⟩
  | error error => cases h

/-- An error of setting a key is no interrupt. -/
theorem Fault.isInterrupt_ofSet (e : Store.SetError) : (Fault.ofSet e).isInterrupt = false := by
  cases e <;> rfl

namespace Action

variable {σ α : Type} {act : Action σ α} {w after : World σ}

/-- An action on a store that is there gives what the store gives. -/
theorem tryStore_eq {key : String} {f : Instant → Store → Except Fault α × Store}
    {a : Except Fault α} {store : Store} (hpresent : w.isLost = false)
    (h : f w.now w.store = (a, store)) : tryStore key f w = (a, { w with store }) := by
  simp only [tryStore, hpresent, Bool.false_eq_true, if_false, h]

/-- An action on the store that gives a value has it from the store. -/
theorem ok_of_tryStore {key : String} {f : Instant → Store → Except Fault α × Store} {a : α}
    (h : tryStore key f w = (.ok a, after)) : (f w.now w.store).1 = .ok a := by
  unfold tryStore at h
  split at h
  · cases h
  · exact congrArg Prod.fst h

/-- An action whose outcome is a value acts on the world alike. -/
theorem outcome_snd (act : Action σ α) (w : World σ) : (act.outcome w).2 = (act w).2 := by
  unfold outcome
  split
  · rename_i hrun
    rw [hrun]
  · rename_i hrun
    rw [hrun]
    split <;> rfl

/-- The outcome of an action without an interrupt is a value. -/
theorem outcome_of_ordinary {e : Except Fault α} (h : act w = (e, after))
    (hordinary : ∀ f, e = .error f → f.isInterrupt = false) : act.outcome w = (.ok e, after) := by
  cases e with
  | ok a => simp only [outcome, h]
  | error f => simp only [outcome, h, hordinary f rfl, Bool.false_eq_true, if_false]

/-- A recovering action gives the value of an action without a fault. -/
theorem recover_of_ok {handler : Fault → Action σ α} {a : α} (h : act w = (.ok a, after)) :
    act.recover handler w = (.ok a, after) :=
  bind_of_ok (outcome_of_ordinary h (fun _ hfault => by cases hfault))

/-- A recovering action goes on with its handler after an ordinary fault. -/
theorem recover_of_error {handler : Fault → Action σ α} {f : Fault} (h : act w = (.error f, after))
    (hordinary : f.isInterrupt = false) : act.recover handler w = handler f after := by
  refine bind_of_ok (outcome_of_ordinary h ?_)
  rintro _ ⟨rfl⟩
  exact hordinary

/-- A recovering action does not recover from an interrupt. -/
theorem recover_of_interrupt {handler : Fault → Action σ α} {f : Fault}
    (h : act w = (.error f, after)) (hinterrupt : f.isInterrupt = true) :
    act.recover handler w = (.error f, after) := by
  refine bind_of_error ?_
  simp only [outcome, h, hinterrupt, if_true]

/-- What a recovering action comes to from a world depends on what the action comes to from it. -/
theorem recover_congr {act' : Action σ α} {handler : Fault → Action σ α} {w' : World σ}
    (h : act' w' = act w) : act'.recover handler w' = act.recover handler w := by
  have houtcome : act'.outcome w' = act.outcome w := by simp only [outcome, h]
  simp only [recover, Bind.bind, ExceptT.bind, ExceptT.mk, StateT.bind, houtcome]

end Action

end Concierge
