import Concierge.Proofs.Executor.Trail

/-!
# Executions without interrupts

Only an interrupt is a fault of an execution, and no stage of the executor causes one by itself. When
neither the trigger nor the parts that the executor uses raise interrupts, every execution gives a
result.
-/

namespace Concierge

/-! ## Actions without interrupts -/

namespace Action

variable {σ α β : Type}

/-- An action ends with no interrupt. -/
def IsOrdinary (act : Action σ α) : Prop := ∀ w f, (act w).1 = .error f → f.isInterrupt = false

namespace IsOrdinary

/-- An action that gives a value. -/
theorem pure (a : α) : IsOrdinary (Pure.pure a : Action σ α) := fun _ _ h => by cases h

/-- An action that ends with a fault that is no interrupt. -/
theorem throw {f : Fault} (h : f.isInterrupt = false) : IsOrdinary (throw f : Action σ α) := by
  rintro w _ ⟨rfl⟩
  exact h

/-- An action that does not act on the world. -/
theorem ofExcept {e : Except Fault α} (h : ∀ f, e = .error f → f.isInterrupt = false) :
    IsOrdinary (Action.ofExcept e : Action σ α) := fun _ => h

/-- Looking at the world. -/
theorem get : IsOrdinary (MonadState.get : Action σ (World σ)) := fun _ _ h => by cases h

/-- One action after another. -/
theorem bind {first : Action σ α} {next : α → Action σ β} (hfirst : IsOrdinary first)
    (hnext : ∀ a, IsOrdinary (next a)) : IsOrdinary (first >>= next) := by
  intro w f h
  rcases bind_cases first next w with ⟨g, left, hrun, hbind⟩ | ⟨a, left, -, hbind⟩
  · rw [hbind] at h
    cases h
    exact hfirst w _ (congrArg Prod.fst hrun)
  · rw [hbind] at h
    exact hnext a left f h

/-- The outcome of an action is a value then. -/
theorem exists_outcome {act : Action σ α} (h : IsOrdinary act) (w : World σ) :
    act.outcome w = (.ok (act w).1, (act w).2) := outcome_of_ordinary rfl (h w)

/-- An action whose outcome is a value. -/
theorem outcome {act : Action σ α} (h : IsOrdinary act) : IsOrdinary act.outcome := by
  intro w f hfault
  rw [h.exists_outcome] at hfault
  cases hfault

/-- An action on the store without interrupts. -/
theorem tryStore {key : String} {f : Instant → Store → Except Fault α × Store}
    (h : ∀ now s g, (f now s).1 = .error g → g.isInterrupt = false) :
    IsOrdinary (Action.tryStore key f : Action σ α) := by
  intro w g hfault
  dsimp only [Action.tryStore] at hfault
  split at hfault
  · cases hfault
    rfl
  · exact h _ _ _ hfault

end IsOrdinary

end Action

/-! ## The parts of the executor -/

/-- A trigger raises no interrupt in a context. -/
structure Trigger.IsOrdinary {σ : Type} (t : Trigger σ) (c : Context) : Prop where
  permits : ∀ f, t.permits c = .error f → f.isInterrupt = false
  perform : ∀ params, (t.perform params c).IsOrdinary

/-- What is out of order fails with faults that are no interrupts. -/
def Outage.IsOrdinary (o : Outage) : Prop :=
  ∀ f, o.settings = some f ∨ o.log = some f → f.isInterrupt = false

/-- An error of a part of the library is no interrupt. -/
theorem Fault.ordinary_of_mapError {ε α : Type} {wrap : ε → Fault} {e : Except ε α} {f : Fault}
    (hwrap : ∀ error, (wrap error).isInterrupt = false) (h : e.mapError wrap = .error f) :
    f.isInterrupt = false := by
  cases e with
  | ok a => cases h
  | error error =>
    cases h
    exact hwrap error

/-- A computation that is continued with its value is not interrupted if it has not been. -/
theorem Fault.ordinary_of_map {α β : Type} {g : α → β} {e : Except Fault α} {f : Fault}
    (he : ∀ f, e = .error f → f.isInterrupt = false) (h : e.map g = .error f) :
    f.isInterrupt = false := by
  cases e with
  | ok a => cases h
  | error error =>
    cases h
    exact he _ rfl

/-- A computation in two steps is not interrupted if neither step is. -/
theorem Fault.ordinary_of_bind {α β : Type} {first : Except Fault α} {next : α → Except Fault β}
    {f : Fault} (hfirst : ∀ f, first = .error f → f.isInterrupt = false)
    (hnext : ∀ a f, next a = .error f → f.isInterrupt = false) (h : first >>= next = .error f) :
    f.isInterrupt = false := by
  cases first with
  | ok a => exact hnext a f h
  | error error =>
    cases h
    exact hfirst _ rfl

/-- Appending an entry ends with no interrupt. -/
theorem Audit.Log.ordinary_of_append {log : Log} {now : Instant} {entry : Entry} {s : Store} {f : Fault}
    (h : (log.append now entry s).1 = .error f) : f.isInterrupt = false := by
  unfold append at h
  dsimp only at h
  cases hextended : log.extended entry (s.get now log.key).1 with
  | ok items =>
    rw [hextended] at h
    exact Fault.ordinary_of_mapError Fault.isInterrupt_ofSet h
  | error e =>
    rw [hextended] at h
    cases h
    rfl

/-- Reading the settings of a trigger ends with no interrupt. -/
theorem Settings.ordinary_of_resolve {now : Instant} {d : Definition} {s : Store} {f : Fault}
    (h : (resolve now d s).1 = .error f) : f.isInterrupt = false :=
  Fault.ordinary_of_map (fun _ => Fault.ordinary_of_mapError fun _ => rfl) h

/-- Finding out whether a trigger is switched on ends with no interrupt. -/
theorem Settings.ordinary_of_isEnabled {now : Instant} {d : Definition} {s : Store} {f : Fault}
    (h : (isEnabled now d s).1 = .error f) : f.isInterrupt = false :=
  Fault.ordinary_of_map (fun _ => Settings.ordinary_of_resolve) h

/-- An error of a budget is no interrupt. -/
theorem Budget.BudgetError.isInterrupt_fault (e : BudgetError) : e.fault.isInterrupt = false := by
  cases e <;> rfl

/-- A hit against a budget ends with no interrupt. -/
theorem Budget.ordinary_of_allow {now : Instant} {key : String} {window limit : Value} {s : Store}
    {f : Fault} (h : (allow now key window limit s).1 = .error f) : f.isInterrupt = false := by
  unfold allow hit at h
  dsimp only at h
  cases hverdict : verdict limit (s.get now key).1 with
  | error e =>
    rw [hverdict] at h
    cases h
    exact e.isInterrupt_fault
  | ok v =>
    rw [hverdict] at h
    cases v with
    | opening => exact Fault.ordinary_of_mapError Fault.isInterrupt_ofSet h
    | counted n => exact Fault.ordinary_of_mapError Fault.isInterrupt_ofSet h
    | refused => cases h

namespace Executor

open Concierge.Action

variable {σ : Type} {x : Executor} {d : Definition} {c : Context} {entry : Audit.Entry}
  {params : Params} {r : Result} {outcome : Audit.Outcome} {t : Trigger σ}

/-! ## The stages -/

/-- Without an outage of the log, appending an entry ends with no interrupt. -/
theorem ordinary_of_append (hlog : x.outage.log = none) {w : World σ} {f : Fault}
    (h : (x.append entry w).1 = .error f) : f.isInterrupt = false := by
  rw [append, hlog] at h
  dsimp only [tryStore] at h
  split at h
  · cases h
    rfl
  · exact Audit.Log.ordinary_of_append h

/-- What a conclusion gives: its result, unless using the log is interrupted. -/
def concluded (x : Executor) (r : Result) : Except Fault Result :=
  match x.outage.log with
  | some f => if f.isInterrupt then .error f else .ok r
  | none => .ok r

/-- Whatever becomes of the entry, a conclusion gives its result, unless using the log is interrupted. -/
theorem conclude_fst (w : World σ) : (x.conclude d c params r outcome w).1 = x.concluded r := by
  rw [conclude, get_bind_eq]
  generalize Audit.Entry.record d c params r outcome.word (Timestamp.universal w.now) = entry
  unfold concluded
  cases hlog : x.outage.log with
  | some f =>
    have hrun : x.append entry w = (.error f, w) := by
      rw [append, hlog]
      rfl
    cases hinterrupt : f.isInterrupt with
    | true =>
      rw [bind_of_error (recover_of_interrupt hrun hinterrupt)]
      simp only [hinterrupt, if_true]
    | false =>
      rw [bind_of_ok (recover_of_error hrun hinterrupt)]
      simp only [hinterrupt, Bool.false_eq_true, if_false]
      rfl
  | none =>
    cases hrun : x.append entry w with
    | mk appended after =>
      cases appended with
      | ok u =>
        rw [bind_of_ok (recover_of_ok hrun)]
        rfl
      | error f =>
        have hordinary := ordinary_of_append hlog (congrArg Prod.fst hrun)
        rw [bind_of_ok (recover_of_error hrun hordinary)]
        rfl

/-- Whether a trigger is switched on is found out without an interrupt. -/
theorem isOrdinary_isEnabled (houtage : x.outage.IsOrdinary) (d : Definition) :
    (x.isEnabled d : Action σ Bool).IsOrdinary := by
  unfold isEnabled
  cases hsettings : x.outage.settings with
  | some f => exact .throw (houtage f (.inl hsettings))
  | none => exact .tryStore fun _ _ _ => Settings.ordinary_of_isEnabled

/-- A rule without interrupts is asked without one. -/
theorem isOrdinary_isPermitted (hpermits : ∀ f, t.permits c = .error f → f.isInterrupt = false) :
    (Action.ofExcept (isPermitted t c) : Action σ Bool).IsOrdinary := by
  rw [isPermitted_eq hpermits]
  exact .pure _

/-- Hits are counted without an interrupt. -/
theorem isOrdinary_isWithinBudget (x : Executor) (d : Definition) (c : Context) :
    (x.isWithinBudget d c : Action σ Bool).IsOrdinary := by
  unfold isWithinBudget
  split
  · exact .tryStore fun _ _ _ => Budget.ordinary_of_allow
  · exact .pure true

/-- A conclusion is not interrupted. -/
theorem isOrdinary_conclude (houtage : x.outage.IsOrdinary) :
    (x.conclude d c params r outcome : Action σ Result).IsOrdinary := by
  intro w f h
  rw [conclude_fst, concluded] at h
  split at h
  · rename_i g hlog
    rw [houtage g (.inr hlog)] at h
    cases h
  · cases h

/-- Arguments are cleaned without an interrupt. -/
theorem isOrdinary_cleaned (params : Params) : (cleaned params : Action σ Params).IsOrdinary :=
  .ofExcept fun _ => Fault.ordinary_of_mapError Fault.isInterrupt_ofClean

/-- What a call of a trigger comes to is recorded without an interrupt. -/
theorem isOrdinary_settle (houtage : x.outage.IsOrdinary) (d : Definition) (params : Params)
    (ended : Except Fault Answer) : (x.settle d c params ended : Action σ Result).IsOrdinary :=
  IsOrdinary.bind (.ofExcept fun _ => Fault.ordinary_of_mapError fun _ => rfl) fun _ =>
    isOrdinary_conclude houtage

/-- Letting a trigger act ends with no interrupt if the trigger raises none. -/
theorem isOrdinary_fire (houtage : x.outage.IsOrdinary) (ht : t.IsOrdinary c) (params : Params) :
    (x.fire t params c).IsOrdinary := by
  rw [fire_eq_bind]
  exact (ht.perform params).outcome.bind (isOrdinary_settle houtage t.definition params)

/-- An attempt ends with no interrupt if the trigger raises none. -/
theorem isOrdinary_attempt (houtage : x.outage.IsOrdinary) (ht : t.IsOrdinary c) (params : Value) :
    (x.attempt t params c).IsOrdinary := by
  refine .bind (isOrdinary_isEnabled houtage t.definition) fun on => ?_
  cases on with
  | false => exact .pure _
  | true =>
    refine .bind (isOrdinary_isPermitted ht.permits) fun permitted => ?_
    cases permitted with
    | false => exact isOrdinary_conclude houtage
    | true =>
      refine .bind (isOrdinary_isWithinBudget x t.definition c) fun admitted => ?_
      cases admitted with
      | false => exact isOrdinary_conclude houtage
      | true =>
        refine .bind (.ofExcept fun _ => Fault.ordinary_of_mapError fun _ => rfl) fun params => ?_
        unfold checkAndFire
        cases ParamCheck.firstMissing t.definition.required params with
        | some name => exact (isOrdinary_cleaned params).bind fun _ => isOrdinary_conclude houtage
        | none => exact (isOrdinary_cleaned params).bind (isOrdinary_fire houtage ht)

/-- An execution gives a result if the trigger raises no interrupt. -/
theorem exists_execute (houtage : x.outage.IsOrdinary) (ht : t.IsOrdinary c) (params : Value)
    (w : World σ) : ∃ result after, x.execute t params c w = (.ok result, after) := by
  cases hrun : x.attempt t params c w with
  | mk ended after =>
    cases ended with
    | ok result => exact ⟨result, after, recover_of_ok hrun⟩
    | error f =>
      have hordinary := isOrdinary_attempt houtage ht params w f (congrArg Prod.fst hrun)
      exact ⟨x.faulty f, after, recover_of_error hrun hordinary⟩

end Executor

end Concierge
