import Concierge.Proofs.Executor.Invariant
import Concierge.Proofs.Store.Depend
import Concierge.Proofs.World.Scope

/-!
# Executions in a scope

An execution changes the row of the trigger's budget, the row of the log, and what the trigger changes;
it depends on these and on the row of the trigger's settings. In a scope to which nothing of this
belongs it changes nothing. In a scope that has the settings and the budget, what comes of it is the
same from worlds that are alike, as far as that holds of the trigger itself.
-/

namespace Concierge

namespace Action

variable {σ α : Type} {S : Scope σ} {key : String} {f : Instant → Store → Except Fault α × Store}

/-- An operation on one row leaves a scope that does not have the row. -/
theorem Leaves.ofKey (hkept : ∀ now (s : Store), s.KeptBut key now (f now s).2) (hunseen : ¬ S.sees key) :
    Leaves S (Action.tryStore key f) :=
  .tryStore fun now s k hk => (hkept now s).view_eq k fun heq => hunseen (heq ▸ hk)

/-- An operation that depends on one row runs in step with itself in a scope that has the row. -/
theorem InStep.ofKey (hkept : ∀ now (s : Store), s.KeptBut key now (f now s).2)
    (hdepends : ∀ now, Store.DependsOn key now (f now)) (hsees : S.sees key) :
    InStep S Eq (Action.tryStore key f) (Action.tryStore key f) := by
  refine .tryStore fun now s s' hview => ?_
  obtain ⟨hgiven, hleft⟩ := hdepends now s s' (hview key hsees)
  refine ⟨.of_eq (fun _ => rfl) hgiven.symm, fun k hk => ?_⟩
  by_cases hkey : k = key
  · rw [hkey, hleft]
  · rw [(hkept now s').view_eq k hkey, (hkept now s).view_eq k hkey, hview k hk]

end Action

namespace Executor

open Concierge.Action

variable {σ : Type} {x : Executor} {S : Scope σ} {d : Definition} {c : Context}

/-! ## The settings and the budget -/

/-- Finding out whether a trigger is switched on changes nothing. -/
theorem leaves_isEnabled (x : Executor) (S : Scope σ) (d : Definition) : Leaves S (x.isEnabled d) := by
  unfold isEnabled
  split
  · rename_i f _
    exact .ofExcept S (.error f)
  · exact .tryStore fun now s k _ => congrFun (s.view_get now (Settings.keyOf d.id)) k

/-- Whether a trigger is switched on depends on its settings. -/
theorem inStep_isEnabled (x : Executor) (hsees : S.sees (Settings.keyOf d.id)) :
    InStep S Eq (x.isEnabled d) (x.isEnabled d) := by
  unfold isEnabled
  split
  · rename_i f _
    exact .ofExcept (fun _ => rfl) (.error f)
  · exact .ofKey (fun now s => .get (Settings.keyOf d.id) now s)
      (fun now => Settings.dependsOn_isEnabled now d) hsees

/-- A hit of a budget changes its row only. -/
theorem leaves_isWithinBudget (x : Executor) (hunseen : ¬ S.sees (Budget.keyOf d.id c.session)) :
    Leaves S (x.isWithinBudget d c) := by
  unfold isWithinBudget
  split
  · exact .ofKey (fun now s => Budget.keptBut_allow now _ _ _ s) hunseen
  · exact .ofExcept S (.ok true)

/-- Whether a hit is admitted depends on the row of the budget. -/
theorem inStep_isWithinBudget (x : Executor) (hsees : S.sees (Budget.keyOf d.id c.session)) :
    InStep S Eq (x.isWithinBudget d c) (x.isWithinBudget d c) := by
  unfold isWithinBudget
  split
  · exact .ofKey (fun now s => Budget.keptBut_allow now _ _ _ s)
      (fun now => Budget.dependsOn_allow now _ _ _) hsees
  · exact .pure rfl

/-! ## The log -/

variable {entry : Audit.Entry}

/-- Appending an entry changes the row of the log only. -/
theorem leaves_append (hunseen : ¬ S.sees x.log.key) : Leaves S (x.append entry) := by
  unfold append
  split
  · rename_i f _
    exact .ofExcept S (.error f)
  · exact .ofKey (fun now s => x.log.keptBut_append now entry s) hunseen

/-- Appending an entry depends on the row of the log. -/
theorem inStep_append (hsees : S.sees x.log.key) : InStep S Eq (x.append entry) (x.append entry) := by
  unfold append
  split
  · rename_i f _
    exact .ofExcept (fun _ => rfl) (.error f)
  · exact .ofKey (fun now s => x.log.keptBut_append now entry s)
      (fun now => x.log.dependsOn_append now entry) hsees

variable {params : Params} {r r' : Result} {outcome outcome' : Audit.Outcome}

/-- A conclusion changes the row of the log only. -/
theorem leaves_conclude (hunseen : ¬ S.sees x.log.key) :
    Leaves S (x.conclude d c params r outcome) := by
  refine .bind (fun w => .refl S w) fun w => ?_
  exact .bind ((leaves_append hunseen).recover fun _ => .ofExcept S (.ok ()))
    fun _ => .ofExcept S (.ok r)

/-- Conclusions run in step where the log is not seen, if their results are related. -/
theorem inStep_conclude_of_unseen {Q : Result → Result → Prop} (hunseen : ¬ S.sees x.log.key)
    (hresult : Q r r') :
    InStep S Q (x.conclude d c params r outcome) (x.conclude d c params r' outcome') := by
  refine .of_leaves (leaves_conclude hunseen) (leaves_conclude hunseen) fun w w' _ => ?_
  rw [conclude_fst, conclude_fst]
  unfold concluded
  split
  · split
    · rfl
    · exact hresult
  · exact hresult

/-- A conclusion runs in step with itself. -/
theorem inStep_conclude :
    InStep S Eq (x.conclude d c params r outcome) (x.conclude d c params r outcome) := by
  by_cases hsees : S.sees x.log.key
  · refine .bind (R := S.Alike) (fun w w' halike => ⟨halike, halike⟩) fun w w' halike => ?_
    rw [halike.now]
    exact .bind ((inStep_append hsees).recover fun _ => .pure rfl) fun _ _ _ => .pure rfl
  · exact inStep_conclude_of_unseen hsees rfl

/-! ## The trigger -/

variable {t t' : Trigger σ}

/-- An attempt that is concluded without an interrupt has the result of the call of its trigger. -/
theorem recover_settle_fst (hlog : ∀ f, x.outage.log = some f → f.isInterrupt = false)
    (ended : Except Fault Answer) (w : World σ) :
    ((x.settle d c params ended).recover (fun f => pure (x.faulty f)) w).1 =
      .ok (x.resultOf ended) := by
  unfold resultOf
  cases hended : x.conclusion ended with
  | error e =>
    rw [settle_of_error hended]
    exact congrArg Prod.fst (recover_of_error (f := .number e) rfl rfl)
  | ok concluded =>
    obtain ⟨result, word⟩ := concluded
    have hresult : (x.conclude d c params result word w).1 = .ok result := by
      rw [conclude_fst, concluded]
      cases hout : x.outage.log with
      | none => rfl
      | some f => exact if_neg (by rw [hlog f hout]; exact Bool.false_ne_true)
    rw [settle_of_ok hended]
    exact congrArg Prod.fst (recover_of_ok (Prod.ext hresult rfl))

/-- What a call of a trigger comes to is recorded in the row of the log only. -/
theorem leaves_settle (hunseen : ¬ S.sees x.log.key) (ended : Except Fault Answer) :
    Leaves S (x.settle d c params ended) :=
  .bind (.ofExcept S _) fun _ => leaves_conclude hunseen

/-- Two triggers with one definition act in step as far as an execution can tell, if what they end with is
recorded alike, or if the log is not seen in the scope and using it is not interrupted. -/
theorem inStep_fire {R : Except Fault Answer → Except Fault Answer → Prop}
    {Q : Result → Result → Prop} (hrefl : ∀ r, Q r r) (hdefinition : t'.definition = t.definition)
    (hperform : InStep S R (t.perform params c).outcome (t'.perform params c).outcome)
    (hrecorded : ∀ ended ended', R ended ended' → x.conclusion ended' = x.conclusion ended ∨
      (¬ S.sees x.log.key ∧ ∀ f, x.outage.log = some f → f.isInterrupt = false) ∧
        Q (x.resultOf ended) (x.resultOf ended')) :
    InStep S Q ((x.fire t params c).recover fun f => pure (x.faulty f))
      ((x.fire t' params c).recover fun f => pure (x.faulty f)) := by
  rw [fire_eq_bind, fire_eq_bind, hdefinition]
  refine .recover_bind hperform (fun ended ended' hended => ?_) fun f => .pure (hrefl _)
  rcases hrecorded ended ended' hended with hsame | ⟨⟨hunseen, hlog⟩, hresult⟩
  · have hsettle : (x.settle t.definition c params ended' : Action σ Result) =
        x.settle t.definition c params ended := by rw [settle, settle, hsame]
    rw [hsettle]
    refine .recover (.bind (.ofExcept (fun _ => rfl) _) fun concluded _ heq => ?_)
      fun f => .pure (hrefl _)
    subst heq
    exact inStep_conclude.mono fun r r' heq => heq ▸ hrefl r
  · refine .of_leaves ((leaves_settle hunseen ended).recover fun _ => .ofExcept S (.ok _))
      ((leaves_settle hunseen ended').recover fun _ => .ofExcept S (.ok _)) fun w w' _ => ?_
    rw [recover_settle_fst hlog, recover_settle_fst hlog]
    exact hresult

/-! ## An execution -/

/-- What follows from a decision leaves a scope that does not have the log, if the trigger leaves it. -/
theorem leaves_follow (hlog : ¬ S.sees x.log.key) (hperform : ∀ params, Leaves S (t.perform params c))
    (params : Value) (admission : Admission) : Leaves S (x.follow t params c admission) :=
  fun w => keeps_follow (fun _ _ _ _ => (leaves_conclude hlog).keeps w)
    (fun params _ => (hperform params).keeps w) params admission w (.refl S w)

/-- An execution leaves a scope that has neither the budget nor the log, if the trigger leaves it. -/
theorem leaves_execute (hbudget : ¬ S.sees (Budget.keyOf t.id c.session))
    (hlog : ¬ S.sees x.log.key) (hperform : ∀ params, Leaves S (t.perform params c)) (params : Value) :
    Leaves S (x.execute t params c) := by
  intro w
  refine snd_execute (keeps_admission ((leaves_isEnabled x S t.definition).keeps w)
    ((leaves_isWithinBudget x hbudget).keeps w) w (.refl S w)) fun admission => ?_
  exact (leaves_follow hlog hperform params admission).keeps w

/-- Decisions about two triggers with one definition and one rule are the same in a scope that has the
settings and the budget. -/
theorem inStep_admission (x : Executor) (hdefinition : t'.definition = t.definition)
    (hpermits : t'.permits = t.permits) (hsettings : S.sees (Settings.keyOf t.id))
    (hbudget : S.sees (Budget.keyOf t.id c.session)) :
    InStep S Eq (x.admission t c) (x.admission t' c) := by
  have hrule : isPermitted t' c = isPermitted t c := by rw [isPermitted, isPermitted, hpermits]
  unfold admission
  rw [hdefinition, hrule]
  refine .bind (inStep_isEnabled x hsettings) fun on _ heq => ?_
  subst heq
  cases on with
  | false => exact .pure rfl
  | true =>
    refine .bind (.ofExcept (fun _ => rfl) _) fun permitted _ heq => ?_
    subst heq
    cases permitted with
    | false => exact .pure rfl
    | true =>
      refine .bind (inStep_isWithinBudget x hbudget) fun within _ heq => ?_
      subst heq
      cases within <;> exact .pure rfl

/-- Executions of two triggers with one definition and one rule run in step in a scope that has the
settings and the budget, if the triggers do when they act, as far as an execution can tell. -/
theorem inStep_execute {Q : Result → Result → Prop} (hrefl : ∀ r, Q r r)
    (hdefinition : t'.definition = t.definition) (hpermits : t'.permits = t.permits)
    (hsettings : S.sees (Settings.keyOf t.id)) (hbudget : S.sees (Budget.keyOf t.id c.session))
    (hfire : ∀ params, InStep S Q ((x.fire t params c).recover fun f => pure (x.faulty f))
      ((x.fire t' params c).recover fun f => pure (x.faulty f))) (params : Value) :
    InStep S Q (x.execute t params c) (x.execute t' params c) := by
  have hfaulty (f : Fault) :
      InStep S Q (pure (x.faulty f) : Action σ Result) (pure (x.faulty f)) := .pure (hrefl _)
  have hconclude (params : Params) (r : Result) (outcome : Audit.Outcome) : InStep S Q
      ((x.conclude t.definition c params r outcome).recover fun f => pure (x.faulty f))
      ((x.conclude t.definition c params r outcome).recover fun f => pure (x.faulty f)) :=
    .recover (inStep_conclude.mono fun r r' heq => heq ▸ hrefl r) hfaulty
  unfold execute
  rw [attempt_eq_bind, attempt_eq_bind]
  refine .recover_bind (inStep_admission x hdefinition hpermits hsettings hbudget)
    (fun admission _ heq => ?_) hfaulty
  subst heq
  unfold follow
  rw [hdefinition]
  cases admission with
  | off => exact .recover (.pure (hrefl _)) hfaulty
  | denied => exact hconclude _ _ _
  | limited => exact hconclude _ _ _
  | admitted =>
    refine .recover_bind (.ofExcept (fun _ => rfl) _) (fun params _ heq => ?_) hfaulty
    subst heq
    unfold checkAndFire
    rw [hdefinition]
    cases ParamCheck.firstMissing t.definition.required params with
    | some name =>
      refine .recover_bind (.ofExcept (fun _ => rfl) _) (fun params _ heq => ?_) hfaulty
      subst heq
      exact hconclude _ _ _
    | none =>
      refine .recover_bind (.ofExcept (fun _ => rfl) _) (fun params _ heq => ?_) hfaulty
      subst heq
      exact hfire params

end Executor

end Concierge
