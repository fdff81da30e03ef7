import Concierge.Proofs.Executor.Scope

/-!
# What an execution does to the site

Of all stages of an execution only the trigger itself acts on the site. So an execution either leaves
the site and fails, or its result and the site are what the trigger has made of them; and then the
context was permitted to fire it, and the arguments were cleaned.
-/

namespace Concierge

/-- The site, and nothing of the store. -/
def Scope.ofSite (σ : Type) : Scope σ := .ofPart (fun _ => False) id

namespace Action

variable {σ α β : Type} {fails : α → Prop} {done : α → σ → Prop} {site : σ} {w : World σ}

/-- An action that leaves the site. -/
theorem Leaves.site_eq {act : Action σ α} (h : Leaves (Scope.ofSite σ) act) (w : World σ) :
    (act w).2.site = w.site := (h w).site.symm

/-- What an action on a site comes to: it has left the site and gives at most a failure, or it gives a
value and has done to the site what that tells. -/
def Brings (fails : α → Prop) (done : α → σ → Prop) (site : σ) (ran : Except Fault α × World σ) : Prop :=
  (ran.2.site = site ∧ ∀ a, ran.1 = .ok a → fails a) ∨ ∃ a, ran.1 = .ok a ∧ done a ran.2.site

namespace Brings

/-- An action that leaves the site, and gives at most a failure. -/
theorem of_leaves {act : Action σ α} (hleaves : Leaves (Scope.ofSite σ) act) (hsite : w.site = site)
    (hfails : ∀ a, (act w).1 = .ok a → fails a) : Brings fails done site (act w) :=
  .inl ⟨(hleaves.site_eq w).trans hsite, hfails⟩

/-- What an action has done may be told in a weaker way. -/
theorem mono {done' : α → σ → Prop} {ran : Except Fault α × World σ} (h : Brings fails done site ran)
    (himp : ∀ a after, done a after → done' a after) : Brings fails done' site ran := by
  rcases h with hleft | ⟨a, ha, hdone⟩
  · exact .inl hleft
  · exact .inr ⟨a, ha, himp a _ hdone⟩

/-- An action whose first step leaves the site comes to what the next one comes to. -/
theorem bind {first : Action σ β} {next : β → Action σ α} (hleaves : Leaves (Scope.ofSite σ) first)
    (hsite : w.site = site)
    (hnext : ∀ b left, first w = (.ok b, left) → left.site = site →
      Brings fails done site (next b left)) :
    Brings fails done site ((first >>= next) w) := by
  have hleft : (first w).2.site = site := (hleaves.site_eq w).trans hsite
  rcases bind_cases first next w with ⟨f, left, hrun, hbind⟩ | ⟨b, left, hrun, hbind⟩
  · rw [hrun] at hleft
    rw [hbind]
    exact .inl ⟨hleft, fun a h => by cases h⟩
  · rw [hrun] at hleft
    rw [hbind]
    exact hnext b left hrun hleft

/-- An action comes to the same when it recovers from its faults by a failure. -/
theorem recover {act : Action σ α} {handler : Fault → α} (h : Brings fails done site (act w))
    (hordinary : act.IsOrdinary) (hfails : ∀ f, fails (handler f)) :
    Brings fails done site (act.recover (fun f => pure (handler f)) w) := by
  cases hrun : act w with
  | mk e left =>
    rw [hrun] at h
    cases e with
    | ok a =>
      rw [recover_of_ok hrun]
      exact h
    | error f =>
      rw [recover_of_error hrun (hordinary w f (congrArg Prod.fst hrun))]
      rcases h with ⟨hsite, -⟩ | ⟨a, ha, -⟩
      · refine .inl ⟨hsite, ?_⟩
        rintro a ⟨rfl⟩
        exact hfails f
      · cases ha

/-- An action whose first step leaves the site comes to what the next one comes to, also when faults are
recovered from by a failure. -/
theorem recover_bind {first : Action σ β} {next : β → Action σ α} {handler : Fault → α}
    (hleaves : Leaves (Scope.ofSite σ) first) (hordinary : first.IsOrdinary) (hsite : w.site = site)
    (hfails : ∀ f, fails (handler f))
    (hnext : ∀ b left, first w = (.ok b, left) → left.site = site →
      Brings fails done site ((next b).recover (fun f => pure (handler f)) left)) :
    Brings fails done site ((first >>= next).recover (fun f => pure (handler f)) w) := by
  have hleft : (first w).2.site = site := (hleaves.site_eq w).trans hsite
  rcases bind_cases first next w with ⟨f, left, hrun, hbind⟩ | ⟨b, left, hrun, hbind⟩
  · rw [hrun] at hleft
    rw [recover_of_error hbind (hordinary w f (congrArg Prod.fst hrun))]
    refine .inl ⟨hleft, ?_⟩
    rintro a ⟨rfl⟩
    exact hfails f
  · rw [hrun] at hleft
    rw [recover_congr hbind]
    exact hnext b left hrun hleft

end Brings

end Action

namespace Executor

open Concierge.Action

variable {σ : Type} {x : Executor} {t : Trigger σ} {d : Definition} {c : Context} {params : Params}
  {r : Result} {outcome : Audit.Outcome} {site : σ} {w : World σ}

/-- What has become of a site when a trigger has acted: the context may fire it, the arguments were
cleaned, and the trigger began with a world that had the site. -/
def Acted (x : Executor) (t : Trigger σ) (c : Context) (site : σ) (r : Result) (after : σ) : Prop :=
  ∃ given params w, isPermitted t c = .ok true ∧ Clean.arguments given = .ok params ∧
    w.site = site ∧ r = x.resultOf (t.perform params c w).1 ∧ after = (t.perform params c w).2.site

/-- An attempt, recovered from its faults, fails and leaves the site, or the trigger has acted. -/
abbrev Attempted (x : Executor) (t : Trigger σ) (c : Context) (site : σ) (attempt : Action σ Result)
    (w : World σ) : Prop :=
  Brings (fun r => r.success = false) (x.Acted t c site) site
    (attempt.recover (fun f => pure (x.faulty f)) w)

/-- Without an interrupt a conclusion gives its result. -/
theorem concluded_of_ordinary (houtage : x.outage.IsOrdinary) (r : Result) : x.concluded r = .ok r := by
  unfold concluded
  cases hlog : x.outage.log with
  | none => rfl
  | some f => exact if_neg (Bool.eq_false_iff.mp (houtage f (.inr hlog)))

/-- An attempt that is limited is only recorded, and ends with the failure that says so. -/
theorem execute_of_limited (houtage : x.outage.IsOrdinary) {left : World σ}
    (h : x.admission t c w = (.ok .limited, left)) (params : Value) :
    (x.execute t params c w).1 = .ok (.failure "rate limit exceeded") := by
  have hattempt : x.attempt t params c w = x.follow t params c .limited left := by
    rw [attempt_eq_bind]
    exact bind_of_ok h
  have hresult : (x.follow t params c .limited left).1 = .ok (.failure "rate limit exceeded") := by
    rw [follow, conclude_fst, concluded_of_ordinary houtage]
  exact congrArg Prod.fst (recover_of_ok (hattempt.trans (Prod.ext hresult rfl)))

/-- An attempt that is limited does not depend on what the trigger would do. -/
theorem execute_of_limited_eq {left : World σ} (h : x.admission t c w = (.ok .limited, left))
    (perform : Params → Context → Action σ Answer) (params : Value) :
    x.execute { t with perform } params c w = x.execute t params c w := by
  have hattempt (u : Trigger σ) (hu : x.admission u c w = (.ok .limited, left)) :
      x.attempt u params c w = x.follow u params c .limited left := by
    rw [attempt_eq_bind]
    exact bind_of_ok hu
  exact recover_congr ((hattempt { t with perform } h).trans (hattempt t h).symm)

/-- A conclusion leaves the site. -/
theorem leaves_conclude_site : Leaves (Scope.ofSite σ) (x.conclude d c params r outcome) :=
  leaves_conclude (S := .ofSite σ) fun h => h

/-- The conclusion of a failure is a failure. -/
theorem attempted_conclude (houtage : x.outage.IsOrdinary) (hsite : w.site = site)
    (hfailed : r.success = false) : x.Attempted t c site (x.conclude d c params r outcome) w := by
  refine Brings.recover (.of_leaves leaves_conclude_site hsite fun result h => ?_)
    (isOrdinary_conclude houtage) fun _ => rfl
  rw [conclude_fst, concluded_of_ordinary houtage] at h
  cases h
  exact hfailed

/-- Letting a trigger act. -/
theorem attempted_fire (houtage : x.outage.IsOrdinary) (ht : t.IsOrdinary c) (hsite : w.site = site)
    (hpermitted : isPermitted t c = .ok true) {given : Params}
    (hcleaned : Clean.arguments given = .ok params) : x.Attempted t c site (x.fire t params c) w := by
  have hleaves : Leaves (Scope.ofSite σ)
      ((x.settle t.definition c params (t.perform params c w).1).recover fun f => pure (x.faulty f)) :=
    (leaves_settle (fun h => h) _).recover fun _ => .ofExcept _ (.ok _)
  rw [Attempted, fire_eq_bind, recover_congr (bind_of_ok ((ht.perform params).exists_outcome w))]
  refine .inr ⟨x.resultOf (t.perform params c w).1, ?_, given, params, w, hpermitted, hcleaned, hsite, rfl, ?_⟩
  · exact recover_settle_fst (fun f hf => houtage f (.inr hf)) _ _
  · exact hleaves.site_eq _

/-- Arguments that pass are cleaned ones. -/
theorem arguments_of_cleaned {given : Params} {left : World σ}
    (h : (cleaned given : Action σ Params) w = (.ok params, left)) :
    Clean.arguments given = .ok params := Fault.ok_of_mapError (congrArg Prod.fst h)

/-- Passing a directive through all checks. -/
theorem attempted_attempt (houtage : x.outage.IsOrdinary) (ht : t.IsOrdinary c) (params : Value)
    (w : World σ) : x.Attempted t c w.site (x.attempt t params c) w := by
  have hfaulty : ∀ f, (x.faulty f).success = false := fun _ => rfl
  refine .recover_bind (leaves_isEnabled x _ t.definition) (isOrdinary_isEnabled houtage _) rfl hfaulty
    fun on w _ hsite => ?_
  cases on with
  | false =>
    refine .recover (.of_leaves (.ofExcept _ (.ok _)) hsite fun result h => ?_) (.pure _) hfaulty
    cases h
    rfl
  | true =>
    refine .recover_bind (.ofExcept _ _) (isOrdinary_isPermitted ht.permits) hsite hfaulty
      fun permitted w hpermitted hsite => ?_
    cases permitted with
    | false => exact attempted_conclude houtage hsite rfl
    | true =>
      refine .recover_bind (leaves_isWithinBudget x fun h => h) (isOrdinary_isWithinBudget x _ c) hsite
        hfaulty fun admitted w _ hsite => ?_
      cases admitted with
      | false => exact attempted_conclude houtage hsite rfl
      | true =>
        refine .recover_bind (.ofExcept _ _) (.ofExcept fun _ => Fault.ordinary_of_mapError fun _ => rfl)
          hsite hfaulty fun params w _ hsite => ?_
        unfold checkAndFire
        cases ParamCheck.firstMissing t.definition.required params with
        | some name =>
          exact .recover_bind (.ofExcept _ _) (isOrdinary_cleaned params) hsite hfaulty
            fun _ w _ hsite => attempted_conclude houtage hsite rfl
        | none =>
          refine .recover_bind (.ofExcept _ _) (isOrdinary_cleaned params) hsite hfaulty
            fun _ w hcleaned hsite => ?_
          exact attempted_fire houtage ht hsite (congrArg Prod.fst hpermitted)
            (arguments_of_cleaned hcleaned)

/-- An execution gives a result: it has failed and left the site, or the trigger has acted. -/
theorem execute_cases (houtage : x.outage.IsOrdinary) (ht : t.IsOrdinary c) (params : Value)
    (w : World σ) : ∃ result after, x.execute t params c w = (.ok result, after) ∧
      ((after.site = w.site ∧ result.success = false) ∨ x.Acted t c w.site result after.site) := by
  obtain ⟨result, after, hrun⟩ := exists_execute houtage ht params w
  have hbrings : Brings (fun r => r.success = false) (x.Acted t c w.site) w.site
      (x.execute t params c w) := attempted_attempt houtage ht params w
  rw [hrun] at hbrings
  refine ⟨result, after, hrun, ?_⟩
  rcases hbrings with ⟨hsite, hfails⟩ | ⟨_, ⟨rfl⟩, hacted⟩
  · exact .inl ⟨hsite, hfails result rfl⟩
  · exact .inr hacted

end Executor

end Concierge
