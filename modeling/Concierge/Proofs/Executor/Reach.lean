import Concierge.Proofs.Executor.Effect
import Concierge.Proofs.Store.Settings

/-!
# Directives that reach their trigger

An execution calls its trigger when the attempt is admitted, no required argument is missing and all
arguments can be cleaned. The trigger then begins with the world that the admission has left, and an
execution that does not come so far leaves the site as it was.
-/

namespace Concierge

namespace ParamCheck

variable {required : List String} {given : Params}

/-- Only a dictionary holds arguments. -/
theorem dict_of_arguments {v : Value} (h : arguments required v = .ok given) : v = .dict given := by
  have hentries : v.entries = .ok given := by
    unfold arguments at h
    split at h
    · exact h
    · exact Fault.ok_of_mapError h
  cases v with
  | dict entries =>
    obtain rfl : entries = given := Except.ok.inj hentries
    rfl
  | _ => cases hentries

/-- Where nothing is missing, every required argument is there and is not blank. -/
theorem exists_of_complete (h : firstMissing required given = none) {name : String}
    (hname : name ∈ required) : ∃ raw, Dict.find? name given = some raw ∧ raw.isBlank = false := by
  have hthere := List.find?_eq_none.mp h name hname
  cases hraw : Dict.find? name given with
  | none =>
    rw [hraw] at hthere
    exact absurd rfl hthere
  | some raw =>
    rw [hraw] at hthere
    exact ⟨raw, rfl, by simpa using hthere⟩

end ParamCheck

namespace Executor

open Concierge.Action

variable {σ : Type} {x : Executor} {t : Trigger σ} {c : Context} {params : Value} {given : Params}
  {w : World σ}

/-- A directive reaches its trigger: it is admitted, and has arguments of which none that is required is
missing. The trigger gets them cleaned, and begins with the world that the admission has left. -/
structure Reaches (x : Executor) (t : Trigger σ) (params : Value) (c : Context) (w : World σ)
    (given cleaned : Params) (begun : World σ) : Prop where
  admitted : x.admission t c w = (.ok .admitted, begun)
  given_eq : params = .dict given
  complete : ParamCheck.firstMissing t.definition.required given = none
  cleaned_eq : Clean.arguments given = .ok cleaned

/-- Deciding about an attempt leaves a scope that does not have the budget. -/
theorem leaves_admission {S : Scope σ} (hbudget : ¬ S.sees (Budget.keyOf t.definition.id c.session)) :
    Leaves S (x.admission t c) := fun w =>
  keeps_admission ((leaves_isEnabled x S t.definition).keeps w)
    ((leaves_isWithinBudget x hbudget).keeps w) w (.refl S w)

/-- Deciding about an attempt leaves the site. -/
theorem leaves_admission_site : Leaves (Scope.ofSite σ) (x.admission t c) :=
  leaves_admission (S := .ofSite σ) fun h => h

/-- The trigger begins with the site of the world that the directive was executed in. -/
theorem Reaches.site_eq {cleaned : Params} {begun : World σ}
    (h : x.Reaches t params c w given cleaned begun) : begun.site = w.site := by
  have hleft : (x.admission t c w).2.site = w.site := leaves_admission_site.site_eq w
  rwa [h.admitted] at hleft

/-- The trigger begins with the settings that the directive was executed with. -/
theorem Reaches.settings_eq {cleaned : Params} {begun : World σ}
    (h : x.Reaches t params c w given cleaned begun) :
    (Settings.resolve begun.now t.definition begun.store).1 =
      (Settings.resolve w.now t.definition w.store).1 := by
  have hbudget : Budget.keyOf t.definition.id c.session ≠ Settings.keyOf t.definition.id :=
    ne_of_getElem? (Budget.getElem?_keyOf _ _) (Settings.getElem?_keyOf _) (by decide)
  have halike : (Scope.ofKeys fun k => k = Settings.keyOf t.definition.id).Alike w begun :=
    (leaves_admission hbudget).alike h.admitted
  refine Settings.resolve_congr ?_
  rw [halike.now]
  exact halike.view _ rfl

/-- The trigger begins while the store is there, if the directive was executed while it was. -/
theorem Reaches.isLost_eq {cleaned : Params} {begun : World σ}
    (h : x.Reaches t params c w given cleaned begun) : begun.isLost = w.isLost :=
  (leaves_admission_site.alike h.admitted).isLost

/-- A trigger that is switched on, that the context may fire and that has hits left is admitted. What the
budget is told before the settings are looked up it is told after that as well. -/
theorem admission_of_checks (henabled : (x.isEnabled t.definition w).1 = .ok true)
    (hpermitted : isPermitted t c = .ok true)
    (hwithin : (x.isWithinBudget t.definition c w).1 = .ok true) :
    (x.admission t c w).1 = .ok .admitted := by
  let budget : Scope σ := .ofKeys (· = Budget.keyOf t.definition.id c.session)
  have halike : budget.Alike w (x.isEnabled t.definition w).2 := leaves_isEnabled x budget t.definition w
  have hsame := (inStep_isWithinBudget x (S := budget) rfl _ _ halike).1.eq
  rw [hwithin] at hsame
  have hrule : (Action.ofExcept (isPermitted t c) : Action σ Bool) (x.isEnabled t.definition w).2 =
      (.ok true, (x.isEnabled t.definition w).2) := by
    rw [hpermitted]
    rfl
  rw [admission, bind_of_ok (Prod.ext henabled rfl)]
  simp only [Bool.not_true, Bool.false_eq_true, if_false]
  rw [bind_of_ok hrule]
  simp only [Bool.not_true, Bool.false_eq_true, if_false]
  rw [bind_of_ok (Prod.ext hsame.symm rfl)]
  rfl

/-- When a directive reaches its trigger, the execution gives what comes of the call. -/
theorem Reaches.execute_fst {cleaned : Params} {begun : World σ}
    (h : x.Reaches t params c w given cleaned begun) (houtage : x.outage.IsOrdinary)
    (ht : t.IsOrdinary c) :
    (x.execute t params c w).1 = .ok (x.resultOf (t.perform cleaned c begun).1) := by
  have harguments : (Action.ofExcept ((ParamCheck.arguments t.definition.required
      (.dict given)).mapError Fault.shape) : Action σ Params) begun = (.ok given, begun) := by
    unfold ParamCheck.arguments
    split <;> rfl
  have hfire : x.fire t cleaned c begun = x.settle t.definition c cleaned (t.perform cleaned c begun).1
      (t.perform cleaned c begun).2 := by
    rw [fire_eq_bind, bind_of_ok ((ht.perform cleaned).exists_outcome begun)]
  have hattempt : x.attempt t params c w = x.fire t cleaned c begun := by
    rw [attempt_eq_bind, bind_of_ok h.admitted, h.given_eq, follow, bind_of_ok harguments]
    exact checkAndFire_of_complete h.complete h.cleaned_eq
  rw [execute, recover_congr (hattempt.trans hfire)]
  exact recover_settle_fst (fun f hf => houtage f (.inr hf)) _ _

/-- Letting a trigger act comes to the site that the trigger leaves. -/
theorem fire_site (params : Params) (w : World σ) :
    (x.fire t params c w).2.site = (t.perform params c w).2.site := by
  rw [fire_eq_bind]
  refine Keeps.snd_bind (I := fun left : World σ => left.site = (t.perform params c w).2.site) ?_ fun ended => ?_
  · rw [outcome_snd]
  · intro left hleft
    exact ((leaves_settle (fun h => h) ended).site_eq left).trans hleft

/-- Checking the arguments leaves the site, or they are complete and can be cleaned and the trigger acts
on them. -/
theorem checkAndFire_site_cases (given : Params) (w : World σ) :
    (x.checkAndFire t given c w).2.site = w.site ∨
      ∃ cleaned, ParamCheck.firstMissing t.definition.required given = none ∧
        Clean.arguments given = .ok cleaned ∧
        (x.checkAndFire t given c w).2.site = (t.perform cleaned c w).2.site := by
  unfold checkAndFire
  cases hmissing : ParamCheck.firstMissing t.definition.required given with
  | some name =>
    have hleaves : Leaves (Scope.ofSite σ) (do
        let params ← cleaned given
        x.conclude t.definition c params (.failure (ParamCheck.missing name).message) .invalid) :=
      .bind (.ofExcept _ _) fun _ => leaves_conclude_site
    exact .inl (hleaves.site_eq w)
  | none =>
    dsimp only
    rcases bind_cases (cleaned given) (fun params => x.fire t params c) w with
      ⟨f, left, hrun, hbind⟩ | ⟨params, left, hrun, hbind⟩
    · obtain ⟨-, rfl⟩ := Prod.mk.inj hrun
      exact .inl (congrArg (fun ran => ran.2.site) hbind)
    · have hcleaned := arguments_of_cleaned hrun
      obtain ⟨-, rfl⟩ := Prod.mk.inj hrun
      refine .inr ⟨params, rfl, hcleaned, ?_⟩
      rw [hbind, fire_site]

/-- What follows from a decision leaves the site, or the decision was to admit the attempt, and the trigger
acts on complete arguments that have been cleaned. -/
theorem follow_site_cases (params : Value) (admission : Admission) (w : World σ) :
    (x.follow t params c admission w).2.site = w.site ∨
      ∃ given cleaned, admission = .admitted ∧ params = .dict given ∧
        ParamCheck.firstMissing t.definition.required given = none ∧
        Clean.arguments given = .ok cleaned ∧
        (x.follow t params c admission w).2.site = (t.perform cleaned c w).2.site := by
  cases admission with
  | off => exact .inl rfl
  | denied => exact .inl (leaves_conclude_site.site_eq w)
  | limited => exact .inl (leaves_conclude_site.site_eq w)
  | admitted =>
    rw [follow]
    rcases bind_cases (Action.ofExcept ((ParamCheck.arguments t.definition.required params).mapError
      Fault.shape)) (fun params => x.checkAndFire t params c) w with
      ⟨f, left, hrun, hbind⟩ | ⟨given, left, hrun, hbind⟩
    · obtain ⟨-, rfl⟩ := Prod.mk.inj hrun
      exact .inl (congrArg (fun ran => ran.2.site) hbind)
    · obtain ⟨hgiven, rfl⟩ := Prod.mk.inj hrun
      rw [hbind]
      rcases checkAndFire_site_cases (x := x) (t := t) (c := c) given w with
        hsite | ⟨cleaned, hcomplete, hcleaned, hsite⟩
      · exact .inl hsite
      · exact .inr ⟨given, cleaned, rfl, ParamCheck.dict_of_arguments (Fault.ok_of_mapError hgiven),
          hcomplete, hcleaned, hsite⟩

/-- An execution leaves the site, or its directive reaches the trigger and the site is what the trigger
leaves. -/
theorem execute_site_cases (x : Executor) (t : Trigger σ) (params : Value) (c : Context) (w : World σ) :
    (x.execute t params c w).2.site = w.site ∨
      ∃ given cleaned begun, x.Reaches t params c w given cleaned begun ∧
        (x.execute t params c w).2.site = (t.perform cleaned c begun).2.site := by
  have hexecute : (x.execute t params c w).2.site = (x.attempt t params c w).2.site :=
    snd_recover (I := fun left => left.site = (x.attempt t params c w).2.site) rfl fun _ => .pure _
  have hadmission : (x.admission t c w).2.site = w.site := leaves_admission_site.site_eq w
  rw [hexecute, attempt_eq_bind]
  rcases bind_cases (x.admission t c) (x.follow t params c) w with
    ⟨f, left, hrun, hbind⟩ | ⟨admission, begun, hrun, hbind⟩
  · rw [hrun] at hadmission
    rw [hbind]
    exact .inl hadmission
  · rw [hrun] at hadmission
    rw [hbind]
    rcases follow_site_cases (x := x) (t := t) (c := c) params admission begun with
      hsite | ⟨given, cleaned, rfl, hgiven, hcomplete, hcleaned, hsite⟩
    · exact .inl (hsite.trans hadmission)
    · exact .inr ⟨given, cleaned, begun, ⟨hrun, hgiven, hcomplete, hcleaned⟩, hsite⟩

end Executor

end Concierge
