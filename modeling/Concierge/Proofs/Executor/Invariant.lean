import Concierge.Executor
import Concierge.Proofs.Clean.Argument
import Concierge.Proofs.Executor.Ordinary
import Concierge.Proofs.World.Invariant

/-!
# Invariants of an execution

An execution acts on the world in four ways: it looks up whether the trigger is switched on, counts a hit,
lets the trigger act, and appends an entry to the log. An invariant of the world that these keep is kept
by the whole execution. The trigger is given clean arguments only, and so is the log.

An attempt has two halves. The first one decides whether the trigger may act at all: it looks up the
settings, asks the rule of the trigger and counts a hit. The second one follows from what has been decided,
and has nothing to do with settings and budgets.
-/

namespace Concierge.Executor

variable {σ : Type}

/-! ## The two halves of an attempt -/

/-- What is decided about an attempt before its arguments are looked at. -/
inductive Admission where
  | off
  | denied
  | limited
  | admitted
  deriving DecidableEq

/-- Decides about an attempt. -/
def admission (x : Executor) (t : Trigger σ) (c : Context) : Action σ Admission := do
  if !(← x.isEnabled t.definition) then return .off
  if !(← Action.ofExcept (isPermitted t c)) then return .denied
  if !(← x.isWithinBudget t.definition c) then return .limited
  return .admitted

/-- What follows from the decision about an attempt. -/
def follow (x : Executor) (t : Trigger σ) (params : Value) (c : Context) : Admission → Action σ Result
  | .off => return .failure (t.definition.name ++ " is disabled")
  | .denied => x.conclude t.definition c [] (.failure "permission denied") .denied
  | .limited => x.conclude t.definition c [] (.failure "rate limit exceeded") .rateLimited
  | .admitted => do
    let params ← Action.ofExcept
      ((ParamCheck.arguments t.definition.required params).mapError Fault.shape)
    x.checkAndFire t params c

/-- An attempt is decided about, and then follows what has been decided. -/
theorem attempt_eq_bind (x : Executor) (t : Trigger σ) (params : Value) (c : Context) :
    x.attempt t params c = x.admission t c >>= x.follow t params c := by
  unfold attempt admission
  simp only [bind_assoc]
  congr 1
  funext on
  cases on with
  | false => simp only [Bool.not_false, if_true, pure_bind, follow]
  | true =>
    simp only [Bool.not_true, Bool.false_eq_true, if_false, bind_assoc]
    congr 1
    funext permitted
    cases permitted with
    | false => simp only [Bool.not_false, if_true, pure_bind, follow]
    | true =>
      simp only [Bool.not_true, Bool.false_eq_true, if_false, bind_assoc]
      congr 1
      funext within
      cases within with
      | false => simp only [Bool.not_false, if_true, pure_bind, follow]
      | true => simp only [Bool.not_true, Bool.false_eq_true, if_false, pure_bind, follow]

open Concierge.Action

variable {x : Executor} {t : Trigger σ} {d : Definition} {c : Context} {I : World σ → Prop}

/-! ## The stages -/

/-- Looking up whether a trigger is switched on. -/
theorem keeps_isEnabled
    (h : ∀ w, I w → w.isLost = false → I { w with store := (Settings.isEnabled w.now d w.store).2 }) :
    Keeps I (x.isEnabled d) := by
  unfold isEnabled
  split
  · exact .of_silent fun _ => rfl
  · exact keeps_tryStore h

/-- Counting a hit, if budgets are observed. -/
theorem keeps_isWithinBudget
    (h : ∀ w window limit, I w → w.isLost = false →
      I { w with store := (Budget.allow w.now (Budget.keyOf d.id c.session) window limit w.store).2 }) :
    Keeps I (x.isWithinBudget d c) := by
  unfold isWithinBudget
  split
  · exact keeps_tryStore fun w => h w _ _
  · exact .pure true

/-- Recording an attempt. -/
theorem keeps_conclude {params : Params} {r : Result} {outcome : Audit.Outcome}
    (h : ∀ w, I w → w.isLost = false → ∀ timestamp, I { w with
      store := (x.log.append w.now (.record d c params r outcome.word timestamp) w.store).2 }) :
    Keeps I (x.conclude d c params r outcome) := by
  refine Keeps.get.bind fun w => ?_
  refine (keeps_recover ?_ fun _ => .pure ()).bind fun _ => .pure r
  unfold append
  split
  · exact .of_silent fun _ => rfl
  · exact keeps_tryStore fun w hw hpresent => h w hw hpresent _

/-- Deciding about an attempt. -/
theorem keeps_admission (henabled : Keeps I (x.isEnabled t.definition))
    (hbudget : Keeps I (x.isWithinBudget t.definition c)) : Keeps I (x.admission t c) := by
  refine henabled.bind fun on => ?_
  cases on with
  | false => exact .pure _
  | true =>
    refine (keeps_ofExcept _).bind fun permitted => ?_
    cases permitted with
    | false => exact .pure _
    | true =>
      refine hbudget.bind fun within => ?_
      cases within <;> exact .pure _

/-- Following a decision. Only clean arguments come to the trigger and to the log. -/
theorem keeps_follow
    (hconclude : ∀ params r outcome, Params.AreClean params →
      Keeps I (x.conclude t.definition c params r outcome))
    (hperform : ∀ params, Params.AreClean params → Keeps I (t.perform params c)) (params : Value)
    (admission : Admission) : Keeps I (x.follow t params c admission) := by
  cases admission with
  | off => exact .pure _
  | denied => exact hconclude _ _ _ Clean.areClean_nil
  | limited => exact hconclude _ _ _ Clean.areClean_nil
  | admitted =>
    refine (keeps_ofExcept _).bind fun params => ?_
    unfold checkAndFire
    cases ParamCheck.firstMissing t.definition.required params with
    | some name =>
      refine keeps_ofExcept_bind fun cleaned hcleaned => ?_
      exact hconclude _ _ _ (Clean.areClean_of_arguments (Fault.ok_of_mapError hcleaned))
    | none =>
      refine keeps_ofExcept_bind fun cleaned hcleaned => ?_
      have hclean := Clean.areClean_of_arguments (Fault.ok_of_mapError hcleaned)
      rw [fire_eq_bind]
      exact (keeps_outcome (hperform _ hclean)).bind fun _ =>
        (keeps_ofExcept _).bind fun _ => hconclude _ _ _ hclean

/-! ## The whole execution -/

/-- An execution in which the decision comes to a world with an invariant that is kept from there on. -/
theorem snd_execute {w : World σ} {params : Value} (hadmission : I (x.admission t c w).2)
    (hfollow : ∀ admission, Keeps I (x.follow t params c admission)) :
    I (x.execute t params c w).2 := by
  refine snd_recover ?_ fun _ => .pure _
  rw [attempt_eq_bind]
  exact Keeps.snd_bind hadmission hfollow

/-- The stages of an execution keep an invariant, where only clean arguments come to the trigger and to
the log. -/
structure Maintains (x : Executor) (t : Trigger σ) (c : Context) (I : World σ → Prop) : Prop where
  isEnabled : Keeps I (x.isEnabled t.definition)
  isWithinBudget : Keeps I (x.isWithinBudget t.definition c)
  conclude : ∀ params r outcome, Params.AreClean params →
    Keeps I (x.conclude t.definition c params r outcome)
  perform : ∀ params, Params.AreClean params → Keeps I (t.perform params c)

/-- What the stages of an execution keep, the execution keeps. -/
theorem Maintains.execute (h : Maintains x t c I) (params : Value) : Keeps I (x.execute t params c) :=
  fun w hw => snd_execute (keeps_admission h.isEnabled h.isWithinBudget w hw)
    (keeps_follow h.conclude h.perform params)

/-- An execution of a trigger that is switched off only looks that up. -/
theorem keeps_execute_of_off (hkeeps : Keeps I (x.isEnabled t.definition))
    (hoff : Gives I (x.isEnabled t.definition) (· = false)) (params : Value) :
    Keeps I (x.execute t params c) := by
  refine keeps_recover (hkeeps.bind_of hoff ?_) fun _ => .pure _
  rintro _ rfl
  exact .pure _

end Concierge.Executor
