import Concierge.Proofs.Builtin.Dispatch
import Concierge.Proofs.Builtin.Scope
import Concierge.Proofs.Dispatch.Run

/-!
# One trigger that acts in another way

When triggers share no state, what one of them answers or raises does not reach the others: their
reports and all rows but the log stay the same. If the trigger fails whenever it acts, and the executor
is not verbose, nothing at all tells how it fails.
-/

namespace Concierge

open Concierge.Action

variable {σ : Type}

/-! ## Another way to act -/

/-- A trigger that acts in another way, if it has the identifier. -/
def Trigger.acting (id : String) (act : Params → Context → Action σ Answer) (t : Trigger σ) : Trigger σ :=
  if t.id = id then { t with perform := act } else t

namespace Trigger

variable {id : String} {act : Params → Context → Action σ Answer} {t : Trigger σ}

/-- A trigger that acts in another way is found in the same way. -/
@[simp] theorem definition_acting : (t.acting id act).definition = t.definition := by
  unfold acting
  split <;> rfl

/-- A trigger that acts in another way keeps its rule. -/
@[simp] theorem permits_acting : (t.acting id act).permits = t.permits := by
  unfold acting
  split <;> rfl

/-- A trigger that acts in another way keeps its identifier. -/
@[simp] theorem id_acting : (t.acting id act).id = t.id := congrArg Definition.id definition_acting

/-- The trigger with the identifier acts in the other way. -/
theorem perform_acting (h : t.id = id) : (t.acting id act).perform = act := by
  rw [acting, if_pos h]

/-- The other triggers act as before. -/
theorem acting_of_ne (h : t.id ≠ id) : t.acting id act = t := if_neg h

/-- Of two other ways to act the last one counts. -/
theorem acting_acting (act' : Params → Context → Action σ Answer) :
    (t.acting id act').acting id act = t.acting id act := by
  by_cases h : t.id = id
  · have hother : t.acting id act' = { t with perform := act' } := if_pos h
    have hagain : ({ t with perform := act' } : Trigger σ).acting id act = { t with perform := act } :=
      if_pos h
    rw [hother, hagain]
    exact (if_pos h).symm
  · rw [acting_of_ne (t := t) h]

/-- A trigger that acts in another way raises no interrupts if neither way to act does. -/
theorem IsOrdinary.acting {c : Context} (h : t.IsOrdinary c)
    (hact : ∀ params, (act params c).IsOrdinary) : (t.acting id act).IsOrdinary c := by
  refine ⟨permits_acting (t := t) ▸ h.permits, fun params => ?_⟩
  by_cases hid : t.id = id
  · rw [perform_acting hid]
    exact hact params
  · rw [acting_of_ne hid]
    exact h.perform params

end Trigger

namespace Directive

variable {id : String} {act : Params → Context → Action σ Answer} {ts : List (Trigger σ)}
  {text : List Char}

/-- A directive whose trigger acts in another way, if it has the identifier. -/
def acting (id : String) (act : Params → Context → Action σ Answer) (d : Directive σ) : Directive σ :=
  { d with trigger := d.trigger.acting id act }

/-- When a trigger acts in another way, the same directives are found, in the same order. -/
theorem findAll_acting (order : DispatchOrder) :
    findAll order (ts.map (Trigger.acting id act)) text = (findAll order ts text).map (acting id act) := by
  have hone (t : Trigger σ) : findOne text (t.acting id act) = (findOne text t).map (acting id act) := by
    unfold findOne
    rw [Trigger.definition_acting, List.map_map]
    refine List.map_congr_left fun m _ => ?_
    simp [ofMatch, acting]
  have heach : findEach (ts.map (Trigger.acting id act)) text =
      (findEach ts text).map (acting id act) := by
    unfold findEach
    rw [List.flatMap_map, List.map_flatMap]
    exact congrArg (ts.flatMap ·) (funext hone)
  unfold findAll
  rw [heach]
  cases order with
  | registry => rfl
  | position => exact (List.map_mergeSort (f := acting id act) fun _ _ _ _ => rfl).symm

end Directive

/-- Two reports on one directive, which are the same unless the trigger is one that may act in another
way. -/
structure Report.SameBut (free : Value → Prop) (r r' : Report) : Prop where
  triggerId : r'.triggerId = r.triggerId
  triggerName : r'.triggerName = r.triggerName
  start : r'.start = r.start
  same : ¬ free r.triggerId → r' = r

/-- Two ways to act that raise no interrupts and change a scope in one way, whatever they answer or
raise. -/
structure Action.SameEffect {α : Type} (S : Scope σ) (act act' : Action σ α) : Prop where
  ordinary : act.IsOrdinary
  ordinary' : act'.IsOrdinary
  alike : ∀ w w', S.Alike w w' → S.Alike (act w).2 (act' w').2

/-- What such ways to act come to are two outcomes of theirs. -/
theorem Action.SameEffect.inStep_outcome {α : Type} {S : Scope σ} {act act' : Action σ α}
    (h : SameEffect S act act') :
    InStep S (fun e e' => (∃ w, (act w).1 = e) ∧ ∃ w, (act' w).1 = e') act.outcome act'.outcome := by
  intro w w' halike
  rw [h.ordinary.exists_outcome, h.ordinary'.exists_outcome]
  exact ⟨⟨⟨w, rfl⟩, w', rfl⟩, h.alike w w' halike⟩

namespace Dispatch

variable {x : Executor} {c : Context} {scope : String → Scope σ} {ts : List (Trigger σ)} {id : String}
  {act : Params → Context → Action σ Answer} {logged : Prop} {free : Value → Prop}

/-- What of two ways to end a call the executor tells apart: nothing if they come to the same conclusion, and
where the log is not asked for, nothing about a trigger that is free. -/
abbrev ToldAlike (x : Executor) (logged : Prop) (free : Value → Prop) (id : String)
    (e e' : Except Fault Answer) : Prop :=
  x.conclusion e' = x.conclusion e ∨
    (¬ logged ∧ ∀ f, x.outage.log = some f → f.isInterrupt = false) ∧ free (.text id)

/-- All rows, that of the log only if it is asked for, and what the triggers see of the site. -/
def whole (x : Executor) (scope : String → Scope σ) (ts : List (Trigger σ)) (logged : Prop) :
    Scope σ where
  sees k := k = x.log.key → logged
  site := ⟨fun a b => ∀ t ∈ ts, (scope t.id).site.r a b,
    ⟨fun a t _ => (scope t.id).site.refl a, fun h t ht => (scope t.id).site.symm (h t ht),
      fun h h' t ht => (scope t.id).site.trans (h t ht) (h' t ht)⟩⟩

/-- The scope of a trigger, with the log if it is asked for. -/
def withLog (x : Executor) (S : Scope σ) (logged : Prop) : Scope σ :=
  S.withKeys fun k => logged ∧ k = x.log.key

/-- Two directives that run in step in the scope of their trigger run in step in all scopes together. -/
theorem inStep_whole (h : Apart x c scope ts)
    (h' : Apart x c scope (ts.map (Trigger.acting id act))) {d : Directive σ} (hd : d.trigger ∈ ts)
    {R : Report → Report → Prop}
    (hown : InStep (withLog x (scope d.trigger.id) logged) R (executeOne x c d)
      (executeOne x c (d.acting id act))) :
    InStep (whole x scope ts logged) R (executeOne x c d) (executeOne x c (d.acting id act)) := by
  have hd' : (d.acting id act).trigger ∈ ts.map (Trigger.acting id act) := List.mem_map_of_mem hd
  intro w w' halike
  have hseen {u : Trigger σ} (hu : u ∈ ts) : (scope u.id).Alike w w' :=
    ⟨halike.now, halike.isLost, fun k hk => halike.view k fun heq => absurd (heq ▸ hk) (h.log_apart u hu),
      halike.site u hu⟩
  have hlogged : (withLog x (scope d.trigger.id) logged).Alike w w' := by
    refine ⟨halike.now, halike.isLost, fun k hk => ?_, halike.site _ hd⟩
    rcases hk with hk | ⟨hlogged, -⟩
    · exact (hseen hd).view k hk
    · exact halike.view k fun _ => hlogged
  obtain ⟨hout, hstep⟩ := hown w w' hlogged
  -- What belongs to another trigger is left by both directives.
  have hother {u : Trigger σ} (hu : u ∈ ts) :
      (scope u.id).Alike (executeOne x c d w).2 (executeOne x c (d.acting id act) w').2 := by
    by_cases heq : d.trigger.id = u.id
    · exact heq ▸ hstep.of_withKeys
    · have hleft := h.leaves_other hd hu heq w
      have hleft' := h'.leaves_other hd' (List.mem_map_of_mem hu) (by simpa [Directive.acting] using heq) w'
      rw [Trigger.id_acting] at hleft'
      exact (hleft.symm.trans (hseen hu)).trans hleft'
  refine ⟨hout, hstep.now, hstep.isLost, fun k hk => ?_, fun u hu => (hother hu).site⟩
  by_cases hsees : ∃ u ∈ ts, (scope u.id).sees k
  · obtain ⟨u, hu, hsees⟩ := hsees
    exact (hother hu).view k hsees
  · by_cases hlog : k = x.log.key
    · exact hstep.view k (.inr ⟨hk hlog, hlog⟩)
    · have hleft := h.leaves_unseen hd w
      have hleft' := h'.leaves_unseen hd' w'
      have hunseen : ∀ u ∈ ts, ¬ (scope u.id).sees k := fun u hu hk => hsees ⟨u, hu, hk⟩
      have hunseen' : ∀ u ∈ ts.map (Trigger.acting id act), ¬ (scope u.id).sees k := by
        intro u hu
        obtain ⟨v, hv, rfl⟩ := List.mem_map.mp hu
        rw [Trigger.id_acting]
        exact hunseen v hv
      rw [hleft.now, hleft.view k ⟨hlog, hunseen⟩, ← halike.now, hleft'.view k ⟨hlog, hunseen'⟩,
        halike.now, halike.view k fun heq => absurd heq hlog]

/-- A directive whose trigger acts in another way runs in step, as far as what comes of the two ways to
act is recorded alike, or may differ. -/
theorem inStep_acting (h : Apart x c scope ts)
    (h' : Apart x c scope (ts.map (Trigger.acting id act))) {d : Directive σ} (hd : d.trigger ∈ ts)
    (hperform : ∀ params, InStep (scope d.trigger.id)
      (ToldAlike x logged free d.trigger.id)
      (d.trigger.perform params c).outcome ((d.trigger.acting id act).perform params c).outcome) :
    InStep (withLog x (scope d.trigger.id) logged) (Report.SameBut free) (executeOne x c d)
      (executeOne x c (d.acting id act)) := by
  have hlog := h.log_apart _ hd
  have hmem : d.trigger.acting id act ∈ ts.map (Trigger.acting id act) := List.mem_map_of_mem hd
  have hsettings : (withLog x (scope d.trigger.id) logged).sees (Settings.keyOf d.trigger.id) :=
    .inl (h.settings _ hd)
  have hbudget : (withLog x (scope d.trigger.id) logged).sees
      (Budget.keyOf d.trigger.id c.session) := .inl (h.budget _ hd)
  refine (Executor.inStep_execute (Q := fun r r' => ¬ free (.text d.trigger.id) → r' = r)
    (fun _ _ => rfl) Trigger.definition_acting Trigger.permits_acting hsettings hbudget
    (fun params => ?_) (.dict d.params)).bind fun r r' hr => .pure ?_
  · refine Executor.inStep_fire (fun _ _ => rfl) Trigger.definition_acting
      ((hperform params).withKeys ?_ ?_) fun e e' hended => hended.imp_right ?_
    · refine ((h.within _ hd params).ofKeys_mono ?_).outcome
      rintro k ⟨⟨-, rfl⟩, -⟩
      exact hlog
    · refine ((h'.within _ hmem params).ofKeys_mono ?_).outcome
      rintro k ⟨⟨-, rfl⟩, -⟩
      rw [Trigger.id_acting]
      exact hlog
    · rintro ⟨⟨hnot, hordinary⟩, hfree⟩
      exact ⟨⟨fun hsees => hsees.elim hlog fun hk => hnot hk.1, hordinary⟩,
        fun hfixed => absurd hfree hfixed⟩
  · refine ⟨?_, ?_, rfl, fun hfixed => ?_⟩
    · simp [Report.ofResult, Directive.acting]
    · simp [Report.ofResult, Directive.acting]
    · rw [hr hfixed]
      simp [Report.ofResult, Directive.acting]

/-- Directives of which one trigger acts in another way run in step, in all scopes together. -/
theorem inStep_executeAll (h : Apart x c scope ts)
    (h' : Apart x c scope (ts.map (Trigger.acting id act)))
    (hperform : ∀ t ∈ ts, ∀ params, InStep (scope t.id)
      (ToldAlike x logged free t.id)
      (t.perform params c).outcome ((t.acting id act).perform params c).outcome)
    {ds : List (Directive σ)} (hds : ∀ d ∈ ds, d.trigger ∈ ts) :
    InStep (whole x scope ts logged) (List.Forall₂ (Report.SameBut free)) (executeAll x c ds)
      (executeAll x c (ds.map (Directive.acting id act))) := by
  induction ds with
  | nil => exact .pure .nil
  | cons d ds ih =>
    have hd := hds d List.mem_cons_self
    refine (inStep_whole h h' hd (inStep_acting h h' hd (hperform _ hd))).bind
      fun report report' hreport => ?_
    refine (ih fun d' hd' => hds d' (List.mem_cons_of_mem d hd')).bind
      fun reports reports' hreports => .pure (.cons hreport hreports)

/-- Triggers of which one acts in a way that changes nothing share no state if they have shared none. -/
theorem Separate.acting (h : Separate x c scope ts)
    (hleaves : ∀ (S : Scope σ) params, Leaves S (act params c)) :
    Separate x c scope (ts.map (Trigger.acting id act)) := by
  have hperform {S : Scope σ} {t : Trigger σ} {params : Params}
      (hold : Leaves S (t.perform params c)) : Leaves S ((t.acting id act).perform params c) := by
    by_cases hid : t.id = id
    · rw [Trigger.perform_acting hid]
      exact hleaves S params
    · rw [Trigger.acting_of_ne hid]
      exact hold
  constructor
  all_goals simp only [List.forall_mem_map, Trigger.id_acting]
  · exact h.settings
  · exact h.reads_no_budget
  · exact h.reads_no_log
  · exact h.log_ne_budget
  · exact fun t ht u hu hne params => hperform (h.leaves t ht u hu hne params)
  · exact fun t ht params => hperform (h.within t ht params)

/-- Triggers that share no state when one of them acts in one way or another, which no other trigger and
no row outside its scope can tell. -/
structure Isolated (x : Executor) (c : Context) (scope : String → Scope σ) (id : String)
    (act : Params → Context → Action σ Answer) (ts : List (Trigger σ)) : Prop where
  separate : Separate x c scope ts
  separate' : Separate x c scope (ts.map (Trigger.acting id act))
  /-- The other triggers depend on nothing outside their scopes. -/
  steady : ∀ t ∈ ts, t.id ≠ id → ∀ params,
    InStep (scope t.id) Eq (t.perform params c) (t.perform params c)
  sameEffect : ∀ t ∈ ts, t.id = id → ∀ params,
    SameEffect (scope t.id) (t.perform params c) (act params c)
  /-- Using the log is not interrupted. -/
  logOrdinary : ∀ f, x.outage.log = some f → f.isInterrupt = false

namespace Isolated

variable (h : Isolated x c scope id act ts)
include h

/-- What a trigger comes to is the same, or is what the trigger in question comes to. -/
theorem inStep_outcome {t : Trigger σ} (ht : t ∈ ts) (params : Params) :
    InStep (charged c scope t.id) (fun e e' => e' = e ∨ t.id = id ∧ (∃ w, (t.perform params c w).1 = e) ∧
        ∃ w, (act params c w).1 = e')
      (t.perform params c).outcome ((t.acting id act).perform params c).outcome := by
  have hwithin := h.separate'.within _ (List.mem_map_of_mem ht) params
  rw [Trigger.id_acting] at hwithin
  refine Separate.inStep_charged ?_ (h.separate.within t ht params).outcome hwithin.outcome
  by_cases hid : t.id = id
  · rw [Trigger.perform_acting hid]
    exact (h.sameEffect t ht hid params).inStep_outcome.mono fun _ _ hended => .inr ⟨hid, hended⟩
  · rw [Trigger.acting_of_ne hid]
    exact (InStep.outcome (h.steady t ht hid params)).mono fun _ _ hended => .inl hended.eq.symm

variable {ds : List (Directive σ)} (hds : ∀ d ∈ ds, d.trigger ∈ ts)
include hds

/-- Whatever the trigger answers or raises, the other reports and all rows but the log are the same. -/
theorem inStep_others : InStep (whole x (charged c scope) ts False)
    (List.Forall₂ (Report.SameBut (· = .text id))) (executeAll x c ds)
    (executeAll x c (ds.map (Directive.acting id act))) := by
  refine inStep_executeAll h.separate.apart h.separate'.apart (fun t ht params => ?_) hds
  refine (h.inStep_outcome ht params).mono fun e e' hended => ?_
  rcases hended with rfl | ⟨rfl, -⟩
  · exact .inl rfl
  · exact .inr ⟨⟨id, h.logOrdinary⟩, rfl⟩

/-- If the trigger raises something whenever it acts, and the executor is not verbose, all reports and
all rows are the same. -/
theorem inStep_all (hquiet : x.isVerbose = false)
    (hraises : ∀ t ∈ ts, t.id = id → ∀ params w, (∃ f, (t.perform params c w).1 = .error f) ∧
      ∃ f, (act params c w).1 = .error f) :
    InStep (whole x (charged c scope) ts True) Eq (executeAll x c ds)
      (executeAll x c (ds.map (Directive.acting id act))) := by
  have hrecorded : ∀ t ∈ ts, ∀ params, InStep (charged c scope t.id)
      (ToldAlike x True (fun _ => False) t.id) (t.perform params c).outcome ((t.acting id act).perform params c).outcome := by
    intro t ht params
    refine (h.inStep_outcome ht params).mono fun e e' hended => .inl ?_
    rcases hended with rfl | ⟨hid, ⟨w, rfl⟩, w', rfl⟩
    · rfl
    · obtain ⟨f, hf⟩ := (hraises t ht hid params w).1
      obtain ⟨f', hf'⟩ := (hraises t ht hid params w').2
      rw [hf, hf']
      simp [Executor.conclusion, Executor.faulty, hquiet]
  have hsteps : InStep (whole x (charged c scope) ts True) (List.Forall₂ (Report.SameBut fun _ => False))
      (executeAll x c ds) (executeAll x c (ds.map (Directive.acting id act))) :=
    inStep_executeAll h.separate.apart h.separate'.apart hrecorded hds
  refine hsteps.mono fun reports reports' hreports => ?_
  rw [← List.forall₂_eq_eq_eq]
  exact hreports.imp fun r r' hr => (hr.same not_false).symm

end Isolated

end Dispatch

namespace Assistant

variable {s : Assistant σ} {c : Context} {scope : String → Scope σ} {id : String}
  {act : Params → Context → Action σ Answer}

/-- A trigger that raises an exception with a message whenever it acts. -/
def raising (message : String) (_ : Params) (_ : Context) : Action Site Answer :=
  throw (.raised { label := "RuntimeError", message })

/-- The built-in triggers, of which the one that shows products raises exceptions. -/
def failing (message : String) : List (Trigger Site) :=
  (builtinTriggers {} true).map (Trigger.acting "show_products" (raising message))

end Assistant

end Concierge
