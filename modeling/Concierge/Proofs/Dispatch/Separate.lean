import Concierge.Dispatch
import Concierge.Proofs.Executor.Scope
import Concierge.Proofs.Store.Keys
import Mathlib.Data.List.Forall2

/-!
# Triggers that share no state

Each trigger has a scope of its own: its settings and whatever it reads and changes when it acts. An
execution charges a budget besides. Within one session the budgets of different triggers have different
keys, so that the scopes with their budgets are apart as the scopes are. When no trigger changes anything
in the scope of another one, the directives of one trigger come to the same reports whatever directives of
other triggers are executed between them. Only the log has traces of the order.
-/

namespace Concierge.Dispatch

open Concierge.Action

variable {σ : Type} {x : Executor} {c : Context} {scope : String → Scope σ} {ts : List (Trigger σ)}

/-- Triggers that share no state when a context fires them. They may read what none of them changes. -/
structure Separate (x : Executor) (c : Context) (scope : String → Scope σ) (ts : List (Trigger σ)) :
    Prop where
  settings : ∀ t ∈ ts, (scope t.id).sees (Settings.keyOf t.id)
  /-- What a trigger reads and changes when it acts is no budget of another one. -/
  reads_no_budget : ∀ t ∈ ts, ∀ u ∈ ts, t.id ≠ u.id →
    ¬ (scope u.id).sees (Budget.keyOf t.id c.session)
  reads_no_log : ∀ t ∈ ts, ¬ (scope t.id).sees x.log.key
  log_ne_budget : ∀ t ∈ ts, x.log.key ≠ Budget.keyOf t.id c.session
  /-- No trigger changes anything in the scope of another one. -/
  leaves : ∀ t ∈ ts, ∀ u ∈ ts, t.id ≠ u.id → ∀ params, Leaves (scope u.id) (t.perform params c)
  /-- A trigger changes no row outside its scope. -/
  within : ∀ t ∈ ts, ∀ params,
    Leaves (.ofKeys fun k => ¬ (scope t.id).sees k) (t.perform params c)

/-- Triggers depend on nothing outside their scopes. -/
def Steady (c : Context) (scope : String → Scope σ) (ts : List (Trigger σ)) : Prop :=
  ∀ t ∈ ts, ∀ params, InStep (scope t.id) Eq (t.perform params c) (t.perform params c)

/-- The scope of a trigger with the budget that its executions charge. -/
def charged (c : Context) (scope : String → Scope σ) (id : String) : Scope σ :=
  (scope id).withKeys (· = Budget.keyOf id c.session)

/-- Triggers whose executions share no state but the log: each scope has the settings and the budget of its
trigger, and nothing that the executions of another trigger change. -/
structure Apart (x : Executor) (c : Context) (scope : String → Scope σ) (ts : List (Trigger σ)) :
    Prop where
  settings : ∀ t ∈ ts, (scope t.id).sees (Settings.keyOf t.id)
  budget : ∀ t ∈ ts, (scope t.id).sees (Budget.keyOf t.id c.session)
  budget_apart : ∀ t ∈ ts, ∀ u ∈ ts, t.id ≠ u.id →
    ¬ (scope u.id).sees (Budget.keyOf t.id c.session)
  log_apart : ∀ t ∈ ts, ¬ (scope t.id).sees x.log.key
  leaves : ∀ t ∈ ts, ∀ u ∈ ts, t.id ≠ u.id → ∀ params, Leaves (scope u.id) (t.perform params c)
  within : ∀ t ∈ ts, ∀ params,
    Leaves (.ofKeys fun k => ¬ (scope t.id).sees k) (t.perform params c)

namespace Separate

variable (h : Separate x c scope ts)
include h

/-- The executions of triggers that share no state share none either: the budgets of different triggers in
one session are different rows. -/
theorem apart : Apart x c (charged c scope) ts where
  settings t ht := .inl (h.settings t ht)
  budget _ _ := .inr rfl
  budget_apart t ht u hu hne hsees := by
    rcases hsees with hown | hbudget
    · exact h.reads_no_budget t ht u hu hne hown
    · exact hne (Budget.keyOf_injective hbudget)
  log_apart t ht hsees := hsees.elim (h.reads_no_log t ht) (h.log_ne_budget t ht)
  leaves t ht u hu hne params w := by
    have hleft := h.leaves t ht u hu hne params w
    refine ⟨hleft.now, hleft.isLost, fun k hk => ?_, hleft.site⟩
    rcases hk with hown | rfl
    · exact hleft.view k hown
    · exact (h.within t ht params w).view _ (h.reads_no_budget u hu t ht (Ne.symm hne))
  within t ht params := (h.within t ht params).ofKeys_mono fun _ hk hown => hk (.inl hown)

omit h in
/-- Actions that run in step in the scope of a trigger, and change no row outside it, do so when its budget is
added. -/
theorem inStep_charged {α β : Type} {t : Trigger σ} {R : α → β → Prop} {act : Action σ α}
    {act' : Action σ β} (hact : InStep (scope t.id) R act act')
    (hwithin : Leaves (.ofKeys fun k => ¬ (scope t.id).sees k) act)
    (hwithin' : Leaves (.ofKeys fun k => ¬ (scope t.id).sees k) act') :
    InStep (charged c scope t.id) R act act' :=
  hact.withKeys (hwithin.ofKeys_mono fun _ hk => hk.2) (hwithin'.ofKeys_mono fun _ hk => hk.2)

/-- Triggers that depend on nothing outside their scopes depend on nothing outside the scopes with their
budgets. -/
theorem steady (hsteady : Steady c scope ts) : Steady c (charged c scope) ts := fun t ht params =>
  inStep_charged (hsteady t ht params) (h.within t ht params) (h.within t ht params)

end Separate

/-- The rows that belong to the scope of no trigger, and not to the log. -/
def unseen (x : Executor) (scope : String → Scope σ) (ts : List (Trigger σ)) : Scope σ :=
  .ofKeys fun k => k ≠ x.log.key ∧ ∀ t ∈ ts, ¬ (scope t.id).sees k

/-! ## One directive -/

variable {d : Directive σ}

/-- The execution of a directive leaves a scope that the execution of its trigger leaves. -/
theorem leaves_executeOne {S : Scope σ} (h : ∀ params, Leaves S (x.execute d.trigger params c)) :
    Leaves S (executeOne x c d) := (h (.dict d.params)).bind fun _ => .ofExcept S (.ok _)

namespace Apart

variable (h : Apart x c scope ts)
include h

/-- A directive leaves the scopes of other triggers. -/
theorem leaves_other {u : Trigger σ} (hd : d.trigger ∈ ts) (hu : u ∈ ts)
    (hne : d.trigger.id ≠ u.id) : Leaves (scope u.id) (executeOne x c d) :=
  leaves_executeOne (Executor.leaves_execute (h.budget_apart _ hd u hu hne) (h.log_apart u hu)
    (h.leaves _ hd u hu hne))

/-- A directive leaves the rows that belong to no trigger. -/
theorem leaves_unseen (hd : d.trigger ∈ ts) : Leaves (unseen x scope ts) (executeOne x c d) := by
  refine leaves_executeOne (Executor.leaves_execute ?_ ?_ fun params => ?_)
  · exact fun hsees => hsees.2 _ hd (h.budget _ hd)
  · exact fun hsees => hsees.1 rfl
  · exact (h.within _ hd params).ofKeys_mono fun k hk => hk.2 _ hd

/-- A directive runs in step in the scope of its trigger. -/
theorem inStep_own (hsteady : Steady c scope ts) (hd : d.trigger ∈ ts) :
    InStep (scope d.trigger.id) Eq (executeOne x c d) (executeOne x c d) := by
  refine (Executor.inStep_execute (fun _ => rfl) rfl rfl (h.settings _ hd) (h.budget _ hd)
    (fun params => ?_) (.dict d.params)).bind fun r r' heq => .pure (by rw [heq])
  exact Executor.inStep_fire (fun _ => rfl) rfl (InStep.outcome (hsteady _ hd params))
    fun ended ended' hended => .inl (by rw [hended.eq])

end Apart

/-! ## All directives -/

/-- A report is about a directive. -/
def IsAbout (r : Report) (d : Directive σ) : Prop :=
  ∃ result, r = .ofResult d.trigger.definition result d.start

/-- Directives are executed one after another. -/
theorem executeAll_cons {d : Directive σ} {ds : List (Directive σ)} {w left after : World σ}
    {report : Report} {reports : List Report} (hfirst : executeOne x c d w = (.ok report, left))
    (hrest : executeAll x c ds left = (.ok reports, after)) :
    executeAll x c (d :: ds) w = (.ok (report :: reports), after) :=
  (bind_of_ok hfirst).trans (bind_of_ok hrest)

/-- When directives have reports, the first one has the first report, which is about it. -/
theorem executeAll_cons_inv {d : Directive σ} {ds : List (Directive σ)} {w after : World σ}
    {reports : List Report} (hrun : executeAll x c (d :: ds) w = (.ok reports, after)) :
    ∃ report left rest, executeOne x c d w = (.ok report, left) ∧ IsAbout report d ∧
      executeAll x c ds left = (.ok rest, after) ∧ reports = report :: rest := by
  obtain ⟨report, left, hfirst, hmore⟩ := ok_of_bind hrun
  obtain ⟨rest, last, hrest, hdone⟩ := ok_of_bind hmore
  obtain ⟨result, ended, -, hreport⟩ := ok_of_bind hfirst
  cases hdone
  cases hreport
  exact ⟨_, _, rest, hfirst, ⟨result, rfl⟩, hrest, rfl⟩

variable {ds : List (Directive σ)}

/-- Every directive has one report, in order. -/
theorem about_of_executeAll {w after : World σ} {reports : List Report}
    (hrun : executeAll x c ds w = (.ok reports, after)) : List.Forall₂ IsAbout reports ds := by
  induction ds generalizing w reports with
  | nil =>
    cases hrun
    exact .nil
  | cons d ds ih =>
    obtain ⟨report, left, rest, -, habout, hrest, rfl⟩ := executeAll_cons_inv hrun
    exact .cons habout (ih hrest)

/-- Directives have reports, unless a trigger raises an interrupt. -/
theorem exists_executeAll (houtage : x.outage.IsOrdinary)
    (hordinary : ∀ d ∈ ds, d.trigger.IsOrdinary c) (w : World σ) :
    ∃ reports after, executeAll x c ds w = (.ok reports, after) := by
  induction ds generalizing w with
  | nil => exact ⟨[], w, rfl⟩
  | cons d ds ih =>
    obtain ⟨result, left, hfirst⟩ :=
      Executor.exists_execute houtage (hordinary d List.mem_cons_self) (.dict d.params) w
    obtain ⟨reports, after, hrest⟩ := ih (fun d' hd' => hordinary d' (List.mem_cons_of_mem d hd')) left
    exact ⟨_, after, executeAll_cons (bind_of_ok hfirst) hrest⟩

/-- What a report tells of its directive: the identifier of the trigger, and where it starts. -/
def key (r : Report) : Value × Int := (r.triggerId, r.start)

/-- Reports tell the identifiers and the starts of their directives. -/
theorem map_key_of_about {reports : List Report} (h : List.Forall₂ IsAbout reports ds) :
    reports.map key = ds.map fun d => (.text d.trigger.id, (d.start : Int)) := by
  induction h with
  | nil => rfl
  | cons habout _ ih =>
    obtain ⟨result, rfl⟩ := habout
    rw [List.map_cons, List.map_cons, ih]
    rfl

namespace Apart

variable (h : Apart x c scope ts) (hds : ∀ d ∈ ds, d.trigger ∈ ts)
include h hds

/-- The rows that belong to no trigger are left. -/
theorem unseen_executeAll : Leaves (unseen x scope ts) (executeAll x c ds) := by
  induction ds with
  | nil => exact fun w => .refl _ w
  | cons d ds ih =>
    refine (h.leaves_unseen (hds d List.mem_cons_self)).bind fun report => ?_
    refine (ih fun d' hd' => hds d' (List.mem_cons_of_mem d hd')).bind fun reports => ?_
    exact .ofExcept _ (.ok _)

/-- The directives of one trigger alone come to their reports among those of all directives, and to the
same in the scope of that trigger. -/
theorem executeAll_filter (hsteady : Steady c scope ts) {u : Trigger σ} (hu : u ∈ ts)
    {w w' after : World σ} {reports : List Report}
    (hrun : executeAll x c ds w = (.ok reports, after)) (halike : (scope u.id).Alike w w') :
    ∃ after', executeAll x c (ds.filter fun d => d.trigger.id = u.id) w' =
        (.ok (reports.filter fun r => r.triggerId = .text u.id), after') ∧
      (scope u.id).Alike after after' := by
  induction ds generalizing w w' reports with
  | nil =>
    cases hrun
    exact ⟨w', rfl, halike⟩
  | cons d ds ih =>
    have hd := hds d List.mem_cons_self
    obtain ⟨report, left, rest, hfirst, ⟨result, rfl⟩, hrest, rfl⟩ := executeAll_cons_inv hrun
    have hnext {left' : World σ} (hleft : (scope u.id).Alike left left') :=
      ih (fun d' hd' => hds d' (List.mem_cons_of_mem d hd')) hrest hleft
    by_cases hown : d.trigger.id = u.id
    · -- The directive belongs to the trigger: both runs execute it, in step.
      obtain ⟨report', left', hfirst', rfl, hleft⟩ :=
        (h.inStep_own hsteady hd).exists_ok hfirst (hown ▸ halike)
      obtain ⟨after', hrest', hafter⟩ := hnext (hown ▸ hleft)
      refine ⟨after', ?_, hafter⟩
      rw [List.filter_cons_of_pos (by simpa using hown),
        List.filter_cons_of_pos (by simpa [Report.ofResult, Trigger.id] using hown)]
      exact executeAll_cons hfirst' hrest'
    · -- The directive belongs to another trigger, which leaves the scope.
      have hleft := (h.leaves_other hd hu hown).alike hfirst
      obtain ⟨after', hrest', hafter⟩ := hnext (hleft.symm.trans halike)
      refine ⟨after', ?_, hafter⟩
      rw [List.filter_cons_of_neg (by simpa using hown),
        List.filter_cons_of_neg (by simpa [Report.ofResult, Trigger.id] using hown)]
      exact hrest'

end Apart

end Concierge.Dispatch
