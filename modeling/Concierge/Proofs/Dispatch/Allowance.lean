import Concierge.Proofs.Budget.Count
import Concierge.Proofs.Dispatch.Found
import Concierge.Proofs.Executor.Effect
import Concierge.Proofs.Store.Keys

/-!
# What a dispatch takes from a budget

The directives of one trigger in a text are counted against one budget, whatever directives of other triggers
are between them. The first ones are admitted, as long as hits are left; all others are refused, and the
trigger is not called. A trigger that is switched off, or that the context may not fire, is not counted at
all. The invariant is what has been counted so far; only a directive of the trigger itself moves it.
-/

namespace Concierge

variable {σ : Type}

/-- The keys of the settings of a trigger, and of its budget in a session. -/
def Trigger.OwnKey (t : Trigger σ) (c : Context) (k : String) : Prop :=
  k = Settings.keyOf t.id ∨ k = Budget.keyOf t.id c.session

namespace Executor

open Concierge.Action

variable {x : Executor} {t : Trigger σ} {c : Context} {window limit used : Int} {w w' : World σ}

/-! ## The decision about one directive -/

/-- A trigger is switched on, a context may fire it, and of its budget some hits are used. A window that is
still to be opened closes within the calendar. -/
structure Metered (x : Executor) (t : Trigger σ) (c : Context) (window limit used : Int)
    (w : World σ) : Prop where
  enabled : (x.isEnabled t.definition w).1 = .ok true
  permitted : isPermitted t c = .ok true
  isLimited : x.isLimited = true
  rule : x.ruleFor t.definition = ⟨.int window, .int limit⟩
  one_le_window : 1 ≤ window
  one_le_limit : 1 ≤ limit
  zero_le_used : 0 ≤ used
  hits : Budget.hits (w.store.valueAt w.now (Budget.keyOf t.id c.session)) = .ok used
  closes : w.store.valueAt w.now (Budget.keyOf t.id c.session) = .null →
    ∃ expiry, Store.expiryFor w.now none (.int window) false = .ok expiry

/-- Whether a trigger is switched on can only be found out while the store is there. -/
theorem isLost_of_isEnabled {d : Definition} {on : Bool} (h : (x.isEnabled d w).1 = .ok on) :
    w.isLost = false := by
  unfold isEnabled at h
  cases hsettings : x.outage.settings with
  | some f =>
    rw [hsettings] at h
    cases h
  | none =>
    rw [hsettings] at h
    cases hlost : w.isLost with
    | false => rfl
    | true =>
      simp only [tryStore, hlost, if_true] at h
      cases h

/-- Worlds with the same settings of a trigger switch it on alike. -/
theorem isEnabled_congr {d : Definition}
    (h : (Scope.ofKeys (· = Settings.keyOf d.id)).Alike w w') :
    (x.isEnabled d w').1 = (x.isEnabled d w).1 :=
  (inStep_isEnabled x (S := .ofKeys (· = Settings.keyOf d.id)) rfl w w' h).1.eq.symm

namespace Metered

/-- What has been used is the same in worlds with the same rows of the trigger. -/
theorem alike (h : Metered x t c window limit used w)
    (halike : (Scope.ofKeys (t.OwnKey c)).Alike w w') : Metered x t c window limit used w' := by
  have hvalue : w'.store.valueAt w'.now (Budget.keyOf t.id c.session) =
      w.store.valueAt w.now (Budget.keyOf t.id c.session) := by
    rw [Store.valueAt_eq, halike.now, halike.view _ (.inr rfl), ← Store.valueAt_eq]
  have hsettings : (Scope.ofKeys (· = Settings.keyOf t.definition.id)).Alike w w' :=
    ⟨halike.now, halike.isLost, fun k hk => halike.view k (.inl hk), rfl⟩
  exact
    { h with
      enabled := (isEnabled_congr hsettings).trans h.enabled
      hits := hvalue ▸ h.hits
      closes := fun hnull => halike.now ▸ h.closes (hvalue ▸ hnull) }

/-- The hits that have been used after one more attempt. -/
def next (limit used : Int) : Int := if used < limit then used + 1 else used

/-- What is decided about an attempt when some hits are used. -/
def decision (limit used : Int) : Admission := if used < limit then .admitted else .limited

/-- An attempt is counted if a hit is left, and refused otherwise. -/
theorem isWithinBudget (h : Metered x t c window limit used w)
    (hmost : used < limit → used < Budget.mostCounted) :
    ∃ left, x.isWithinBudget t.definition c w = (.ok (decide (used < limit)), left) ∧
      Metered x t c window limit (next limit used) left := by
  have hpresent := isLost_of_isEnabled h.enabled
  have hcount (store : Store) (admitted : Bool)
      (hallow : Budget.allow w.now (Budget.keyOf t.id c.session) (.int window) (.int limit) w.store =
        (.ok admitted, store)) :
      x.isWithinBudget t.definition c w = (.ok admitted, { w with store }) := by
    rw [Executor.isWithinBudget, if_pos h.isLimited, h.rule]
    exact tryStore_eq hpresent hallow
  by_cases hleft : used < limit
  · have hzero := h.zero_le_used
    have hlt := hmost hleft
    obtain ⟨store, hallow, hheld, hothers⟩ :=
      Budget.allow_admitted h.one_le_window h.hits (.inr hleft) h.closes
        (Budget.isShort_succ hzero (Int.le_of_lt hlt))
    have hused : Budget.hits (store.valueAt w.now (Budget.keyOf t.id c.session)) = .ok (used + 1) := by
      rw [hheld]
      exact Budget.hits_held_of_le (by omega) (by omega)
    have hsettings : (Scope.ofKeys (· = Settings.keyOf t.definition.id)).Alike w { w with store } :=
      .of_store w fun k hk => hothers k fun heq =>
        ne_of_getElem? (Settings.getElem?_keyOf _) (Budget.getElem?_keyOf _ _) (by decide)
          (hk.symm.trans heq)
    rw [decide_eq_true hleft, next, if_pos hleft]
    refine ⟨{ w with store }, hcount store true hallow, ?_⟩
    exact
      { h with
        enabled := (isEnabled_congr hsettings).trans h.enabled
        zero_le_used := by omega
        hits := hused
        closes := fun hnull => by
          rw [hnull] at hused
          have hnone : (0 : Int) = used + 1 := Except.ok.inj hused
          omega }
  · rw [decide_eq_false hleft, next, if_neg hleft]
    refine ⟨_, hcount _ false (Budget.allow_refused h.one_le_limit h.hits (Int.not_lt.mp hleft)), ?_⟩
    exact h.alike (.of_store w fun k _ => congrFun (w.store.view_get w.now _) k)

/-- An attempt is admitted and counted if a hit is left, and limited otherwise. -/
theorem admission (h : Metered x t c window limit used w)
    (hmost : used < limit → used < Budget.mostCounted) :
    ∃ left, x.admission t c w = (.ok (decision limit used), left) ∧
      Metered x t c window limit (next limit used) left := by
  cases henabled : x.isEnabled t.definition w with
  | mk on looked =>
    have hon : on = .ok true := by
      have hfst := h.enabled
      rwa [henabled] at hfst
    subst hon
    have hlooked := h.alike ((leaves_isEnabled x _ t.definition).alike henabled)
    obtain ⟨left, hwithin, hafter⟩ := hlooked.isWithinBudget hmost
    refine ⟨left, ?_, hafter⟩
    have hpermitted : (Action.ofExcept (isPermitted t c) : Action σ Bool) looked = (.ok true, looked) := by
      rw [h.permitted]
      rfl
    rw [Executor.admission, bind_of_ok henabled]
    refine (bind_of_ok hpermitted).trans ((bind_of_ok hwithin).trans ?_)
    by_cases hleft : used < limit
    · rw [decide_eq_true hleft, decision, if_pos hleft]
      rfl
    · rw [decide_eq_false hleft, decision, if_neg hleft]
      rfl

/-! ## The executions of directives -/

/-- A directive of the trigger takes one hit if there is one left. -/
theorem execute (h : Metered x t c window limit used w)
    (hmost : used < limit → used < Budget.mostCounted) (hlog : ¬t.OwnKey c x.log.key)
    (hperform : ∀ params, Leaves (.ofKeys (t.OwnKey c)) (t.perform params c)) (params : Value) :
    Metered x t c window limit (next limit used) (x.execute t params c w).2 := by
  obtain ⟨left, hadmission, hafter⟩ := h.admission hmost
  have hdecided : Metered x t c window limit (next limit used) (x.admission t c w).2 := by
    rw [hadmission]
    exact hafter
  refine snd_execute hdecided fun admission w hw => hw.alike ?_
  exact leaves_follow (S := .ofKeys (t.OwnKey c)) hlog hperform params admission w

end Metered

/-- An attempt that is refused before it comes to the budget only looks up the settings. -/
theorem keeps_admission_of_refused {I : World σ → Prop} (hlooks : Keeps I (x.isEnabled t.definition))
    (hrefused : Gives I (x.isEnabled t.definition) (· = false) ∨ isPermitted t c = .ok false) :
    Keeps I (x.admission t c) := by
  unfold admission
  rcases hrefused with hoff | hdenied
  · refine hlooks.bind_of hoff ?_
    rintro _ rfl
    exact .pure _
  · refine hlooks.bind fun on => ?_
    cases on with
    | false => exact .pure _
    | true =>
      refine keeps_ofExcept_bind fun permitted hpermitted => ?_
      cases hdenied.symm.trans hpermitted
      exact .pure _

/-- A trigger in one session with another identifier has other keys. -/
theorem not_ownKey_of_ne {u : Trigger σ} (hne : u.id ≠ t.id) :
    ¬t.OwnKey c (Budget.keyOf u.id c.session) := by
  rintro (heq | heq)
  · exact ne_of_getElem? (Budget.getElem?_keyOf _ _) (Settings.getElem?_keyOf _) (by decide) heq
  · exact hne (Budget.keyOf_injective heq)

end Executor

namespace Dispatch

open Concierge.Action Concierge.Executor

variable {x : Executor} {t : Trigger σ} {c : Context} {ts : List (Trigger σ)} {w : World σ}
  {window limit used : Int} {d : Directive σ} {ds : List (Directive σ)}

/-- Only the executor has a say in the settings and the budget of a trigger: the log is stored elsewhere, no
trigger touches the rows while it acts, and no other trigger has its identifier. -/
structure Confined (x : Executor) (t : Trigger σ) (c : Context) (ts : List (Trigger σ)) : Prop where
  log : ¬t.OwnKey c x.log.key
  once : ts.filter (fun u => u.id = t.id) = [t]
  leaves : ∀ u ∈ ts, ∀ params, Leaves (.ofKeys (t.OwnKey c)) (u.perform params c)

/-- A directive is one of the trigger. -/
def isOwn (t : Trigger σ) (d : Directive σ) : Bool := d.trigger.id = t.id

namespace Confined

/-- The directives with the identifier of the trigger are its own. -/
theorem trigger_eq (h : Confined x t c ts) (hd : d.trigger ∈ ts) (hown : isOwn t d = true) :
    d.trigger = t := by
  have hmem : d.trigger ∈ ts.filter fun u => u.id = t.id :=
    List.mem_filter.mpr ⟨hd, hown⟩
  rw [h.once] at hmem
  exact List.mem_singleton.mp hmem

/-- A directive of another trigger leaves the rows of the trigger. -/
theorem leaves_execute (h : Confined x t c ts) (hd : d.trigger ∈ ts) (hother : isOwn t d = false)
    (params : Value) : Leaves (.ofKeys (t.OwnKey c)) (x.execute d.trigger params c) :=
  Executor.leaves_execute (not_ownKey_of_ne (of_decide_eq_false hother)) h.log (h.leaves _ hd) params

/-- The directives of the trigger are found in the order of the text. -/
theorem filter_findAll (h : Confined x t c ts) (order : DispatchOrder) (text : List Char) :
    (Directive.findAll order ts text).filter (isOwn t) = Directive.findOne text t :=
  Directive.filter_findAll (fun u => u.id = t.id) h.once order

end Confined

/-! ## The directives of a text -/

/-- The executions of directives keep an invariant that each of them keeps. -/
theorem keeps_worldAfter {I : World σ → Prop} (hw : I w)
    (h : ∀ d ∈ ds, Keeps I (x.execute d.trigger (.dict d.params) c)) : I (worldAfter x c ds w) := by
  induction ds generalizing w with
  | nil => exact hw
  | cons d ds ih =>
    exact ih (h d List.mem_cons_self w hw) fun d' hd' => h d' (List.mem_cons_of_mem d hd')

/-- No time passes while directives are executed. -/
theorem Confined.now_worldAfter (h : Confined x t c ts) (hds : ∀ d ∈ ds, d.trigger ∈ ts) :
    (worldAfter x c ds w).now = w.now := by
  have halike : (Scope.ofKeys fun _ => False).Alike w (worldAfter x c ds w) := by
    refine keeps_worldAfter (.refl _ w) fun d hd => ?_
    have hleaves := Executor.leaves_execute (x := x) (S := .ofKeys fun _ => False) id id
      fun params => (h.leaves _ (hds d hd) params).ofKeys_mono fun _ hk => hk.elim
    exact (hleaves (.dict d.params)).keeps w
  exact halike.now

/-- A trigger that is refused keeps its budget. -/
theorem Confined.alike_of_refused (h : Confined x t c ts) (hds : ∀ d ∈ ds, d.trigger ∈ ts)
    (hrefused : (x.isEnabled t.definition w).1 = .ok false ∨ isPermitted t c = .ok false) :
    (Scope.ofKeys (t.OwnKey c)).Alike w (worldAfter x c ds w) := by
  refine keeps_worldAfter (.refl _ w) fun d hd => ?_
  cases hown : isOwn t d with
  | false => exact (h.leaves_execute (hds d hd) hown _).keeps w
  | true =>
    rw [h.trigger_eq (hds d hd) hown]
    have hlooks := (leaves_isEnabled x (Scope.ofKeys (t.OwnKey c)) t.definition).keeps w
    have hfollow := leaves_follow (S := .ofKeys (t.OwnKey c)) h.log
      (h.leaves t (h.trigger_eq (hds d hd) hown ▸ hds d hd)) (.dict d.params)
    refine fun w' hw' => snd_execute (keeps_admission_of_refused hlooks ?_ w' hw')
      fun admission => (hfollow admission).keeps w
    refine hrefused.imp_left fun hoff w' halike on hon => ?_
    have hsettings : (Scope.ofKeys (· = Settings.keyOf t.definition.id)).Alike w w' :=
      ⟨halike.now, halike.isLost, fun k hk => halike.view k (.inl hk), rfl⟩
    rw [isEnabled_congr hsettings, hoff] at hon
    exact (Except.ok.inj hon).symm

/-- The hits that some directives of a trigger take when some are used. -/
def taken (limit used : Int) (count : Nat) : Nat := min count (limit - used).toNat

/-- The column holds the count of all hits that some directives take. -/
def Fits (limit used : Int) (count : Nat) : Prop :=
  0 < taken limit used count → used + taken limit used count ≤ Budget.mostCounted

/-- No directives take no hits. -/
theorem add_taken_zero (limit used : Int) : used + taken limit used 0 = used := by
  unfold taken
  omega

/-- One more directive takes a hit if there is one left. -/
theorem next_add_taken (limit used : Int) (count : Nat) :
    Metered.next limit used + taken limit (Metered.next limit used) count =
      used + taken limit used (count + 1) := by
  unfold Metered.next taken
  split <;> omega

/-- A directive of the trigger is admitted as long as fewer hits have been taken than all directives
take. -/
theorem decision_add_taken (limit used : Int) {before count : Nat} (hlt : before < count) :
    Metered.decision limit (used + taken limit used before) =
      if before < taken limit used count then .admitted else .limited := by
  unfold Metered.decision taken
  split <;> split <;> first | rfl | omega

namespace Fits

variable {count : Nat}

/-- Fewer directives take no more hits. -/
theorem of_le {before : Nat} (h : Fits limit used count) (hle : before ≤ count) :
    Fits limit used before := by
  unfold Fits taken at *
  omega

/-- The directives behind the first one take no more hits. -/
theorem next (h : Fits limit used (count + 1)) : Fits limit (Metered.next limit used) count := by
  intro hpositive
  rw [next_add_taken]
  refine h ?_
  unfold taken Metered.next at *
  split at hpositive <;> omega

/-- Once some directives have taken their hits, the next one can still be counted. -/
theorem lt {before : Nat} (h : Fits limit used count) (hlt : before < count)
    (hleft : used + taken limit used before < limit) :
    used + taken limit used before < Budget.mostCounted := by
  unfold Fits taken at *
  omega

end Fits

/-- Directives take the hits that are left, whatever directives of other triggers are between them. -/
theorem Confined.metered_worldAfter (h : Confined x t c ts) (hds : ∀ d ∈ ds, d.trigger ∈ ts)
    (hmetered : Metered x t c window limit used w) (hfits : Fits limit used (ds.countP (isOwn t))) :
    Metered x t c window limit (used + taken limit used (ds.countP (isOwn t)))
      (worldAfter x c ds w) := by
  induction ds generalizing used w with
  | nil =>
    rw [List.countP_nil, add_taken_zero]
    exact hmetered
  | cons d ds ih =>
    obtain ⟨hd, hds⟩ := List.forall_mem_cons.mp hds
    cases hown : isOwn t d with
    | false =>
      rw [List.countP_cons_of_neg (by simp [hown])] at hfits ⊢
      exact ih hds (hmetered.alike (h.leaves_execute hd hown (.dict d.params) w)) hfits
    | true =>
      have htrigger := h.trigger_eq hd hown
      rw [List.countP_cons_of_pos hown] at hfits ⊢
      have hstep : Metered x t c window limit (Metered.next limit used)
          (x.execute d.trigger (.dict d.params) c w).2 := by
        rw [htrigger]
        refine hmetered.execute (fun hleft => ?_) h.log (h.leaves t (htrigger ▸ hd)) _
        have hlt := hfits.lt (Nat.zero_lt_succ (ds.countP (isOwn t)))
        rw [add_taken_zero] at hlt
        exact hlt hleft
      rw [← next_add_taken]
      exact ih hds hstep hfits.next

/-- What becomes of the directives of a trigger that some hits are left for: so many of them pass the limit,
and the others are reported to exceed it. For these it does not matter what the trigger would do: it is not
called. -/
structure Rationed (x : Executor) (t : Trigger σ) (c : Context) (ds : List (Directive σ)) (w : World σ)
    (reports : List Report) (admitted : Nat) : Prop where
  passes : ∀ before d rest, ds = before ++ d :: rest → isOwn t d = true →
    before.countP (isOwn t) < admitted →
      (x.admission t c (worldAfter x c before w)).1 = .ok .admitted
  exceeds : ∀ before d rest, ds = before ++ d :: rest → isOwn t d = true →
    admitted ≤ before.countP (isOwn t) →
      reports[before.length]? = some (.ofResult t.definition (.failure "rate limit exceeded") d.start) ∧
      ∀ perform, x.execute { t with perform } (.dict d.params) c (worldAfter x c before w) =
        x.execute t (.dict d.params) c (worldAfter x c before w)

/-- The report of a directive tells the result that it has in the world that the directives before it have
left. -/
theorem RunsOneByOne.report_of_split {before rest : List (Directive σ)} {reports : List Report}
    {after : World σ} (h : RunsOneByOne x c (before ++ d :: rest) w (.ok reports) after) :
    ∃ result, (x.execute d.trigger (.dict d.params) c (worldAfter x c before w)).1 = .ok result ∧
      reports[before.length]? = some (.ofResult d.trigger.definition result d.start) := by
  induction before generalizing w reports with
  | nil =>
    obtain ⟨result, left, more, hexecute, -, rfl⟩ := h.cons_inv
    exact ⟨result, congrArg Prod.fst hexecute, rfl⟩
  | cons first before ih =>
    obtain ⟨result, left, more, hexecute, hmore, rfl⟩ := h.cons_inv
    obtain ⟨result', hresult, hreport⟩ := ih hmore
    refine ⟨result', ?_, hreport⟩
    rw [worldAfter, List.foldl_cons, hexecute]
    exact hresult

/-- As many directives of a trigger pass the limit as hits are left for. -/
theorem Confined.rationed (h : Confined x t c ts) (hds : ∀ d ∈ ds, d.trigger ∈ ts)
    (houtage : x.outage.IsOrdinary) (hmetered : Metered x t c window limit used w)
    (hfits : Fits limit used (ds.countP (isOwn t))) {reports : List Report} {after : World σ}
    (hruns : RunsOneByOne x c ds w (.ok reports) after) :
    Rationed x t c ds w reports (taken limit used (ds.countP (isOwn t))) := by
  have hdecided (before : List (Directive σ)) (d : Directive σ) (rest : List (Directive σ))
      (hsplit : ds = before ++ d :: rest) (hown : isOwn t d = true) :
      ∃ left, x.admission t c (worldAfter x c before w) =
        (.ok (if before.countP (isOwn t) < taken limit used (ds.countP (isOwn t)) then .admitted
          else .limited), left) := by
    have hlt : before.countP (isOwn t) < ds.countP (isOwn t) := by
      rw [hsplit, List.countP_append, List.countP_cons_of_pos hown]
      omega
    have hbefore := h.metered_worldAfter
      (fun d' hd' => hds d' (hsplit ▸ List.mem_append_left _ hd')) hmetered
      (hfits.of_le (Nat.le_of_lt hlt))
    obtain ⟨left, hadmission, -⟩ := hbefore.admission (hfits.lt hlt)
    rw [decision_add_taken limit used hlt] at hadmission
    exact ⟨left, hadmission⟩
  refine ⟨fun before d rest hsplit hown hpasses => ?_, fun before d rest hsplit hown hexceeds => ?_⟩
  · obtain ⟨left, hadmission⟩ := hdecided before d rest hsplit hown
    rw [hadmission, if_pos hpasses]
  · obtain ⟨left, hadmission⟩ := hdecided before d rest hsplit hown
    rw [if_neg (Nat.not_lt.mpr hexceeds)] at hadmission
    have htrigger := h.trigger_eq (hds d (hsplit ▸ List.mem_append_right _ List.mem_cons_self)) hown
    refine ⟨?_, fun perform => execute_of_limited_eq hadmission perform _⟩
    rw [hsplit] at hruns
    obtain ⟨result, hresult, hreport⟩ := hruns.report_of_split
    rw [htrigger, execute_of_limited houtage hadmission] at hresult
    rw [hreport, htrigger, Except.ok.inj hresult]

end Dispatch

namespace Assistant

open Concierge.Executor Concierge.Dispatch

variable {s : Assistant σ} {c : Context} {t : Trigger σ} {ts : List (Trigger σ)} {r : Registry σ}

/-- One dispatch of a text lets as many directives of a trigger pass the limit as its budget has hits left,
the first ones in the text, and adds them to the count; it reports all others to exceed the limit, without
calling the trigger. A trigger that is switched off, or that the context may not fire, keeps its budget. The
trigger is the only one with its identifier, no trigger raises interrupts or touches the rows of the budget
and of the settings while it acts, and the log is stored elsewhere. The window that is opened closes within
the calendar, and the column holds the count as an integer. -/
theorem dispatch_rations (text : String)
    (hall : (Registry.all : Registry.Use σ _) s.registry = (.ok ts, r))
    (hconfined : Confined s.executor t c ts) (houtage : s.executor.outage.IsOrdinary)
    (htriggers : ∀ u ∈ ts, u.IsOrdinary c) :
    let x := s.executor
    let ran := dispatch (.text text) c s
    let budget (w : World σ) := w.store.view s.world.now (Budget.keyOf t.id c.session)
    ∃ ds reports, (Dispatch.find s.order text s.registry).1 = .ok ds ∧ ran.1 = .ok reports ∧
      (text ≠ "" → ds.filter (isOwn t) = Directive.findOne text.toList t) ∧
      (∀ window limit used : Int, Metered x t c window limit used s.world →
        let admitted := min (ds.countP (isOwn t)) (limit - used).toNat
        (0 < admitted → used + admitted ≤ Budget.mostCounted) →
          Rationed x t c ds s.world reports admitted ∧
          Budget.hits (ran.2.world.store.valueAt s.world.now (Budget.keyOf t.id c.session)) =
            .ok (used + admitted)) ∧
      ((x.isEnabled t.definition s.world).1 = .ok false ∨ isPermitted t c = .ok false →
        budget ran.2.world = budget s.world) := by
  intro x ran budget
  let ds := Directive.foundIn s.order ts text
  have hds (d : Directive σ) (hd : d ∈ ds) : d.trigger ∈ ts := Directive.trigger_mem_of_foundIn hd
  obtain ⟨left, hfind⟩ := Dispatch.exists_find_eq hall s.order text
  obtain ⟨reports, hreports⟩ := exists_dispatch hall houtage htriggers text
  have hruns := dispatch_runsOneByOne hall text c
  rw [hreports] at hruns
  have hworld : ran.2.world = worldAfter x c ds s.world := hruns.of_ok.2
  refine ⟨ds, reports, congrArg Prod.fst hfind, hreports, fun hne => ?_,
    fun window limit used hmetered => ?_, fun hrefused => ?_⟩
  · have hfound : ds = Directive.findAll s.order ts text.toList := if_neg hne
    rw [hfound]
    exact hconfined.filter_findAll s.order text.toList
  · intro admitted hfits
    have hafter := hconfined.metered_worldAfter hds hmetered hfits
    refine ⟨hconfined.rationed hds houtage hmetered hfits hruns, ?_⟩
    rw [hworld, ← hconfined.now_worldAfter hds (w := s.world)]
    exact hafter.hits
  · rw [hworld]
    exact (hconfined.alike_of_refused hds hrefused).view _ (.inr rfl)

/-- Of three directives the first two are counted where two a minute are allowed, and the last one is
reported to exceed the limit. -/
theorem dispatch_rations_two :
    let t := matching (.ofNode "x" (.char 'x') 0) [] rfl
    let context : Context := { timestamp := Timestamp.universal 0 }
    let s := alone t { rule := ⟨.int 60, .int 2⟩ }
    ∃ reports after, dispatch (.text "x x x") context s = (.ok reports, after) ∧
      reports[2]? = some (.ofResult t.definition (.failure "rate limit exceeded") 4) ∧
      Budget.hits (after.world.store.valueAt s.world.now (Budget.keyOf t.id context.session)) =
        .ok 2 := by
  intro t context s
  have hall : (Registry.all : Registry.Use Unit _) s.registry = (.ok [t], _) :=
    Registry.all_new (by simp)
  have hconfined : Confined s.executor t context [t] :=
    { log := by rintro (h | h) <;> revert h <;> decide
      once := rfl
      leaves := by
        rintro u hu params
        obtain rfl := List.mem_singleton.mp hu
        exact fun w => .refl _ w }
  have hordinary : ∀ u ∈ [t], u.IsOrdinary context := by
    intro u hu
    obtain rfl := List.mem_singleton.mp hu
    exact ⟨fun _ h => (nomatch h), fun _ => .pure _⟩
  have hmetered : Metered s.executor t context 60 2 0 s.world :=
    { enabled := rfl
      permitted := rfl
      isLimited := rfl
      rule := rfl
      one_le_window := by decide
      one_le_limit := by decide
      zero_le_used := by decide
      hits := rfl
      closes := fun _ => ⟨_, Budget.expiryFor_window (by decide) (by decide) none⟩ }
  obtain ⟨ds, reports, hfind, hreports, -, hrations, -⟩ :=
    dispatch_rations (s := s) "x x x" hall hconfined (by rintro f (h | h) <;> cases h) hordinary
  have hmatches : t.definition.pattern.findAll "x x x".toList =
      [⟨0, 1, []⟩, ⟨2, 3, []⟩, ⟨4, 5, []⟩] := by
    decide +kernel
  have hds : ds = Directive.findAll .registry [t] "x x x".toList := by
    rw [show s.order = .registry from rfl, find_eq .registry (by decide) hall] at hfind
    exact (Except.ok.inj hfind).symm
  rw [Directive.findAll, Directive.inOrder, Directive.findEach, List.flatMap_singleton,
    Directive.findOne, hmatches] at hds
  subst hds
  have hown (text : List Char) (m : Pattern.Match) : isOwn t (.ofMatch t text m) = true :=
    decide_eq_true rfl
  have hcount : (List.map (Directive.ofMatch t "x x x".toList)
      [⟨0, 1, []⟩, ⟨2, 3, []⟩, ⟨4, 5, []⟩]).countP (isOwn t) = 3 := by
    simp [hown]
  rw [hcount] at hrations
  obtain ⟨hrationed, hhits⟩ := hrations 60 2 0 hmetered (by decide)
  have htaken : (0 : Int) + (min 3 (2 - 0 : Int).toNat : Nat) = 2 := by decide
  rw [htaken] at hhits
  generalize dispatch (.text "x x x") context s = ran at hreports hhits ⊢
  refine ⟨reports, ran.2, Prod.ext hreports rfl, ?_, hhits⟩
  refine (hrationed.exceeds [_, _] _ [] rfl (hown _ ⟨4, 5, []⟩) ?_).1
  simp only [List.countP_cons, List.countP_nil, hown]
  decide

/-- A window that does not close within the calendar admits no directive, and a count beyond 64 bits does not
grow by those that are admitted. -/
theorem rations_otherwise :
    let t := matching (.ofNode "x" (.char 'x') 0) [] rfl
    let context : Context := { timestamp := Timestamp.universal 0 }
    let key := Budget.keyOf t.id context.session
    let counted := (({} : Store).set 0 key (.int 9223372036854775808)).2
    let endless := dispatch (.text "x") context (alone t { rule := ⟨.int 1000000000000, .int 10⟩ })
    let ample := dispatch (.text "x") context
      (alone t { rule := ⟨.int 60, .int 18446744073709551616⟩ } counted)
    (endless.1.map (List.map Report.message) = .ok [.text "an error occurred"] ∧
      Budget.hits (endless.2.world.store.valueAt 0 key) = .ok 0) ∧
    (ample.1.map (List.map Report.success) = .ok [.bool true] ∧
      Budget.hits (counted.valueAt 0 key) = .ok 9223372036854775808 ∧
      Budget.hits (ample.2.world.store.valueAt 0 key) = .ok 9223372036854775808) := by
  decide +kernel

end Assistant

end Concierge
