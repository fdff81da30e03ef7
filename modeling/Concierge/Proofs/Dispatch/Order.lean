import Concierge.Proofs.Builtin.Dispatch
import Concierge.Proofs.Builtin.Scope
import Concierge.Proofs.Dispatch.Run
import Concierge.Proofs.Pattern.Disjoint
import Concierge.Proofs.Registry.Only

/-!
# The order of dispatch

Directives are executed trigger by trigger, or by their positions in the text. Either way each trigger
has its own directives executed from left to right. When the triggers share no state, the order
therefore decides only how the reports are listed, and what the log holds.
-/

namespace Concierge

namespace Dispatch

variable {α β : Type}

/-! ## Lists that are sorted by a key -/

section Sorting

variable [LE β] [DecidableLE β] [Std.IsLinearPreorder β] (f : α → β)

/-- Comparing by a key is transitive. -/
theorem decide_le_trans (a b c : α) (hab : decide (f a ≤ f b) = true)
    (hbc : decide (f b ≤ f c) = true) : decide (f a ≤ f c) = true :=
  decide_eq_true (Std.le_trans (of_decide_eq_true hab) (of_decide_eq_true hbc))

/-- Any two elements can be compared by a key. -/
theorem decide_le_total (a b : α) : (decide (f a ≤ f b) || decide (f b ≤ f a)) = true := by
  rw [Bool.or_eq_true, decide_eq_true_eq, decide_eq_true_eq]
  exact Std.le_total

/-- What is sorted by a key is in its order. -/
theorem pairwise_mergeSort (l : List α) :
    (l.mergeSort fun a b => f a ≤ f b).Pairwise fun a b => f a ≤ f b :=
  (List.pairwise_mergeSort (decide_le_trans f) (decide_le_total f) l).imp of_decide_eq_true

/-- Sorting by a key leaves the order of elements that are in order already. -/
theorem filter_mergeSort {chosen : α → Bool} {l : List α}
    (h : (l.filter chosen).Pairwise fun a b => f a ≤ f b) :
    (l.mergeSort fun a b => f a ≤ f b).filter chosen = l.filter chosen := by
  have hsub : (l.filter chosen).Sublist (l.mergeSort fun a b => f a ≤ f b) :=
    List.sublist_mergeSort (decide_le_trans f) (decide_le_total f) (h.imp decide_eq_true)
      List.filter_sublist
  have hchosen := hsub.filter chosen
  rw [List.filter_filter] at hchosen
  simp only [Bool.and_self] at hchosen
  exact (hchosen.eq_of_length ((List.mergeSort_perm l _).filter chosen).length_eq.symm).symm

end Sorting

/-! ## Lists that agree key by key -/

/-- Lists with one sequence of keys are equal if the elements of each key are. -/
theorem eq_of_filter_eq [DecidableEq β] (key : α → β) {l l' : List α} (hkeys : l.map key = l'.map key)
    (h : ∀ a ∈ l, (l.filter fun b => key b = key a) = l'.filter fun b => key b = key a) : l = l' := by
  induction l generalizing l' with
  | nil => exact (List.map_eq_nil_iff.mp hkeys.symm).symm
  | cons a l ih =>
    obtain ⟨a', l', rfl, hkey, hrest⟩ := List.map_eq_cons_iff.mp hkeys.symm
    have hhere := h a List.mem_cons_self
    rw [List.filter_cons_of_pos (by simp), List.filter_cons_of_pos (by simp [hkey])] at hhere
    obtain ⟨rfl, -⟩ := List.cons.inj hhere
    refine congrArg (a :: ·) (ih hrest.symm fun b hb => ?_)
    have hthere := h b (List.mem_cons_of_mem a hb)
    by_cases hab : key a = key b
    · rw [List.filter_cons_of_pos (by simpa using hab), List.filter_cons_of_pos (by simpa using hab)]
        at hthere
      exact (List.cons.inj hthere).2
    · rwa [List.filter_cons_of_neg (by simpa using hab), List.filter_cons_of_neg (by simpa using hab)]
        at hthere

end Dispatch

namespace Directive

variable {σ : Type} {ts : List (Trigger σ)} {text : List Char}

/-- The directives of a trigger belong to it. -/
theorem trigger_eq_of_mem_findOne {t : Trigger σ} {d : Directive σ} (h : d ∈ findOne text t) :
    d.trigger = t := by
  obtain ⟨m, -, rfl⟩ := List.mem_map.mp h
  rfl

/-- The directives of the triggers that are chosen are those that these triggers have. -/
theorem filter_findEach (chosen : Trigger σ → Bool) (ts : List (Trigger σ)) (text : List Char) :
    ((findEach ts text).filter fun d => chosen d.trigger) = findEach (ts.filter chosen) text := by
  induction ts with
  | nil => rfl
  | cons t ts ih =>
    rw [findEach, List.flatMap_cons, List.filter_append]
    by_cases ht : chosen t
    · have hall : (findOne text t).filter (fun d => chosen d.trigger) = findOne text t :=
        List.filter_eq_self.mpr fun d hd => by rw [trigger_eq_of_mem_findOne hd]; exact ht
      rw [hall, List.filter_cons_of_pos ht]
      exact congrArg (findOne text t ++ ·) ih
    · have hnone : (findOne text t).filter (fun d => chosen d.trigger) = [] :=
        List.filter_eq_nil_iff.mpr fun d hd => by rw [trigger_eq_of_mem_findOne hd]; exact ht
      rw [hnone, List.filter_cons_of_neg ht]
      exact ih

/-- The directives of one trigger are found from left to right. -/
theorem pairwise_findOne (text : List Char) (t : Trigger σ) :
    (findOne text t).Pairwise fun a b => a.start ≤ b.start :=
  List.pairwise_map.mpr (t.definition.pattern.pairwise_matchesFrom [] 0 0 text)

variable {chosen : Trigger σ → Bool}

/-- When no more than one trigger is chosen, its directives are found from left to right. -/
theorem pairwise_filter_findEach (hone : (ts.filter chosen).length ≤ 1) (text : List Char) :
    ((findEach ts text).filter fun d => chosen d.trigger).Pairwise fun a b => a.start ≤ b.start := by
  rw [filter_findEach]
  match ts.filter chosen, hone with
  | [], _ => exact .nil
  | [t], _ =>
    rw [findEach, List.flatMap_singleton]
    exact pairwise_findOne text t

/-- When no more than one trigger is chosen, its directives are found in the same order, however the
directives are listed. -/
theorem filter_findAll_position (hone : (ts.filter chosen).length ≤ 1) (text : List Char) :
    ((findAll .position ts text).filter fun d => chosen d.trigger) =
      (findAll .registry ts text).filter fun d => chosen d.trigger :=
  Dispatch.filter_mergeSort Directive.start (pairwise_filter_findEach hone text)

/-- No more than one of the triggers has an identifier. -/
theorem length_filter_id_le (hids : (ts.map Trigger.id).Nodup) (id : String) :
    (ts.filter fun t => t.id = id).length ≤ 1 := by
  have hcount := List.nodup_iff_count.mp hids id
  rw [List.count_eq_length_filter, List.filter_map, List.length_map] at hcount
  exact hcount

end Directive

namespace Dispatch

open Concierge.Action

variable {σ : Type} {x : Executor} {c : Context} {scope : String → Scope σ} {ts : List (Trigger σ)}

/-- Reports of directives from left to right start from left to right. -/
theorem pairwise_start_of_about {ds : List (Directive σ)} {reports : List Report}
    (habout : List.Forall₂ IsAbout reports ds) (h : ds.Pairwise fun a b => a.start ≤ b.start) :
    reports.Pairwise fun a b => a.start ≤ b.start := by
  have hkeys : (reports.map key).Pairwise fun a b => a.2 ≤ b.2 := by
    rw [map_key_of_about habout]
    exact List.pairwise_map.mpr (h.imp Int.ofNat_le.mpr)
  exact (List.pairwise_map (f := key)).mp hkeys

/-- The reports of directives, sorted by where their directives start, are the reports of the sorted
directives if those of each trigger are the same, and in order. -/
theorem eq_mergeSort_of_about {ds : List (Directive σ)} {reports sorted : List Report}
    (habout : List.Forall₂ IsAbout reports ds)
    (habout' : List.Forall₂ IsAbout sorted (ds.mergeSort fun a b => a.start ≤ b.start))
    (h : ∀ d ∈ ds, (reports.filter fun r => r.triggerId = .text d.trigger.id) =
        (sorted.filter fun r => r.triggerId = .text d.trigger.id) ∧
      (reports.filter fun r => r.triggerId = .text d.trigger.id).Pairwise
        fun a b => a.start ≤ b.start) :
    sorted = reports.mergeSort fun a b => a.start ≤ b.start := by
  have hkeys : sorted.map key = (reports.mergeSort fun a b => a.start ≤ b.start).map key := by
    let le (a b : Value × Int) : Bool := a.2 ≤ b.2
    have hreports : (reports.mergeSort fun a b => a.start ≤ b.start).map key =
        (reports.map key).mergeSort le := List.map_mergeSort fun _ _ _ _ => rfl
    rw [hreports, map_key_of_about habout', map_key_of_about habout]
    exact List.map_mergeSort fun a _ b _ => by simp [le]
  refine eq_of_filter_eq Report.triggerId ?_ fun r hr => ?_
  · have hids := congrArg (List.map Prod.fst) hkeys
    rw [List.map_map, List.map_map] at hids
    exact hids
  · have hkey : key r ∈ sorted.map key := List.mem_map_of_mem hr
    rw [map_key_of_about habout'] at hkey
    obtain ⟨d, hd, heq⟩ := List.mem_map.mp hkey
    obtain ⟨hsame, hordered⟩ := h d (List.mem_mergeSort.mp hd)
    have hid : r.triggerId = .text d.trigger.id := (congrArg Prod.fst heq).symm
    rw [hid, ← hsame]
    exact (filter_mergeSort Report.start hordered).symm

/-- From one world, dispatch by position gives the reports of dispatch by registry, sorted by position,
and leaves the same rows but for the log. -/
theorem Apart.executeAll_position (h : Apart x c scope ts) (hsteady : Steady c scope ts)
    (hids : (ts.map Trigger.id).Nodup) (houtage : x.outage.IsOrdinary)
    (hordinary : ∀ t ∈ ts, t.IsOrdinary c) (text : List Char) (w : World σ) :
    ∃ reports byRegistry byPosition,
      executeAll x c (Directive.findAll .registry ts text) w = (.ok reports, byRegistry) ∧
      executeAll x c (Directive.findAll .position ts text) w =
        (.ok (reports.mergeSort fun a b => a.start ≤ b.start), byPosition) ∧
      ∀ k ≠ x.log.key, byPosition.store.view w.now k = byRegistry.store.view w.now k := by
  have hmem (order : DispatchOrder) (d : Directive σ) (hd : d ∈ Directive.findAll order ts text) :
      d.trigger ∈ ts := Directive.trigger_mem_of_findAll hd
  have hgives (order : DispatchOrder) := exists_executeAll houtage
    (fun d hd => hordinary _ (hmem order d hd)) w
  obtain ⟨reports, byRegistry, hrun⟩ := hgives .registry
  obtain ⟨sorted, byPosition, hrun'⟩ := hgives .position
  have heach {u : Trigger σ} (hu : u ∈ ts) :
      ((reports.filter fun r => r.triggerId = .text u.id) =
          (sorted.filter fun r => r.triggerId = .text u.id) ∧
        (reports.filter fun r => r.triggerId = .text u.id).Pairwise fun a b => a.start ≤ b.start) ∧
      (scope u.id).Alike byRegistry byPosition := by
    obtain ⟨after, halone, halike⟩ := h.executeAll_filter (hmem .registry) hsteady hu hrun (.refl _ w)
    obtain ⟨after', halone', halike'⟩ :=
      h.executeAll_filter (hmem .position) hsteady hu hrun' (.refl _ w)
    rw [Directive.filter_findAll_position (Directive.length_filter_id_le hids u.id), halone] at halone'
    obtain ⟨heq, rfl⟩ := Prod.mk.inj halone'
    refine ⟨⟨Except.ok.inj heq, ?_⟩, halike.trans halike'.symm⟩
    exact pairwise_start_of_about (about_of_executeAll halone)
      (Directive.pairwise_filter_findEach (Directive.length_filter_id_le hids u.id) text)
  refine ⟨reports, byRegistry, byPosition, hrun, ?_, fun k hk => ?_⟩
  · rw [← eq_mergeSort_of_about (about_of_executeAll hrun) (about_of_executeAll hrun')
      fun d hd => (heach (hmem .registry d hd)).1]
    exact hrun'
  · have hleft := (h.unseen_executeAll (hmem .registry)).alike hrun
    have hleft' := (h.unseen_executeAll (hmem .position)).alike hrun'
    by_cases hseen : ∃ u ∈ ts, (scope u.id).sees k
    · obtain ⟨u, hu, hsees⟩ := hseen
      rw [← hleft.now]
      exact (heach hu).2.view k hsees
    · have hunseen : (unseen x scope ts).sees k := ⟨hk, fun t ht hsees => hseen ⟨t, ht, hsees⟩⟩
      rw [hleft.view k hunseen, hleft'.view k hunseen]

end Dispatch

namespace Assistant

variable {σ : Type} {s : Assistant σ} {c : Context} {scope : String → Scope σ}

end Assistant

end Concierge
