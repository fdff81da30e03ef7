import Concierge.Proofs.Registry.Script

/-!
# What is true of all registered triggers

No two registered triggers have one identifier. Whatever is done with a registry keeps it that way, and
that includes the scripts of extensions, which may add further extensions.

When everything that a registry can bring has a property, its built-in triggers, what its extensions
register and what its filters make of a list, then so have all triggers that it ever gives.
-/

namespace Concierge.Registry

variable {σ α : Type}

/-! ## Distinct identifiers -/

/-- The registered triggers have distinct identifiers. -/
def IsDistinct (r : Registry σ) : Prop := (r.triggers.map Trigger.id).Nodup

/-- A use keeps the identifiers distinct. -/
def KeepsDistinct (use : Use σ α) : Prop := ∀ r, r.IsDistinct → (use r).2.IsDistinct

/-- A trigger with a free identifier can be added. -/
theorem isDistinct_append {r : Registry σ} {t : Trigger σ} (h : r.IsDistinct)
    (hfree : r.hasId t.id = false) : ((r.triggers ++ [t]).map Trigger.id).Nodup := by
  rw [List.map_append, List.nodup_append]
  refine ⟨h, by simp, ?_⟩
  intro id hid id' hid' heq
  obtain ⟨u, hu, rfl⟩ := List.mem_map.mp hid
  rw [List.map_singleton, List.mem_singleton] at hid'
  have htaken : r.hasId t.id = true := List.any_eq_true.mpr ⟨u, hu, by simp [heq, hid']⟩
  rw [hfree] at htaken
  cases htaken

/-- Triggers can be taken out. -/
theorem isDistinct_filter {r : Registry σ} (h : r.IsDistinct) (p : Trigger σ → Bool) :
    ((r.triggers.filter p).map Trigger.id).Nodup :=
  h.sublist (List.filter_sublist.map Trigger.id)

/-- Whatever a registry is given, its changes keep the identifiers distinct. -/
theorem maintains_isDistinct : Maintains (σ := σ) IsDistinct (fun _ => True) fun _ => True :=
  .of_changes (fun _ _ _ hfree hr => isDistinct_append hr hfree) (fun _ _ hr => isDistinct_filter hr _)
    (fun _ _ hr => hr) (fun _ _ _ hr => hr) fun _ hr => hr

/-- The start keeps the identifiers distinct. -/
theorem keepsDistinct_start : KeepsDistinct (start : Use σ Unit) :=
  maintains_isDistinct.start (fun _ _ _ _ => trivial) fun _ _ e _ =>
    Extension.brings_of_forall (fun _ => trivial) (fun _ => trivial) e

/-- The triggers that a registry without filters gives have distinct identifiers. -/
theorem nodup_of_all {r r' : Registry σ} {ts : List (Trigger σ)} (hr : r.IsDistinct)
    (hall : (all : Use σ _) r = (.ok ts, r')) (hfilters : r'.filters = []) :
    (ts.map Trigger.id).Nodup := by
  obtain ⟨u, started, hstart, hview⟩ := ok_of_bind hall
  have hdistinct := keepsDistinct_start r hr
  rw [hstart] at hdistinct
  have hgiven : (started.filters.foldlM (fun ts f => f ts) started.triggers, started) =
      (.ok ts, r') := hview
  obtain ⟨hfold, rfl⟩ := Prod.mk.inj hgiven
  rw [hfilters] at hfold
  cases hfold
  exact hdistinct

/-! ## Triggers of certain kinds -/

variable {P : Trigger σ → Prop}

/-- A filter gives triggers with a property when it is given such triggers. -/
def Filter.Passes (P : Trigger σ → Prop) (f : Filter σ) : Prop :=
  ∀ ts ts', (∀ t ∈ ts, P t) → f ts = .ok ts' → ∀ t ∈ ts', P t

/-- All triggers that a registry has, and all that it can bring, have a property. -/
structure Only (P : Trigger σ → Prop) (r : Registry σ) : Prop where
  builtins : ∀ t ∈ r.builtins, P t
  extensions : ∀ e ∈ r.extensions, Extension.Brings P (Filter.Passes P) e
  triggers : ∀ t ∈ r.triggers, P t
  filters : ∀ f ∈ r.filters, Filter.Passes P f

/-- A new registry of triggers with a property. -/
theorem only_builtins {ts : List (Trigger σ)} (h : ∀ t ∈ ts, P t) : Only P { builtins := ts } :=
  ⟨h, nofun, nofun, nofun⟩

/-- Changes that bring triggers with the property leave no other ones. -/
theorem maintains_only : Maintains (Only P) P (Filter.Passes P) := by
  refine .of_changes (fun t r ht _ hr => ?_) (fun id r hr => ?_) (fun _ _ hr => { hr with })
    (fun f hf r hr => ?_) fun _ hr => { hr with }
  · exact { hr with triggers := List.forall_mem_append.mpr ⟨hr.triggers, by simpa using ht⟩ }
  · exact { hr with triggers := fun t ht => hr.triggers t (List.mem_filter.mp ht).1 }
  · exact { hr with filters := List.forall_mem_append.mpr ⟨hr.filters, by simpa using hf⟩ }

/-- The start brings no other triggers. -/
theorem keeps_start : Keeps (Only P) (start : Use σ Unit) :=
  maintains_only.start (fun _ hr => hr.builtins) fun _ hr => hr.extensions

/-- Filters in turn give triggers with the property. -/
theorem forall_of_filters {filters : List (Filter σ)} (hfilters : ∀ f ∈ filters, Filter.Passes P f)
    {ts ts' : List (Trigger σ)} (hts : ∀ t ∈ ts, P t)
    (h : filters.foldlM (fun ts f => f ts) ts = .ok ts') : ∀ t ∈ ts', P t := by
  induction filters generalizing ts with
  | nil =>
    cases h
    exact hts
  | cons f rest ih =>
    obtain ⟨hf, hrest⟩ := List.forall_mem_cons.mp hfilters
    rw [List.foldlM_cons] at h
    obtain ⟨passed, hpassed, h⟩ := Fault.ok_of_bind h
    exact ih hrest (hf ts passed hts hpassed) h

/-- Asking for the triggers brings no other ones. -/
theorem keeps_all : Keeps (Only P) (all : Use σ (List (Trigger σ))) :=
  keeps_start.bind fun _ => keeps_view

/-- All triggers that are given have the property. -/
theorem gives_all : Gives (Only P) (all : Use σ (List (Trigger σ))) fun ts => ∀ t ∈ ts, P t :=
  .bind keeps_start (.of_forall (Q := fun _ => True) fun _ => trivial) fun _ _ _ hr _ hview =>
    forall_of_filters hr.filters hr.triggers hview

/-- Looking up a trigger brings no other ones. -/
theorem keeps_lookUp (id : String) : Keeps (Only P) (lookUp id : Use σ (Trigger σ)) := by
  refine (keeps_all.bind fun _ => .pure _).bind fun found => ?_
  cases found with
  | none => exact .of_silent fun _ => rfl
  | some t => exact .pure t

/-- A trigger that is looked up has the property. -/
theorem gives_lookUp (id : String) : Gives (Only P) (lookUp id : Use σ (Trigger σ)) P := by
  have hfound : Gives (Only P) (find? id : Use σ (Option (Trigger σ))) fun found =>
      ∀ t, found = some t → P t :=
    .bind keeps_all gives_all fun ts hts => .pure fun t ht => hts t (List.mem_of_find?_eq_some ht)
  refine .bind (keeps_all.bind fun _ => .pure _) hfound fun found hP => ?_
  cases found with
  | none =>
    rintro r - t ht
    cases ht
  | some t => exact .pure (hP t rfl)

end Concierge.Registry
