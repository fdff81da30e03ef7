import Concierge.Proofs.World.Action
import Concierge.Registry

/-!
# Registries without interrupts

Where neither the listeners nor the filters nor the scripts of extensions raise an interrupt, no use of a
registry ends with one. An extension that is run there never keeps what comes after it from running.
-/

namespace Concierge.Registry

variable {σ α β : Type}

/-! ## Parts without interrupts -/

/-- A listener raises no interrupt. -/
def Listener.IsOrdinary (l : Listener α) : Prop := ∀ news f, l news = some f → f.isInterrupt = false

/-- A filter raises no interrupt. -/
def Filter.IsOrdinary (g : Filter σ) : Prop := ∀ ts f, g ts = .error f → f.isInterrupt = false

mutual

/-- A step raises no interrupt, and neither does a filter that it adds. -/
def Step.IsOrdinary : Step σ → Prop
  | .register made => ∀ f, made = .error f → f.isInterrupt = false
  | .raise f => f.isInterrupt = false
  | .filter g => g.IsOrdinary
  | .extend script => Extension.IsOrdinary script
  | _ => True

/-- A script raises no interrupt, and neither does a filter that it adds. -/
def Extension.IsOrdinary : List (Step σ) → Prop
  | [] => True
  | step :: rest => Step.IsOrdinary step ∧ Extension.IsOrdinary rest

end

/-- The listeners and the filters of a registry raise no interrupt. -/
structure IsOrdinary (r : Registry σ) : Prop where
  registered : ∀ l ∈ r.onRegistered, Listener.IsOrdinary l
  unregistered : ∀ l ∈ r.onUnregistered, Listener.IsOrdinary l
  filters : ∀ g ∈ r.filters, g.IsOrdinary

/-! ## Uses without interrupts -/

/-- On a registry without interrupts, a use ends with none, and leaves a registry without interrupts. -/
def Use.IsOrdinary (use : Use σ α) : Prop :=
  ∀ r, r.IsOrdinary → (∀ f, (use r).1 = .error f → f.isInterrupt = false) ∧ (use r).2.IsOrdinary

namespace Use.IsOrdinary

/-- A value that is given, or a fault. -/
theorem ofExcept {e : Except Fault α} (h : ∀ f, e = .error f → f.isInterrupt = false) :
    IsOrdinary (Registry.ofExcept e : Use σ α) := fun _ hr => ⟨h, hr⟩

/-- Giving a value. -/
theorem pure (a : α) : IsOrdinary (Pure.pure a : Use σ α) :=
  ofExcept (e := .ok a) fun _ h => by cases h

/-- Ending with a fault that is no interrupt. -/
theorem throw {f : Fault} (h : f.isInterrupt = false) : IsOrdinary (throw f : Use σ α) := by
  refine ofExcept (e := .error f) ?_
  rintro _ ⟨rfl⟩
  exact h

/-- Reading the registry. -/
theorem get_bind {next : Registry σ → Use σ α}
    (h : ∀ r : Registry σ, r.IsOrdinary → (∀ f, (next r r).1 = .error f → f.isInterrupt = false) ∧
      (next r r).2.IsOrdinary) : IsOrdinary (get >>= next) := h

/-- One use after another. -/
theorem bind {first : Use σ α} {next : α → Use σ β} (hfirst : IsOrdinary first)
    (hnext : ∀ a, IsOrdinary (next a)) : IsOrdinary (first >>= next) := by
  intro r hr
  obtain ⟨hfault, hleft⟩ := hfirst r hr
  rcases bind_cases first next r with ⟨g, left, hrun, hbind⟩ | ⟨a, left, hrun, hbind⟩
  · rw [hrun] at hfault hleft
    rw [hbind]
    refine ⟨?_, hleft⟩
    rintro _ ⟨rfl⟩
    exact hfault g rfl
  · rw [hrun] at hleft
    rw [hbind]
    exact hnext a left hleft

/-- A use without interrupts that is shielded gives a value. -/
theorem shielded_eq {use : Use σ Unit} (h : IsOrdinary use) {r : Registry σ} (hr : r.IsOrdinary) :
    shielded use r = (.ok (), (use r).2) := by
  obtain ⟨hfault, -⟩ := h r hr
  cases hrun : use r with
  | mk e left =>
    cases e with
    | ok _ => simp only [shielded, hrun]
    | error f =>
      rw [hrun] at hfault
      simp only [shielded, hrun, hfault f rfl, Bool.false_eq_true, if_false]

/-- A use after whose faults the script goes on. -/
theorem shielded {use : Use σ Unit} (h : IsOrdinary use) : IsOrdinary (shielded use) := by
  intro r hr
  rw [h.shielded_eq hr]
  exact ⟨nofun, (h r hr).2⟩

/-- Recording an event. -/
theorem record (e : Event σ) : IsOrdinary (record e) :=
  fun _ hr => ⟨nofun, { hr with }⟩

/-- Telling listeners that raise no interrupt. -/
theorem tell (event : α → Event σ) (news : α) {listeners : List (Listener α)}
    (h : ∀ l ∈ listeners, Listener.IsOrdinary l) : IsOrdinary (tell event news listeners) := by
  induction listeners with
  | nil => exact .pure ()
  | cons listener rest ih =>
    obtain ⟨hlistener, hrest⟩ := List.forall_mem_cons.mp h
    refine (record _).bind fun _ => ?_
    split
    · rename_i hraised
      exact .throw (hlistener _ _ hraised)
    · exact ih hrest

/-- Registering a trigger. -/
theorem place (t : Trigger σ) : IsOrdinary (place t) := by
  refine get_bind fun r hr => ?_
  split
  · exact IsOrdinary.pure _ r hr
  · have hplaced : Registry.IsOrdinary { r with triggers := r.triggers ++ [t] } := { hr with }
    exact ((tell .registered t hr.registered).bind fun _ => .pure true) _ hplaced

/-- Removing a trigger. -/
theorem remove (id : String) : IsOrdinary (remove id : Use σ Bool) := by
  refine get_bind fun r hr => ?_
  split
  · exact IsOrdinary.pure _ r hr
  · have hremoved : Registry.IsOrdinary { r with triggers := r.triggers.filter (·.id != id) } :=
      { hr with }
    exact ((tell .unregistered id hr.unregistered).bind fun _ => .pure true) _ hremoved

/-- Filters in turn raise no interrupt. -/
theorem ordinary_of_foldlM {filters : List (Filter σ)} (h : ∀ g ∈ filters, g.IsOrdinary)
    {ts : List (Trigger σ)} {f : Fault} (hfault : filters.foldlM (fun ts g => g ts) ts = .error f) :
    f.isInterrupt = false := by
  induction filters generalizing ts with
  | nil => cases hfault
  | cons g rest ih =>
    obtain ⟨hg, hrest⟩ := List.forall_mem_cons.mp h
    rw [List.foldlM_cons] at hfault
    cases hpassed : g ts with
    | error f' =>
      rw [hpassed] at hfault
      cases hfault
      exact hg ts f hpassed
    | ok passed =>
      rw [hpassed] at hfault
      exact ih hrest hfault

/-- Looking up the triggers behind the filters. -/
theorem view : IsOrdinary (view : Use σ (List (Trigger σ))) :=
  get_bind fun _ hr => ⟨fun _ hfault => ordinary_of_foldlM hr.filters hfault, hr⟩

/-- Adding a filter that raises no interrupt. -/
theorem addFilter {g : Filter σ} (hg : g.IsOrdinary) : IsOrdinary (addFilter g) :=
  fun _ hr => ⟨nofun,
    { hr with filters := List.forall_mem_append.mpr ⟨hr.filters, by simpa using hg⟩ }⟩

/-! ## Scripts and the start -/

mutual

/-- A step of a script. -/
theorem runStep : ∀ step : Step σ, step.IsOrdinary → IsOrdinary (runStep step)
  | .register made, h => by
    unfold Step.IsOrdinary at h
    unfold Registry.runStep
    exact (IsOrdinary.ofExcept h).bind fun t => (place t).bind fun _ => record _
  | .unregister id, _ => by
    unfold Registry.runStep
    exact (remove id).bind fun _ => record _
  | .start, _ => by
    unfold Registry.runStep
    exact .pure ()
  | .find _, _ => by
    unfold Registry.runStep
    exact view.bind fun _ => .pure ()
  | .list, _ => by
    unfold Registry.runStep
    exact view.bind fun _ => record _
  | .raise f, h => by
    unfold Step.IsOrdinary at h
    unfold Registry.runStep
    exact .throw h
  | .filter g, h => by
    unfold Step.IsOrdinary at h
    unfold Registry.runStep
    exact addFilter h
  | .extend script, h => by
    unfold Step.IsOrdinary at h
    unfold Registry.runStep
    exact (run script h).shielded

/-- A script. -/
theorem run : ∀ script : List (Step σ), Extension.IsOrdinary script → IsOrdinary (run script)
  | [], _ => by
    unfold Registry.run
    exact .pure ()
  | step :: rest, h => by
    unfold Extension.IsOrdinary at h
    unfold Registry.run
    exact (runStep step h.1).bind fun _ => run rest h.2

end

/-- Registering triggers in order. -/
theorem placeAll (ts : List (Trigger σ)) : IsOrdinary (placeAll ts) := by
  induction ts with
  | nil => exact .pure ()
  | cons t rest ih => exact (place t).bind fun _ => ih

/-- Extensions that raise no interrupt are all run, one after another, whatever faults they end with. -/
theorem runAll_eq {extensions : List (Extension σ)} (h : ∀ e ∈ extensions, Extension.IsOrdinary e)
    {r : Registry σ} (hr : r.IsOrdinary) :
    runAll extensions r = (.ok (), extensions.foldl (fun r e => (Registry.run e r).2) r) := by
  induction extensions generalizing r with
  | nil => rfl
  | cons e rest ih =>
    obtain ⟨he, hrest⟩ := List.forall_mem_cons.mp h
    have hrun := run e he
    have hfirst := hrun.shielded_eq hr
    rw [runAll, bind_of_ok hfirst]
    exact ih hrest (hrun r hr).2

end Use.IsOrdinary

end Concierge.Registry
