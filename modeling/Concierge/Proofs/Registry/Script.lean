import Concierge.Proofs.World.Invariant
import Concierge.Registry

/-!
# Invariants of a registry

What a registry does comes down to a few changes: a trigger is registered or removed, an event is recorded,
a filter is added. An invariant that these changes keep is kept by every script of an extension, including
the scripts that it adds, and by the start.
-/

namespace Concierge.Registry

variable {σ α : Type}

/-! ## What scripts bring -/

mutual

/-- A step registers only certain triggers and adds only certain filters. -/
def Step.Brings (P : Trigger σ → Prop) (F : Filter σ → Prop) : Step σ → Prop
  | .register made => ∀ t, made = .ok t → P t
  | .filter f => F f
  | .extend script => Extension.Brings P F script
  | _ => True

/-- A script registers only certain triggers and adds only certain filters. -/
def Extension.Brings (P : Trigger σ → Prop) (F : Filter σ → Prop) : List (Step σ) → Prop
  | [] => True
  | step :: rest => Step.Brings P F step ∧ Extension.Brings P F rest

end

mutual

/-- A step registers some triggers and adds some filters. -/
theorem Step.brings_of_forall {P : Trigger σ → Prop} {F : Filter σ → Prop} (hP : ∀ t, P t)
    (hF : ∀ f, F f) : ∀ step : Step σ, Step.Brings P F step
  | .register made => by
    unfold Step.Brings
    exact fun t _ => hP t
  | .filter f => by
    unfold Step.Brings
    exact hF f
  | .extend script => by
    unfold Step.Brings
    exact Extension.brings_of_forall hP hF script
  | .unregister _ | .start | .find _ | .list | .raise _ => by
    unfold Step.Brings
    trivial

/-- A script registers some triggers and adds some filters. -/
theorem Extension.brings_of_forall {P : Trigger σ → Prop} {F : Filter σ → Prop} (hP : ∀ t, P t)
    (hF : ∀ f, F f) : ∀ script : List (Step σ), Extension.Brings P F script
  | [] => by
    unfold Extension.Brings
    trivial
  | step :: rest => by
    unfold Extension.Brings
    exact ⟨Step.brings_of_forall hP hF step, Extension.brings_of_forall hP hF rest⟩

end

/-! ## What keeps an invariant -/

/-- The changes of a registry keep an invariant, when they bring certain triggers and filters. -/
structure Maintains (I : Registry σ → Prop) (P : Trigger σ → Prop) (F : Filter σ → Prop) : Prop where
  place : ∀ t, P t → Keeps I (place t)
  remove : ∀ id, Keeps I (remove id)
  record : ∀ e, Keeps I (record e)
  addFilter : ∀ f, F f → Keeps I (addFilter f)
  started : ∀ r, I r → I { r with isStarted := true }

/-- A use after whose ordinary faults the script goes on. -/
theorem keeps_shielded {I : Registry σ → Prop} {use : Use σ Unit} (h : Keeps I use) :
    Keeps I (shielded use) := by
  intro r hr
  have hleft := h r hr
  unfold shielded
  split
  · rename_i hrun
    rw [hrun] at hleft
    split <;> exact hleft
  · exact hleft

/-- Looking up the triggers behind the filters. -/
theorem keeps_view {I : Registry σ → Prop} : Keeps I (view : Use σ (List (Trigger σ))) :=
  .of_silent fun _ => rfl

/-- Telling listeners, until one ends with a fault. -/
theorem keeps_tell {I : Registry σ → Prop} (hrecord : ∀ e, Keeps I (record e)) (event : α → Event σ)
    (news : α) (listeners : List (Listener α)) : Keeps I (tell event news listeners) := by
  induction listeners with
  | nil => exact .pure ()
  | cons listener rest ih =>
    refine (hrecord _).bind fun _ => ?_
    split
    · exact .of_silent fun _ => rfl
    · exact ih

namespace Maintains

variable {I : Registry σ → Prop} {P : Trigger σ → Prop} {F : Filter σ → Prop}

/-- An invariant that a trigger with a free identifier does not break when it is added at the end, nor one
that is taken out, nor an event, a filter or the mark of the start. -/
theorem of_changes
    (hadd : ∀ t r, P t → r.hasId t.id = false → I r → I { r with triggers := r.triggers ++ [t] })
    (hdrop : ∀ id r, I r → I { r with triggers := r.triggers.filter (·.id != id) })
    (hrecord : ∀ e r, I r → I { r with journal := r.journal ++ [e] })
    (hfilter : ∀ f, F f → ∀ r, I r → I { r with filters := r.filters ++ [f] })
    (hstarted : ∀ r, I r → I { r with isStarted := true }) : Maintains I P F where
  place t ht r hr := by
    rw [Registry.place, get_bind_eq]
    cases htaken : r.hasId t.id with
    | true => exact hr
    | false =>
      exact ((keeps_tell hrecord .registered t r.onRegistered).bind fun _ => .pure true) _
        (hadd t r ht htaken hr)
  remove id r hr := by
    rw [Registry.remove, get_bind_eq]
    split
    · exact hr
    · exact ((keeps_tell hrecord .unregistered id r.onUnregistered).bind fun _ => .pure true) _
        (hdrop id r hr)
  record := hrecord
  addFilter := hfilter
  started := hstarted

/-- An invariant that does not depend on the triggers, and that no further event breaks. -/
theorem of_frame
    (hchange : ∀ r triggers more, I r → I { r with triggers, journal := r.journal ++ more })
    (hfilter : ∀ f, F f → ∀ r, I r → I { r with filters := r.filters ++ [f] })
    (hstarted : ∀ r, I r → I { r with isStarted := true }) : Maintains I P F := by
  have htriggers (r : Registry σ) (triggers : List (Trigger σ)) (hr : I r) : I { r with triggers } := by
    have hchanged := hchange r triggers [] hr
    rwa [List.append_nil] at hchanged
  exact of_changes (fun _ r _ _ hr => htriggers r _ hr) (fun _ r hr => htriggers r _ hr)
    (fun e r hr => hchange r r.triggers [e] hr) hfilter hstarted

mutual

/-- A step of a script keeps the invariant. -/
theorem runStep (h : Maintains I P F) :
    ∀ step : Step σ, Step.Brings P F step → Keeps I (Registry.runStep step)
  | .register made, hbrings => by
    unfold Step.Brings at hbrings
    unfold Registry.runStep
    refine Keeps.bind_of (Q := fun t => made = .ok t) (.of_silent fun _ => rfl) (fun _ _ t ht => ht)
      fun t ht => ?_
    exact (h.place t (hbrings t ht)).bind fun _ => h.record _
  | .unregister id, _ => by
    unfold Registry.runStep
    exact (h.remove id).bind fun _ => h.record _
  | .start, _ => by
    unfold Registry.runStep
    exact .pure ()
  | .find _, _ => by
    unfold Registry.runStep
    exact keeps_view.bind fun _ => .pure ()
  | .list, _ => by
    unfold Registry.runStep
    exact keeps_view.bind fun _ => h.record _
  | .raise f, _ => by
    unfold Registry.runStep
    exact .of_silent fun _ => rfl
  | .filter f, hbrings => by
    unfold Step.Brings at hbrings
    unfold Registry.runStep
    exact h.addFilter f hbrings
  | .extend script, hbrings => by
    unfold Step.Brings at hbrings
    unfold Registry.runStep
    exact keeps_shielded (run h script hbrings)

/-- A script keeps the invariant. -/
theorem run (h : Maintains I P F) :
    ∀ script : List (Step σ), Extension.Brings P F script → Keeps I (Registry.run script)
  | [], _ => by
    unfold Registry.run
    exact .pure ()
  | step :: rest, hbrings => by
    unfold Extension.Brings at hbrings
    unfold Registry.run
    exact (runStep h step hbrings.1).bind fun _ => run h rest hbrings.2

end

variable (h : Maintains I P F)
include h

/-- Registering triggers in order keeps the invariant. -/
theorem placeAll {ts : List (Trigger σ)} (hts : ∀ t ∈ ts, P t) : Keeps I (Registry.placeAll ts) := by
  induction ts with
  | nil => exact .pure ()
  | cons t ts ih =>
    obtain ⟨ht, hts⟩ := List.forall_mem_cons.mp hts
    exact (h.place t ht).bind fun _ => ih hts

/-- Running extensions in order keeps the invariant. -/
theorem runAll {extensions : List (Extension σ)}
    (hextensions : ∀ e ∈ extensions, Extension.Brings P F e) : Keeps I (Registry.runAll extensions) := by
  induction extensions with
  | nil => exact .pure ()
  | cons e rest ih =>
    obtain ⟨he, hrest⟩ := List.forall_mem_cons.mp hextensions
    exact (keeps_shielded (h.run e he)).bind fun _ => ih hrest

/-- The start keeps the invariant, if a registry with it has such built-in triggers and extensions. -/
theorem start (hbuiltins : ∀ r, I r → ∀ t ∈ r.builtins, P t)
    (hextensions : ∀ r, I r → ∀ e ∈ r.extensions, Extension.Brings P F e) :
    Keeps I (Registry.start : Use σ Unit) := by
  refine Keeps.get.bind_of (Q := I) (fun r hr _ heq => Except.ok.inj heq ▸ hr) fun r hr => ?_
  split
  · exact .pure ()
  · refine Keeps.bind (fun _ _ => h.started r hr) fun _ => ?_
    exact (h.placeAll (hbuiltins r hr)).bind fun _ => h.runAll (hextensions r hr)

end Maintains

end Concierge.Registry
