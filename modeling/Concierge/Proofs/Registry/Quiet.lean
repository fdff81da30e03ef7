import Concierge.Proofs.Registry.Change
import Concierge.Proofs.Registry.Only

/-!
# Quiet registries

On a quiet registry no listener objects to a change, and no filter stands before the triggers. Who listens
there makes no difference to anything but the journal: the registry and the one that a single pair of
listeners watches come to the same outcomes and the same triggers. All listeners are told of the same
changes in the same order, and the registered triggers are the ones that these changes come to.
-/

namespace Concierge.Registry

variable {σ α β : Type}

/-- No listener objects to a change, and there are no filters. -/
structure IsQuiet (r : Registry σ) : Prop where
  registered : ∀ l ∈ r.onRegistered, ∀ t, l t = none
  unregistered : ∀ l ∈ r.onUnregistered, ∀ id, l id = none
  filters : r.filters = []

/-! ## Changes of a quiet registry -/

/-- The registry after a trigger has been registered, and every listener told of it. -/
def adding (t : Trigger σ) (r : Registry σ) : Registry σ :=
  { r with
    triggers := r.triggers ++ [t]
    journal := r.journal ++ List.replicate r.onRegistered.length (.registered t) }

/-- The registry after the trigger with an identifier has been removed, and every listener told of it. -/
def dropping (id : String) (r : Registry σ) : Registry σ :=
  { r with
    triggers := r.triggers.filter (·.id != id)
    journal := r.journal ++ List.replicate r.onUnregistered.length (.unregistered id) }

/-- Listeners that do not object are all told. -/
theorem tell_of_silent {event : α → Event σ} {news : α} {listeners : List (Listener α)}
    (h : ∀ l ∈ listeners, l news = none) (r : Registry σ) :
    tell event news listeners r = (.ok (),
      { r with journal := r.journal ++ List.replicate listeners.length (event news) }) := by
  induction listeners generalizing r with
  | nil =>
    rw [List.length_nil, List.replicate_zero, List.append_nil]
    rfl
  | cons l rest ih =>
    obtain ⟨hl, hrest⟩ := List.forall_mem_cons.mp h
    have hrecord : record (event news) r =
        (.ok (), { r with journal := r.journal ++ [event news] }) := rfl
    rw [tell, bind_of_ok hrecord, hl]
    refine (ih hrest _).trans ?_
    rw [List.append_assoc]
    rfl

/-- A trigger whose identifier is taken is not registered. -/
theorem place_taken {r : Registry σ} {t : Trigger σ} (h : r.hasId t.id = true) :
    place t r = (.ok false, r) := by
  rw [place, get_bind_eq, h]
  rfl

/-- A trigger with a free identifier is registered at the end, and the listeners are told. -/
theorem place_free {r : Registry σ} {t : Trigger σ} (h : r.hasId t.id = false) :
    place t r = (do tell .registered t r.onRegistered; return true : Use σ Bool)
      { r with triggers := r.triggers ++ [t] } := by
  rw [place, get_bind_eq, h]
  rfl

/-- On a quiet registry, a trigger is registered if its identifier is free. -/
theorem place_of_quiet {r : Registry σ} (hquiet : r.IsQuiet) (t : Trigger σ) :
    place t r = (.ok !r.hasId t.id, if r.hasId t.id then r else r.adding t) := by
  cases htaken : r.hasId t.id with
  | true => exact place_taken htaken
  | false =>
    rw [place_free htaken]
    exact bind_of_ok (tell_of_silent (fun l hl => hquiet.registered l hl t) _)

/-- On a quiet registry, the trigger with an identifier is removed if there is one. -/
theorem remove_of_quiet {r : Registry σ} (hquiet : r.IsQuiet) (id : String) :
    (remove id : Use σ Bool) r = (.ok (r.hasId id), if r.hasId id then r.dropping id else r) := by
  rw [remove, get_bind_eq]
  cases r.hasId id with
  | false => rfl
  | true => exact bind_of_ok (tell_of_silent (fun l hl => hquiet.unregistered l hl id) _)

/-- A registry without filters gives the registered triggers. -/
theorem view_of_quiet {r : Registry σ} (hquiet : r.IsQuiet) :
    (view : Use σ _) r = (.ok r.triggers, r) := by
  rw [view, get_bind_eq, hquiet.filters]
  rfl

/-- Changes that bring no filter leave the registry quiet. -/
theorem maintains_isQuiet : Maintains (σ := σ) IsQuiet (fun _ => True) fun _ => False :=
  .of_frame (fun _ _ _ hr => { hr with }) (fun _ h => h.elim) fun _ hr => { hr with }

/-! ## Being watched -/

/-- A registry that one pair of listeners watches: it is the same but for its listeners and its journal,
the listeners of the other one are told of the same events, the triggers are what the changes come to that
the pair was told of, and all that scripts were told fits these changes. -/
structure Watches (w r : Registry σ) : Prop where
  isQuiet : r.IsQuiet
  same : w = { r with onRegistered := [quiet], onUnregistered := [quiet], journal := w.journal }
  echoed : r.journal = w.journal.flatMap r.echo
  rebuilt : r.triggers = rebuilt w.notices
  distinct : r.IsDistinct
  faithful : IsFaithful w.journal

namespace Watches

variable {w r : Registry σ}

/-- A registry that has just come into being. -/
theorem of_new (hquiet : r.IsQuiet) (htriggers : r.triggers = []) (hjournal : r.journal = []) :
    Watches r.watched r where
  isQuiet := hquiet
  same := rfl
  echoed := hjournal
  rebuilt := htriggers
  distinct := by
    rw [IsDistinct, htriggers]
    exact List.nodup_nil
  faithful := isFaithful_nil

/-- The watched registry is quiet as well. -/
theorem isQuiet_watched (h : Watches w r) : w.IsQuiet := by
  rw [h.same]
  refine ⟨?_, ?_, h.isQuiet.filters⟩
  · rintro l hl t
    cases List.mem_singleton.mp hl
    rfl
  · rintro l hl id
    cases List.mem_singleton.mp hl
    rfl

/-- The same triggers are registered. -/
theorem triggers (h : Watches w r) : w.triggers = r.triggers := by rw [h.same]

/-- The same identifiers are taken. -/
theorem hasId (h : Watches w r) (id : String) : w.hasId id = r.hasId id := by
  rw [Registry.hasId, Registry.hasId, h.triggers]

/-- The triggers are those that stand by the journal. -/
theorem standing (h : Watches w r) : r.triggers = standing (changesIn w.journal) :=
  h.rebuilt.trans (rebuilt_eq_standing _)

/-- The identifiers that are taken are those that stand by the journal. -/
theorem stands (h : Watches w r) (id : String) : stands w.journal id = r.hasId id := by
  rw [Registry.stands, Registry.hasId, h.standing]

/-- A trigger is registered in both registries. -/
theorem adding (h : Watches w r) {t : Trigger σ} (hfree : r.hasId t.id = false) :
    Watches (w.adding t) (r.adding t) ∧ (w.adding t).journal = w.journal ++ [.registered t] := by
  have hjournal : (w.adding t).journal = w.journal ++ [.registered t] := by
    rw [h.same]
    rfl
  have hfits : (Event.registered t).Fits w.journal := (h.stands t.id).trans hfree
  refine ⟨⟨{ h.isQuiet with }, ?_, ?_, ?_, ?_, ?_⟩, hjournal⟩
  · rw [h.same]
    rfl
  · rw [hjournal, List.flatMap_append, List.flatMap_singleton]
    exact congrArg (· ++ _) h.echoed
  · rw [notices, hjournal, changesIn, List.filterMap_append]
    exact (congrArg ((Change.added t).apply ·) h.rebuilt).trans (rebuilt_concat _ _).symm
  · exact isDistinct_append h.distinct hfree
  · rw [hjournal]
    exact h.faithful.concat hfits

/-- A trigger is removed from both registries. -/
theorem dropping (h : Watches w r) {id : String} (htaken : r.hasId id = true) :
    Watches (w.dropping id) (r.dropping id) ∧
      (w.dropping id).journal = w.journal ++ [.unregistered id] := by
  have hjournal : (w.dropping id).journal = w.journal ++ [.unregistered id] := by
    rw [h.same]
    rfl
  have hfits : (Event.unregistered (σ := σ) id).Fits w.journal := (h.stands id).trans htaken
  refine ⟨⟨{ h.isQuiet with }, ?_, ?_, ?_, ?_, ?_⟩, hjournal⟩
  · rw [h.same]
    rfl
  · rw [hjournal, List.flatMap_append, List.flatMap_singleton]
    exact congrArg (· ++ _) h.echoed
  · rw [notices, hjournal, changesIn, List.filterMap_append]
    exact (congrArg ((Change.removed id).apply ·) h.rebuilt).trans (rebuilt_concat _ _).symm
  · exact isDistinct_filter h.distinct _
  · rw [hjournal]
    exact h.faithful.concat hfits

/-- Both registries record an event that fits, and is no notice to a listener. -/
theorem recording (h : Watches w r) {e : Event σ} (he : e.change? = none) (hfits : e.Fits w.journal) :
    Watches { w with journal := w.journal ++ [e] } { r with journal := r.journal ++ [e] } := by
  have hecho : r.echo e = [e] := by
    cases e with
    | registered | unregistered => cases he
    | scriptRegistered | scriptUnregistered | scriptListed => rfl
  refine ⟨{ h.isQuiet with }, ?_, ?_, ?_, h.distinct, h.faithful.concat hfits⟩
  · rw [h.same]
  · show r.journal ++ [e] = (w.journal ++ [e]).flatMap r.echo
    rw [List.flatMap_append, List.flatMap_singleton, hecho, h.echoed]
  · show r.triggers = Registry.rebuilt (changesIn (w.journal ++ [e]))
    rw [changesIn, List.filterMap_append, List.filterMap_cons, he]
    simpa [notices, changesIn] using h.rebuilt

end Watches

/-- A use comes to the same outcome on a registry and on the one that is watched in its place, which is
watched still. -/
def Use.IsWatched (use : Use σ α) : Prop :=
  ∀ w r, Watches w r → (use w).1 = (use r).1 ∧ Watches (use w).2 (use r).2

namespace Use.IsWatched

/-- A use that does not depend on the registry, and leaves it as it is. -/
theorem ofExcept (e : Except Fault α) : IsWatched (Registry.ofExcept e : Use σ α) :=
  fun _ _ h => ⟨rfl, h⟩

/-- Giving a value. -/
theorem pure (a : α) : IsWatched (Pure.pure a : Use σ α) := ofExcept (.ok a)

/-- One use after another. -/
theorem bind {first : Use σ α} {next : α → Use σ β} (hfirst : IsWatched first)
    (hnext : ∀ a, IsWatched (next a)) : IsWatched (first >>= next) := by
  intro w r h
  obtain ⟨hout, hleft⟩ := hfirst w r h
  cases hrun : first r with
  | mk e left =>
    rw [hrun] at hout hleft
    have hrunw : first w = (e, (first w).2) := Prod.ext hout rfl
    cases e with
    | ok a =>
      rw [bind_of_ok hrun, bind_of_ok hrunw]
      exact hnext a _ _ hleft
    | error f =>
      rw [bind_of_error hrun, bind_of_error hrunw]
      exact ⟨rfl, hleft⟩

/-- A use after whose ordinary faults the script goes on. -/
theorem shielded {use : Use σ Unit} (huse : IsWatched use) : IsWatched (shielded use) := by
  intro w r h
  obtain ⟨hout, hleft⟩ := huse w r h
  cases hrun : use r with
  | mk e left =>
    obtain ⟨left', hrunw⟩ : ∃ left', use w = (e, left') := ⟨_, Prod.ext (by rw [hout, hrun]) rfl⟩
    rw [hrun, hrunw] at hleft
    cases e with
    | ok _ =>
      simp only [Registry.shielded, hrun, hrunw]
      exact ⟨trivial, hleft⟩
    | error f =>
      simp only [Registry.shielded, hrun, hrunw]
      split <;> exact ⟨rfl, hleft⟩

/-- Registering a trigger. -/
theorem place (t : Trigger σ) : IsWatched (place t) := by
  intro w r h
  rw [place_of_quiet h.isQuiet_watched, place_of_quiet h.isQuiet, h.hasId]
  refine ⟨rfl, ?_⟩
  cases htaken : r.hasId t.id with
  | true => exact h
  | false => exact (h.adding htaken).1

/-- Removing a trigger. -/
theorem remove (id : String) : IsWatched (remove id : Use σ Bool) := by
  intro w r h
  rw [remove_of_quiet h.isQuiet_watched, remove_of_quiet h.isQuiet, h.hasId]
  refine ⟨rfl, ?_⟩
  cases htaken : r.hasId id with
  | true => exact (h.dropping htaken).1
  | false => exact h

/-- Registering a trigger in a script. -/
theorem place_recorded (t : Trigger σ) :
    IsWatched (do let done ← Registry.place t; record (.scriptRegistered t.id done)) := by
  intro w r h
  rw [bind_of_ok (place_of_quiet h.isQuiet_watched t), bind_of_ok (place_of_quiet h.isQuiet t), h.hasId]
  refine ⟨rfl, ?_⟩
  cases htaken : r.hasId t.id with
  | true => exact h.recording rfl ((h.stands t.id).trans htaken)
  | false =>
    obtain ⟨hadded, hjournal⟩ := h.adding htaken
    exact hadded.recording rfl ⟨w.journal, t, hjournal, rfl⟩

/-- Removing a trigger in a script. -/
theorem remove_recorded (id : String) :
    IsWatched (do let done ← Registry.remove id; record (.scriptUnregistered id done) : Use σ Unit) := by
  intro w r h
  rw [bind_of_ok (remove_of_quiet h.isQuiet_watched id), bind_of_ok (remove_of_quiet h.isQuiet id),
    h.hasId]
  refine ⟨rfl, ?_⟩
  cases htaken : r.hasId id with
  | true =>
    obtain ⟨hdropped, hjournal⟩ := h.dropping htaken
    exact hdropped.recording rfl ⟨w.journal, hjournal⟩
  | false => exact h.recording rfl ((h.stands id).trans htaken)

/-- Looking up the triggers. -/
theorem view : IsWatched (view : Use σ (List (Trigger σ))) := by
  intro w r h
  rw [view_of_quiet h.isQuiet_watched, view_of_quiet h.isQuiet, h.triggers]
  exact ⟨rfl, h⟩

/-- Looking up the identifiers in a script. -/
theorem view_recorded :
    IsWatched (do let ts ← Registry.view; record (.scriptListed (ts.map Trigger.id)) : Use σ Unit) := by
  intro w r h
  rw [bind_of_ok (view_of_quiet h.isQuiet_watched), bind_of_ok (view_of_quiet h.isQuiet), h.triggers]
  exact ⟨rfl, h.recording rfl ⟨h.distinct, congrArg (List.map Trigger.id) h.standing⟩⟩

mutual

/-- A step of a script that adds no filter. -/
theorem runStep : ∀ step : Step σ, step.Brings (fun _ => True) (fun _ => False) →
    IsWatched (runStep step)
  | .register made, _ => by
    unfold Registry.runStep
    exact (ofExcept made).bind place_recorded
  | .unregister id, _ => by
    unfold Registry.runStep
    exact remove_recorded id
  | .start, _ => by
    unfold Registry.runStep
    exact .pure ()
  | .find _, _ => by
    unfold Registry.runStep
    exact view.bind fun _ => .pure ()
  | .list, _ => by
    unfold Registry.runStep
    exact view_recorded
  | .raise f, _ => by
    unfold Registry.runStep
    exact ofExcept (.error f)
  | .filter g, h => by
    unfold Step.Brings at h
    exact h.elim
  | .extend script, h => by
    unfold Step.Brings at h
    unfold Registry.runStep
    exact (run script h).shielded

/-- A script that adds no filter. -/
theorem run : ∀ script : List (Step σ), Extension.Brings (fun _ => True) (fun _ => False) script →
    IsWatched (run script)
  | [], _ => by
    unfold Registry.run
    exact .pure ()
  | step :: rest, h => by
    unfold Extension.Brings at h
    unfold Registry.run
    exact (runStep step h.1).bind fun _ => run rest h.2

end

end Use.IsWatched

end Concierge.Registry
