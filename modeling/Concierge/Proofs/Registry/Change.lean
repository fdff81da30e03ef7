import Concierge.Registry

/-!
# Changes of a registry

What listeners are told of are the changes of a registry: a trigger has been registered, or the one with
an identifier has been removed. The triggers that are registered can be rebuilt from the changes, and
they are the ones that have not been removed since, in the order of their registration. A journal is
faithful when every event in it fits the ones before it: what a script was told is what the changes up
to then have come to.
-/

namespace Concierge.Registry

variable {σ : Type}

/-- A change of the registered triggers. -/
inductive Change (σ : Type) where
  | added (t : Trigger σ)
  | removed (id : String)

namespace Change

/-- A change is the removal of an identifier. -/
def removes : Change σ → String → Bool
  | added _, _ => false
  | removed id', id => id' == id

/-- The registered triggers after a change. -/
def apply (ts : List (Trigger σ)) : Change σ → List (Trigger σ)
  | added t => ts ++ [t]
  | removed id => ts.filter (·.id != id)

end Change

/-- The registered triggers that changes come to, one after another. -/
def rebuilt (changes : List (Change σ)) : List (Trigger σ) := changes.foldl Change.apply []

/-- The triggers that are registered by changes and not removed by a later one, in the order of their
registration. -/
def standing : List (Change σ) → List (Trigger σ)
  | [] => []
  | .added t :: later => if later.any (·.removes t.id) then standing later else t :: standing later
  | .removed _ :: later => standing later

/-- One change more. -/
theorem rebuilt_concat (changes : List (Change σ)) (c : Change σ) :
    rebuilt (changes ++ [c]) = c.apply (rebuilt changes) := by
  rw [rebuilt, List.foldl_append]
  rfl

/-- Of the triggers that are there at first, changes leave the ones that they do not remove. -/
theorem foldl_apply (changes : List (Change σ)) (ts : List (Trigger σ)) :
    changes.foldl Change.apply ts =
      ts.filter (fun t => !changes.any (·.removes t.id)) ++ standing changes := by
  induction changes generalizing ts with
  | nil =>
    rw [standing, List.append_nil]
    exact (List.filter_eq_self.mpr fun _ _ => rfl).symm
  | cons c later ih =>
    rw [List.foldl_cons, ih]
    cases c with
    | added t =>
      -- The trigger stands at the end of those that are there, in front of those that come later.
      have hkept (u : Trigger σ) : (Change.added t :: later).any (·.removes u.id) =
          later.any (·.removes u.id) := Bool.false_or _
      simp only [hkept, Change.apply, List.filter_append, List.append_assoc, standing]
      cases hremoved : later.any (·.removes t.id) <;> simp [hremoved]
    | removed id =>
      simp only [Change.apply, List.filter_filter, standing]
      congr 1
      refine List.filter_congr fun u _ => ?_
      rw [List.any_cons, Bool.not_or, Bool.and_comm, Change.removes, bne, Bool.beq_comm]

/-- The triggers that changes come to are the ones that no later change has removed, in the order of
their latest registration. -/
theorem rebuilt_eq_standing (changes : List (Change σ)) : rebuilt changes = standing changes := by
  rw [rebuilt, foldl_apply]
  rfl

/-- A trigger that stands has been registered. -/
theorem added_of_mem_standing {changes : List (Change σ)} {t : Trigger σ}
    (h : t ∈ standing changes) : .added t ∈ changes := by
  induction changes with
  | nil => cases h
  | cons c later ih =>
    cases c with
    | removed id => exact List.mem_cons_of_mem _ (ih h)
    | added u =>
      rw [standing] at h
      split at h
      · exact List.mem_cons_of_mem _ (ih h)
      · rcases List.mem_cons.mp h with rfl | h
        · exact List.mem_cons_self
        · exact List.mem_cons_of_mem _ (ih h)

/-- A trigger that has been registered stands unless its identifier is removed. -/
theorem mem_standing {changes : List (Change σ)} {t : Trigger σ} (hadded : .added t ∈ changes)
    (hkept : ∀ c ∈ changes, c.removes t.id = false) : t ∈ standing changes := by
  induction changes with
  | nil => cases hadded
  | cons c later ih =>
    obtain ⟨-, hlater⟩ := List.forall_mem_cons.mp hkept
    rcases List.mem_cons.mp hadded with rfl | hadded
    · have hstays : later.any (·.removes t.id) = false :=
        List.any_eq_false.mpr fun c hc => by simp [hlater c hc]
      rw [standing, hstays]
      exact List.mem_cons_self
    · have hmem := ih hadded hlater
      cases c with
      | removed id => exact hmem
      | added u =>
        rw [standing]
        split
        · exact hmem
        · exact List.mem_cons_of_mem u hmem

/-! ## What listeners are told -/

/-- The change that a listener was told of. -/
def Event.change? : Event σ → Option (Change σ)
  | registered t => some (.added t)
  | unregistered id => some (.removed id)
  | scriptRegistered _ _ | scriptUnregistered _ _ | scriptListed _ => none

/-- The changes that listeners were told of by a journal. -/
def changesIn (journal : List (Event σ)) : List (Change σ) := journal.filterMap Event.change?

/-- The changes that listeners were told of since the journal was taken last. -/
def notices (r : Registry σ) : List (Change σ) := changesIn r.journal

/-- An event, once for each of the listeners that are told of it. -/
def echo (r : Registry σ) : Event σ → List (Event σ)
  | .registered t => List.replicate r.onRegistered.length (.registered t)
  | .unregistered id => List.replicate r.onUnregistered.length (.unregistered id)
  | e => [e]

/-- A listener that has no objection to anything. -/
def quiet {α : Type} : Listener α := fun _ => none

/-- The registry with one quiet pair of listeners in place of its own, and a new journal. -/
def watched (r : Registry σ) : Registry σ :=
  { r with onRegistered := [quiet], onUnregistered := [quiet], journal := [] }

/-! ## Faithful journals -/

/-- By a journal, a trigger with the identifier stands. -/
def stands (journal : List (Event σ)) (id : String) : Bool :=
  (standing (changesIn journal)).any (·.id == id)

/-- An event fits the ones before it. A trigger is registered if none with its identifier stands, and
removed if one does; a script is told so right after that, and is given the identifiers of the triggers
that stand, in their order and none of them twice. -/
def Event.Fits (before : List (Event σ)) : Event σ → Prop
  | registered t => stands before t.id = false
  | unregistered id => stands before id = true
  | scriptRegistered id false => stands before id = true
  | scriptRegistered id true => ∃ earlier t, before = earlier ++ [.registered t] ∧ t.id = id
  | scriptUnregistered id false => stands before id = false
  | scriptUnregistered id true => ∃ earlier, before = earlier ++ [.unregistered id]
  | scriptListed ids => ids.Nodup ∧ ids = (standing (changesIn before)).map Trigger.id

/-- All events of a journal fit the ones before them. -/
def IsFaithful (journal : List (Event σ)) : Prop :=
  ∀ before e after, journal = before ++ e :: after → e.Fits before

/-- A journal is faithful before anything has happened. -/
theorem isFaithful_nil : IsFaithful ([] : List (Event σ)) := fun before e after h => by
  have hlength := congrArg List.length h
  rw [List.length_append] at hlength
  cases hlength

/-- A journal stays faithful with an event that fits it. -/
theorem IsFaithful.concat {journal : List (Event σ)} {e : Event σ} (h : IsFaithful journal)
    (he : e.Fits journal) : IsFaithful (journal ++ [e]) := by
  intro before e' after heq
  rcases List.eq_nil_or_concat after with rfl | ⟨after, last, rfl⟩
  · obtain ⟨rfl, hlast⟩ := List.append_inj' heq rfl
    cases hlast
    exact he
  · rw [List.concat_eq_append, ← List.cons_append, ← List.append_assoc] at heq
    exact h before e' after (List.append_inj' heq rfl).1

end Concierge.Registry
