import Concierge.Proofs.Pattern.Advance

/-!
# Occurrences do not overlap

Each occurrence of a pattern ends before the next one begins. Only an empty occurrence may be followed by
one at the same place, which is not empty, so that the search goes on with every occurrence.

Erasing a pattern drops at least the first character of every occurrence that is not empty. A text
that erasing leaves as it is therefore holds empty occurrences only.
-/

namespace Concierge.Pattern

variable {p : Pattern} {m : Match} {ms : List Match}

/-- A match ends before another one begins, and the other one begins or ends further on. -/
structure Match.Precedes (a b : Match) : Prop where
  le : a.stop ≤ b.start
  advances : a.start < b.start ∨ a.stop < b.stop

/-- Of two matches at a place the first one is empty, and the second one is not. -/
theorem pairwise_matchesAt (p : Pattern) (place : Place) :
    (p.matchesAt place).Pairwise Match.Precedes := by
  unfold matchesAt
  cases p.matchAt false place with
  | none => exact .nil
  | some first =>
    dsimp only
    split
    · rename_i hempty
      refine List.pairwise_cons.mpr ⟨fun m hm => ?_, ?_⟩
      · have hfits := p.fits (Option.mem_toList.mp hm)
        have hstart := hfits.start
        have hle := hfits.le
        have hne := hfits.moves rfl
        exact ⟨by omega, .inr (by omega)⟩
      · cases p.matchAt true place with
        | none => exact .nil
        | some second => exact List.pairwise_singleton _ _
    · exact List.pairwise_singleton _ _

/-- The search resumes behind all matches. -/
theorem stop_le_resumeAfter (hpairwise : ms.Pairwise Match.Precedes)
    (hbounds : ∀ m ∈ ms, m.start ≤ m.stop) (hm : m ∈ ms) (resume : Nat) :
    m.stop ≤ resumeAfter resume ms := by
  obtain ⟨before, last, rfl⟩ := (List.eq_nil_or_concat ms).resolve_left (List.ne_nil_of_mem hm)
  rw [List.concat_eq_append] at *
  have hresume : resumeAfter resume (before ++ [last]) = last.stop := by
    rw [resumeAfter, List.getLast?_concat]
  rw [hresume]
  rcases List.mem_append.mp hm with hbefore | hlast
  · have hprecedes := (List.pairwise_append.mp hpairwise).2.2 m hbefore last (List.mem_singleton_self _)
    exact Nat.le_trans hprecedes.le
      (hbounds last (List.mem_append_right _ (List.mem_singleton_self _)))
  · exact Nat.le_of_eq (congrArg Match.stop (List.mem_singleton.mp hlast))

/-- The search resumes behind all matches at a place. -/
theorem stop_le_resumeAfter_matchesAt {place : Place} (hm : m ∈ p.matchesAt place) (resume : Nat) :
    m.stop ≤ resumeAfter resume (p.matchesAt place) :=
  stop_le_resumeAfter (pairwise_matchesAt p place) (fun _ h => (matchesAt_bounds h).2.1) hm resume

/-- The search never resumes before the place where it had to. -/
theorem le_resumeAfter {resume : Nat} (h : ∀ m ∈ ms, resume ≤ m.stop) :
    resume ≤ resumeAfter resume ms := by
  unfold resumeAfter
  cases hlast : ms.getLast? with
  | none => exact Nat.le_refl resume
  | some m => exact h m (List.mem_of_getLast? hlast)

variable {before : List Char} {after text : List Char} {offset resume : Nat}

/-- The matches at a place, once the search has resumed. -/
def matchesOnce (p : Pattern) (resume : Nat) (place : Place) : List Match :=
  if place.offset < resume then [] else p.matchesAt place

/-- The matches from a place on are those at the place and those behind it. -/
theorem matchesFrom_cons (c : Char) (cs : List Char) :
    p.matchesFrom before offset resume (c :: cs) =
      let here := p.matchesOnce resume ⟨before, c :: cs, offset⟩
      here ++ p.matchesFrom (c :: before) (offset + 1) (resumeAfter resume here) cs := rfl

/-- At the end of the text there are only the matches there. -/
theorem matchesFrom_nil :
    p.matchesFrom before offset resume [] = p.matchesOnce resume ⟨before, [], offset⟩ := rfl

/-- The matches at a place begin there, and only once the search has resumed. -/
theorem start_eq_of_mem_matchesOnce {place : Place} (h : m ∈ p.matchesOnce resume place) :
    resume ≤ place.offset ∧ m.start = place.offset ∧ m.start ≤ m.stop := by
  unfold matchesOnce at h
  split at h
  · cases h
  · obtain ⟨hstart, hle, -⟩ := matchesAt_bounds h
    exact ⟨by omega, hstart, hle⟩

/-- The matches at a place do not overlap. -/
theorem pairwise_matchesOnce (p : Pattern) (resume : Nat) (place : Place) :
    (p.matchesOnce resume place).Pairwise Match.Precedes := by
  unfold matchesOnce
  split
  · exact .nil
  · exact pairwise_matchesAt p place

/-- No occurrence begins before the place where the search resumes. -/
theorem resume_le_of_mem (h : m ∈ p.matchesFrom before offset resume text) : resume ≤ m.start := by
  induction text generalizing before offset resume with
  | nil =>
    rw [matchesFrom_nil] at h
    obtain ⟨hle, hstart, -⟩ := start_eq_of_mem_matchesOnce h
    exact hstart ▸ hle
  | cons c cs ih =>
    rw [matchesFrom_cons] at h
    rcases List.mem_append.mp h with hhere | hlater
    · obtain ⟨hle, hstart, -⟩ := start_eq_of_mem_matchesOnce hhere
      exact hstart ▸ hle
    · refine Nat.le_trans (le_resumeAfter fun a ha => ?_) (ih hlater)
      obtain ⟨hle, hstart, hstop⟩ := start_eq_of_mem_matchesOnce ha
      omega

/-- Each occurrence ends before the next one begins. -/
theorem pairwise_precedes_matchesFrom (p : Pattern) (before : List Char) (offset resume : Nat)
    (text : List Char) : (p.matchesFrom before offset resume text).Pairwise Match.Precedes := by
  induction text generalizing before offset resume with
  | nil =>
    rw [matchesFrom_nil]
    exact pairwise_matchesOnce p resume _
  | cons c cs ih =>
    rw [matchesFrom_cons]
    -- What is found behind the place lies behind the end of all matches there.
    refine List.pairwise_append.mpr ⟨pairwise_matchesOnce p resume _, ih _ _ _, fun a ha b hb => ?_⟩
    have hstop := stop_le_resumeAfter (pairwise_matchesOnce p resume _)
      (fun _ h => (start_eq_of_mem_matchesOnce h).2.2) ha resume
    have hstart : a.start = offset := (start_eq_of_mem_matchesOnce ha).2.1
    have hbehind := (matchesFrom_bounds hb).1
    exact ⟨Nat.le_trans hstop (resume_le_of_mem hb), .inl (by omega)⟩

/-- Occurrences are found from left to right. -/
theorem pairwise_matchesFrom (p : Pattern) (before : List Char) (offset resume : Nat)
    (text : List Char) :
    (p.matchesFrom before offset resume text).Pairwise fun a b => a.start ≤ b.start :=
  (pairwise_precedes_matchesFrom p before offset resume text).imp_of_mem fun ha _ hprecedes =>
    Nat.le_trans (matchesFrom_bounds ha).2.1 hprecedes.le

/-- Every match has a place for each group of the pattern. -/
theorem length_groups_of_mem (h : m ∈ p.findAll text) : m.groups.length = p.groupCount := by
  obtain ⟨place, -, -, hplace⟩ := exists_matchesAt_of_mem h
  obtain ⟨barred, hmatch⟩ := exists_matchAt_of_mem hplace
  exact (p.fits hmatch).groups

/-! ## What erasing leaves -/

/-- A pattern of which no text has an empty occurrence. -/
def IsProper (p : Pattern) : Prop := ∀ text, ∀ m ∈ p.findAll text, m.start ≠ m.stop

/-- Behind a match that is not empty the search resumes behind the place. -/
theorem lt_resumeAfter_matchesAt {place : Place} (hm : m ∈ p.matchesAt place)
    (hlt : m.start < m.stop) (resume : Nat) :
    place.offset < resumeAfter resume (p.matchesAt place) :=
  calc place.offset
    _ = m.start := (matchesAt_bounds hm).1.symm
    _ < m.stop := hlt
    _ ≤ _ := stop_le_resumeAfter_matchesAt hm resume

/-- An occurrence that is not empty makes erasing shorten the text. -/
theorem length_keptFrom_lt {before : List Char} {offset resume : Nat} {text : List Char}
    (hm : m ∈ p.matchesFrom before offset resume text) (hlt : m.start < m.stop) :
    (p.keptFrom before offset resume text).length < text.length := by
  induction text generalizing before offset resume with
  | nil =>
    have hbounds := matchesFrom_bounds hm
    simp only [List.length_nil] at hbounds
    omega
  | cons c cs ih =>
    simp only [matchesFrom] at hm
    simp only [keptFrom]
    rcases List.mem_append.mp hm with hhere | hlater
    · split at hhere
      · cases hhere
      · rename_i hresume
        rw [if_neg hresume, if_pos (lt_resumeAfter_matchesAt hhere hlt resume)]
        have hle := (p.keptFrom_sublist (c :: before) (offset + 1)
          (resumeAfter resume (p.matchesAt ⟨before, c :: cs, offset⟩)) cs).length_le
        rw [List.length_cons]
        omega
    · generalize resumeAfter resume
        (if offset < resume then [] else p.matchesAt ⟨before, c :: cs, offset⟩) = behind at hlater ⊢
      have hshort := ih hlater
      split <;> simp only [List.length_cons] <;> omega

/-- In a text that erasing leaves as it is, all occurrences are empty. -/
theorem start_eq_stop_of_erase_eq {text : List Char} (h : p.erase text = text)
    (hm : m ∈ p.findAll text) : m.start = m.stop := by
  refine Nat.le_antisymm (matchesFrom_bounds hm).2.1 (Nat.le_of_not_lt fun hlt => ?_)
  have hshort := length_keptFrom_lt hm hlt
  rw [show p.keptFrom [] 0 0 text = text from h] at hshort
  exact Nat.lt_irrefl _ hshort

end Concierge.Pattern
