import Concierge.Pattern.Search

/-!
# Matches move forward

A match at a place begins there and ends there or further on within the text; therefore every occurrence
that the search finds lies within the text that is searched.
-/

namespace Concierge.Pattern

variable {p : Pattern} {m : Match}

/-- Each of the matches that begin at a place is the match there, which may be barred from being empty. -/
theorem exists_matchAt_of_mem {place : Place} (h : m ∈ p.matchesAt place) :
    ∃ barred, p.matchAt barred place = some m := by
  unfold matchesAt at h
  split at h
  · cases h
  · rename_i first hfirst
    split at h
    · rcases List.mem_cons.mp h with rfl | h
      · exact ⟨false, hfirst⟩
      · exact ⟨true, Option.mem_toList.mp h⟩
    · obtain rfl := List.mem_singleton.mp h
      exact ⟨false, hfirst⟩

/-- The matches that begin at a place lie within the text behind it. -/
theorem matchesAt_bounds {place : Place} (h : m ∈ p.matchesAt place) :
    m.start = place.offset ∧ m.start ≤ m.stop ∧ m.stop ≤ place.offset + place.after.length := by
  obtain ⟨barred, hmatch⟩ := exists_matchAt_of_mem h
  have hfits := p.fits hmatch
  exact ⟨hfits.start, hfits.le, hfits.within⟩

/-- Every occurrence begins at a place in the text that is searched. -/
theorem exists_matchesAt_of_mem {before : List Char} {offset resume : Nat} {text : List Char}
    (h : m ∈ p.matchesFrom before offset resume text) :
    ∃ place, offset ≤ place.offset ∧ place.offset + place.after.length = offset + text.length ∧
      m ∈ p.matchesAt place := by
  induction text generalizing before offset resume with
  | nil =>
    simp only [matchesFrom] at h
    split at h
    · cases h
    · exact ⟨_, Nat.le_refl _, rfl, h⟩
  | cons c cs ih =>
    rcases List.mem_append.mp h with hhere | hlater
    · split at hhere
      · cases hhere
      · exact ⟨_, Nat.le_refl _, rfl, hhere⟩
    · obtain ⟨place, hoffset, hend, hm⟩ := ih hlater
      refine ⟨place, by omega, ?_, hm⟩
      rw [hend, List.length_cons]
      omega

/-- Every occurrence lies within the text that is searched. -/
theorem matchesFrom_bounds {before : List Char} {offset resume : Nat} {text : List Char}
    (h : m ∈ p.matchesFrom before offset resume text) :
    offset ≤ m.start ∧ m.start ≤ m.stop ∧ m.stop ≤ offset + text.length := by
  obtain ⟨place, hoffset, hend, hm⟩ := exists_matchesAt_of_mem h
  obtain ⟨hstart, hle, hstop⟩ := matchesAt_bounds hm
  omega

end Concierge.Pattern
