import Concierge.Text.Blank
import Mathlib.Data.List.Chain

/-!
# Texts and their pieces

A text that is cut at a mark is put together again by writing the mark between its pieces, and pieces
without the mark that are written so are found again. What holds of neighbours in a text holds of
neighbours in its pieces.
-/

namespace Concierge.Text

variable {p : Char → Bool} {mark : Char} {cs : List Char} {pieces : List (List Char)}

/-- Cutting a text at a class is splitting a list at a predicate. -/
theorem split_eq_splitOnP (p : Char → Bool) (cs : List Char) : split p cs = cs.splitOnP p := by
  induction cs with
  | nil => rfl
  | cons c cs ih =>
    rw [split, List.splitOnP_cons_eq_if_modifyHead, ih]
    cases hpieces : cs.splitOnP p with
    | nil => exact absurd hpieces (List.splitOnP_ne_nil p cs)
    | cons piece pieces => rfl

/-- A text without the class is its only piece. -/
theorem split_of_forall (h : ∀ c ∈ cs, p c = false) : split p cs = [cs] := by
  rw [split_eq_splitOnP, List.splitOnP_eq_singleton h]

/-- A text is cut on both sides of a character of the class. -/
theorem split_append_cons (before after : List Char) {c : Char} (hc : p c = true) :
    split p (before ++ c :: after) = split p before ++ split p after := by
  simp only [split_eq_splitOnP, List.splitOnP_append_cons before after hc]

/-- A text is put together again from its pieces. -/
theorem intercalate_split (mark : Char) (cs : List Char) :
    [mark].intercalate (split (· == mark) cs) = cs := by
  rw [split_eq_splitOnP]
  exact List.intercalate_splitOn mark

/-- Pieces that are written with a mark between them are found again. -/
theorem split_intercalate (hne : pieces ≠ []) (h : ∀ piece ∈ pieces, mark ∉ piece) :
    split (· == mark) ([mark].intercalate pieces) = pieces := by
  rw [split_eq_splitOnP]
  exact List.splitOn_intercalate mark h hne

/-- The first piece begins as the text does, unless the text begins with the class. -/
theorem exists_split_cons {c : Char} (hc : p c = false) (cs : List Char) :
    ∃ piece pieces, split p (c :: cs) = (c :: piece) :: pieces := by
  rw [split_eq_splitOnP, List.splitOnP_cons_eq_if_modifyHead, hc, if_neg Bool.false_ne_true]
  cases hpieces : cs.splitOnP p with
  | nil => exact absurd hpieces (List.splitOnP_ne_nil p cs)
  | cons piece pieces => exact ⟨piece, pieces, rfl⟩

/-- The last piece ends as the text does, unless the text ends with the class. -/
theorem exists_mem_split_concat {c : Char} (hc : p c = false) (cs : List Char) :
    ∃ piece ∈ split p (cs ++ [c]), piece.getLast? = some c := by
  induction cs with
  | nil => exact ⟨[c], by simp [split_of_forall, hc], rfl⟩
  | cons d cs ih =>
    obtain ⟨piece, hpiece, hlast⟩ := ih
    rw [List.cons_append, split]
    cases hpieces : split p (cs ++ [c]) with
    | nil =>
      rw [hpieces] at hpiece
      cases hpiece
    | cons first others =>
      rw [hpieces] at hpiece
      by_cases hd : p d = true
      · rw [if_pos hd]
        exact ⟨piece, List.mem_cons_of_mem _ hpiece, hlast⟩
      · rw [if_neg hd]
        rcases List.mem_cons.mp hpiece with rfl | hother
        · refine ⟨d :: piece, List.mem_cons_self, ?_⟩
          rw [List.getLast?_cons, hlast]
          rfl
        · exact ⟨piece, List.mem_cons_of_mem _ hother, hlast⟩

/-- What is put together begins with the first piece, and the mark stands before each further one. -/
theorem intercalate_cons (mark : Char) (first : List Char) (others : List (List Char)) :
    [mark].intercalate (first :: others) = first ++ others.flatMap (mark :: ·) := by
  induction others generalizing first with
  | nil => simp
  | cons next others ih =>
    rw [List.intercalate_cons_cons, ih, List.flatMap_cons, List.append_assoc]
    rfl

/-- A character of what is put together from pieces is the mark or one of a piece. -/
theorem mem_intercalate {c : Char} (h : c ∈ [mark].intercalate pieces) :
    c = mark ∨ ∃ piece ∈ pieces, c ∈ piece := by
  induction pieces with
  | nil => cases h
  | cons piece pieces ih =>
    cases pieces with
    | nil => exact .inr ⟨piece, List.mem_cons_self, by simpa using h⟩
    | cons next pieces =>
      rw [List.intercalate_cons_cons, List.mem_append, List.mem_append, List.mem_singleton] at h
      rcases h with (hpiece | rfl) | hrest
      · exact .inr ⟨piece, List.mem_cons_self, hpiece⟩
      · exact .inl rfl
      · rcases ih hrest with rfl | ⟨other, hother, hc⟩
        · exact .inl rfl
        · exact .inr ⟨other, List.mem_cons_of_mem piece hother, hc⟩

/-- Every piece is a stretch of what is put together. -/
theorem infix_intercalate {piece : List Char} (h : piece ∈ pieces) :
    piece <:+: [mark].intercalate pieces := by
  induction pieces with
  | nil => cases h
  | cons first pieces ih =>
    cases pieces with
    | nil =>
      obtain rfl : piece = first := by simpa using h
      exact List.intercalate_singleton ▸ List.infix_rfl
    | cons next pieces =>
      rw [List.intercalate_cons_cons]
      rcases List.mem_cons.mp h with rfl | hrest
      · rw [List.append_assoc]
        exact (List.prefix_append piece _).isInfix
      · exact (ih hrest).trans (List.suffix_append _ _).isInfix

/-- Pieces are stretches of the text that is cut. -/
theorem infix_of_mem_split {piece : List Char} (h : piece ∈ split (· == mark) cs) : piece <:+: cs := by
  have hstretch : piece <:+: [mark].intercalate (split (· == mark) cs) := infix_intercalate h
  rwa [intercalate_split] at hstretch

/-- No piece holds the mark. -/
theorem not_mem_of_mem_split {piece : List Char} (h : piece ∈ split (· == mark) cs) : mark ∉ piece := by
  induction cs generalizing piece with
  | nil =>
    obtain rfl : piece = [] := by simpa [split] using h
    exact List.not_mem_nil
  | cons c cs ih =>
    rw [split] at h
    cases hpieces : split (· == mark) cs with
    | nil =>
      rw [split_eq_splitOnP] at hpieces
      exact absurd hpieces (List.splitOnP_ne_nil _ cs)
    | cons first others =>
      rw [hpieces] at h ih
      split at h
      · rcases List.mem_cons.mp h with rfl | hmem
        · exact List.not_mem_nil
        · exact ih hmem
      · rename_i hc
        rcases List.mem_cons.mp h with rfl | hmem
        · rw [List.mem_cons, not_or]
          exact ⟨fun heq => hc (by simp [heq]), ih List.mem_cons_self⟩
        · exact ih (List.mem_cons_of_mem first hmem)

/-- Neighbours in what is put together are neighbours in a piece, or one of them is the mark. -/
theorem isChain_intercalate {R : Char → Char → Prop} (hbefore : ∀ c, R c mark) (hafter : ∀ c, R mark c)
    (h : ∀ piece ∈ pieces, piece.IsChain R) : ([mark].intercalate pieces).IsChain R := by
  induction pieces with
  | nil => exact .nil
  | cons piece pieces ih =>
    cases pieces with
    | nil => simpa using h
    | cons next pieces =>
      have hrest := ih fun other hother => h other (List.mem_cons_of_mem piece hother)
      rw [List.intercalate_cons_cons, List.append_assoc, List.isChain_append]
      refine ⟨h piece List.mem_cons_self, hrest.cons fun c _ => hafter c, ?_⟩
      intro c _ d hd
      obtain rfl : mark = d := by simpa using hd
      exact hbefore c

end Concierge.Text
