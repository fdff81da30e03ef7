import Concierge.Clean.Line
import Concierge.Proofs.Display.Tidy

/-!
# What a cleaned line holds

A cleaned line has no markup tag, no control character, and single spaces as its only blanks. The tags
are removed first and in one pass; what is removed after them brings no new tag about, since a tag of what
is left was a tag before.
-/

namespace Concierge.Clean

/-- Somewhere in the text a `<` is followed by a `>`, next to it or later. -/
def HasTag (cs : List Char) : Prop := ['<', '>'].Sublist cs

/-- A single line of plain text. -/
structure IsLine (cs : List Char) : Prop where
  noTag : ¬ HasTag cs
  noControl : ∀ c ∈ cs, isControl c = false
  isTidy : Text.IsTidy cs

/-! ## Tags -/

/-- A tag is made of characters that are no blanks. -/
theorem HasTag.ink {cs : List Char} (h : HasTag cs) : HasTag (Text.ink cs) :=
  List.Sublist.filter (fun c => !Text.isBlank c) h

/-- A text whose ink is left of another one has no tag that the other one does not have. -/
theorem HasTag.of_ink {cs cs' : List Char} (h : HasTag cs) (hink : (Text.ink cs).Sublist (Text.ink cs')) :
    HasTag cs' := (h.ink.trans hink).trans List.filter_sublist

/-- What is left when tags are dropped is left in place. -/
theorem dropTagsFrom_sublist (inTag : Bool) (cs : List Char) : (dropTagsFrom inTag cs).Sublist cs := by
  induction cs generalizing inTag with
  | nil => cases inTag <;> exact .refl []
  | cons c cs ih =>
    cases inTag with
    | true =>
      rw [dropTagsFrom]
      exact (ih _).cons c
    | false =>
      rw [dropTagsFrom]
      split
      · exact (ih true).cons c
      · exact (ih false).cons_cons c

/-- A tag that begins with the first character needs a `>` behind it. -/
theorem HasTag.cases {c : Char} {cs : List Char} (h : HasTag (c :: cs)) :
    (c = '<' ∧ '>' ∈ cs) ∨ HasTag cs := by
  rcases List.sublist_cons_iff.mp h with hrest | ⟨rest, hstart, hrest⟩
  · exact .inr hrest
  · obtain ⟨hc, rfl⟩ := List.cons.inj hstart
    exact .inl ⟨hc.symm, List.singleton_sublist.mp hrest⟩

/-- Where tags were dropped there is none. -/
theorem not_hasTag_dropTagsFrom (inTag : Bool) (cs : List Char) : ¬ HasTag (dropTagsFrom inTag cs) := by
  induction cs generalizing inTag with
  | nil => cases inTag <;> exact nofun
  | cons c cs ih =>
    cases inTag with
    | true =>
      rw [dropTagsFrom]
      exact ih _
    | false =>
      rw [dropTagsFrom]
      split
      · exact ih true
      · -- The character is kept: it is no `<`, or no `>` comes after it.
        rename_i hkept
        intro h
        rcases h.cases with ⟨rfl, hclosed⟩ | h
        · exact hkept (by simpa using (dropTagsFrom_sublist false cs).mem hclosed)
        · exact ih false h

/-- A text without tags is left as it is. -/
theorem dropTags_eq_self {cs : List Char} (h : ¬ HasTag cs) : dropTags cs = cs := by
  unfold dropTags
  induction cs with
  | nil => rfl
  | cons c cs ih =>
    have hopen : ¬ (c == '<' && cs.contains '>') = true := by
      intro hboth
      simp only [Bool.and_eq_true, beq_iff_eq, List.contains_iff_mem] at hboth
      obtain ⟨rfl, hclosed⟩ := hboth
      exact h ((List.singleton_sublist.mpr hclosed).cons_cons '<')
    rw [dropTagsFrom, if_neg hopen, ih fun hrest => h (hrest.cons c)]

/-- A text without control characters is left as it is. -/
theorem dropControls_eq_self {cs : List Char} (h : ∀ c ∈ cs, isControl c = false) :
    dropControls cs = cs := List.filter_eq_self.mpr (by simpa using h)

/-! ## The whole line -/

/-- A cleaned line is a single line of plain text. -/
theorem isLine_lineChars (cs : List Char) : IsLine (lineChars cs) where
  noTag h := by
    have hcontrols : HasTag (dropControls (dropTags cs)) :=
      h.of_ink (Text.ink_strip_squeeze_sublist (dropControls (dropTags cs)))
    exact not_hasTag_dropTagsFrom false cs (hcontrols.trans List.filter_sublist)
  noControl c hc := by
    have htidy := Text.isTidy_strip_squeeze (dropControls (dropTags cs))
    cases hblank : Text.isBlank c with
    | true =>
      rw [htidy.eq_space c hc hblank]
      rfl
    | false =>
      have hink : c ∈ Text.ink (lineChars cs) := List.mem_filter.mpr ⟨hc, by simp [hblank]⟩
      have hkept := (Text.ink_strip_squeeze_sublist (dropControls (dropTags cs))).mem hink
      simpa using (List.mem_filter.mp (List.mem_filter.mp hkept).1).2
  isTidy := Text.isTidy_strip_squeeze _

/-- The line of a text. -/
theorem line_text (s : String) : line (.text s) = .ok (String.ofList (lineChars s.toList)) := rfl

/-- A value is cleaned as its text is, if it has one. -/
theorem line_eq {v : Value} {s : String} (h : v.asText = .ok s) : line v = line (.text s) := by
  rw [line, h]
  rfl

/-- A value has a line, unless one of its integers is too long. -/
theorem line_cases (v : Value) :
    (v.isShort = false ∧ line v = .error .tooLong) ∨ ∃ s, v.asText = .ok s ∧ line v = line (.text s) := by
  rcases v.showsIf_asText with ⟨-, s, hs⟩ | ⟨hlong, herror⟩
  · exact .inr ⟨s, hs, line_eq hs⟩
  · exact .inl ⟨hlong, by rw [line, herror]; rfl⟩

/-- What a value is cleaned to as a line is a line. -/
theorem isLine_of_line {v : Value} {s : String} (h : line v = .ok s) : IsLine s.toList := by
  rcases line_cases v with ⟨-, herror⟩ | ⟨given, -, hgiven⟩
  · rw [herror] at h
    cases h
  · rw [hgiven, line_text, Except.ok.injEq] at h
    rw [← h, String.toList_ofList]
    exact isLine_lineChars _

/-- A single line of plain text is left as it is. -/
theorem IsLine.lineChars_eq {cs : List Char} (h : IsLine cs) : lineChars cs = cs := by
  rw [lineChars, dropTags_eq_self h.noTag, dropControls_eq_self h.noControl, h.isTidy.strip_squeeze]

end Concierge.Clean
