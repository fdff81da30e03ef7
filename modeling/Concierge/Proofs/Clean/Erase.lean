import Concierge.Proofs.Clean.Argument
import Mathlib.Data.List.TakeWhile

/-!
# What cleaning leaves nothing of

Cleaning can leave nothing of a text that was not blank: of a line that is all markup, of a text that is no
email address, of a link with a scheme that is not allowed. Which values these are is told for each
category, and what is left of any other value is not blank.
-/

namespace Concierge

namespace Text

/-- Nothing is left of a text without its blanks if it has no other characters. -/
theorem ink_eq_nil_iff {cs : List Char} : ink cs = [] ↔ ∀ c ∈ cs, isBlank c = true := by
  simp [ink, List.filter_eq_nil_iff]

/-- Trimming leaves nothing of a text of the class only. -/
theorem trim_eq_nil_iff {p : Char → Bool} {cs : List Char} : trim p cs = [] ↔ ∀ c ∈ cs, p c = true := by
  constructor
  · intro h
    have hfront : ∀ c ∈ cs.dropWhile p, p c = true := by
      rw [trim, trimEnd, List.reverse_eq_nil_iff, List.dropWhile_eq_nil_iff] at h
      intro c hc
      exact h c (List.mem_reverse.mpr hc)
    -- A character that is left at the front is not of the class, so none is left there.
    have hnone : cs.dropWhile p = [] := by
      cases hleft : cs.dropWhile p with
      | nil => rfl
      | cons c rest =>
        have hhead : c ∈ (cs.dropWhile p).head? := by
          rw [hleft]
          rfl
        have hc : p c = false := head_dropWhile c hhead
        rw [hfront c (by rw [hleft]; exact List.mem_cons_self)] at hc
        cases hc
    exact List.dropWhile_eq_nil_iff.mp hnone
  · intro h
    rw [trim, List.dropWhile_eq_nil_iff.mpr h]
    rfl

end Text

namespace Clean

/-! ## Lines -/

/-- Nothing is left of a line that holds only blanks, markup tags and control characters. -/
theorem lineChars_eq_nil_iff {cs : List Char} :
    lineChars cs = [] ↔ ∀ c ∈ dropControls (dropTags cs), Text.isBlank c = true := by
  have hink : Text.ink (Text.squeeze Text.isBlank (dropControls (dropTags cs))) =
      Text.ink (dropControls (dropTags cs)) := Text.ink_squeezeFrom false _
  rw [lineChars, Text.strip, Text.trim_eq_nil_iff, ← Text.ink_eq_nil_iff, hink, Text.ink_eq_nil_iff]

/-- A cleaned line of blanks only is empty. -/
theorem eq_nil_of_isLine {cs : List Char} (h : IsLine cs) (hblank : ∀ c ∈ cs, Text.isBlank c = true) :
    cs = [] := by
  cases cs with
  | nil => rfl
  | cons c rest =>
    have hhead : Text.isBlank c = false := h.isTidy.head c rfl
    rw [hblank c List.mem_cons_self] at hhead
    cases hhead

/-! ## Email addresses -/

/-- The text has one `@`, with a character of a local part before it, and behind it at least two pieces
between dots that a label can be made of. -/
def HoldsAddress (cs : List Char) : Prop :=
  ∃ localPart domain, Text.split (· == '@') (Text.strip cs) = [localPart, domain] ∧
    (∃ c ∈ localPart, isLocalChar c = true) ∧
    2 ≤ (Text.split (· == '.') (Text.lowered domain)).countP
      fun piece => piece.any fun c => isLabelChar c && c != '-'

/-- A label can be made of a text that has a character other than a hyphen that a label may hold. -/
theorem label_isEmpty (cs : List Char) :
    (label cs).isEmpty = !cs.any fun c => isLabelChar c && c != '-' := by
  rw [Bool.eq_iff_iff, List.isEmpty_iff, label, Text.trim_eq_nil_iff]
  simp only [List.mem_filter, Bool.not_eq_true', List.any_eq_false, Bool.and_eq_true, bne_iff_ne,
    beq_iff_eq, not_and, not_not, and_imp]

/-- The labels of a domain are as many as the pieces that a label can be made of. -/
theorem length_labels (domain : List Char) :
    (labels domain).length = (Text.split (· == '.') (Text.lowered domain)).countP
      fun piece => piece.any fun c => isLabelChar c && c != '-' := by
  rw [labels, ← List.countP_eq_length_filter, List.countP_map]
  congr 1
  funext piece
  simp only [Function.comp_apply, label_isEmpty, Bool.not_not]

/-- Two parts make an address if the first has a character that is kept, and the second at least two
labels. -/
theorem address_eq_nil_iff {localPart domain : List Char} : address localPart domain = [] ↔
    ¬ ((∃ c ∈ localPart, isLocalChar c = true) ∧ 2 ≤ (labels domain).length) := by
  have hname : (localPart.filter isLocalChar).isEmpty = true ↔
      ¬ ∃ c ∈ localPart, isLocalChar c = true := by
    simp [List.filter_eq_nil_iff]
  unfold address
  dsimp only
  split
  · rename_i hbad
    rw [Bool.or_eq_true, hname, decide_eq_true_iff] at hbad
    simp only [true_iff]
    rintro ⟨hlocal, htwo⟩
    rcases hbad with hbad | hbad
    · exact hbad hlocal
    · omega
  · rename_i hgood
    rw [Bool.or_eq_true, hname, decide_eq_true_iff, not_or, not_not, Nat.not_lt] at hgood
    exact iff_of_false (by simp) (not_not_intro hgood)

/-- Nothing is left of a text that no address can be made of. -/
theorem emailChars_eq_nil_iff {cs : List Char} : emailChars cs = [] ↔ ¬ HoldsAddress cs := by
  unfold emailChars HoldsAddress
  split
  · rename_i localPart domain hsplit
    rw [address_eq_nil_iff, length_labels, hsplit]
    constructor
    · rintro h ⟨_, _, heq, hholds⟩
      cases heq
      exact h hholds
    · intro h hholds
      exact h ⟨localPart, domain, rfl, hholds⟩
  · rename_i hsplit
    refine iff_of_true rfl ?_
    rintro ⟨localPart, domain, heq, -⟩
    exact hsplit localPart domain heq

/-- A cleaned address of blanks only is empty, since an address has an `@`. -/
theorem eq_nil_of_isEmail {cs : List Char} (h : IsEmail cs) (hblank : ∀ c ∈ cs, Text.isBlank c = true) :
    cs = [] := by
  rcases h with rfl | ⟨name, domain, haddress⟩
  · rfl
  · have hat : '@' ∈ cs := by simp [haddress.written]
    exact absurd (hblank '@' hat) (by decide)

/-! ## Links -/

/-- What is left of a link before its scheme is looked for: characters that are neither blanks nor control
characters. -/
def visible (cs : List Char) : List Char := (dropControls cs).filter fun c => !Text.isBlank c

/-- What stands before the first colon is a scheme without a dot, and not an allowed one. -/
def HasForbiddenScheme (cs : List Char) : Prop :=
  ∃ scheme rest, cs = scheme ++ ':' :: rest ∧ ':' ∉ scheme ∧ isScheme scheme = true ∧
    '.' ∉ Text.lowered scheme ∧ Text.lowered scheme ∉ allowedSchemes

/-- A scheme in small letters is not empty. -/
theorem lowered_ne_nil {scheme : List Char} (h : isScheme scheme = true) : Text.lowered scheme ≠ [] := by
  cases scheme with
  | nil => cases h
  | cons c rest =>
    have hc : Text.loweredChar c ≠ [] := by
      unfold Text.loweredChar
      split_ifs <;> simp
    simp [Text.lowered, hc]

/-- A link whose scheme is looked for is left out if it has one that is forbidden. -/
theorem absoluteUrl_eq_nil_iff {cs out : List Char} (h : absoluteUrl cs = .ok out) (hcs : cs ≠ []) :
    out = [] ↔ HasForbiddenScheme cs := by
  unfold absoluteUrl at h
  obtain ⟨scheme, hscheme, h⟩ := Fault.ok_of_bind h
  have hcut := fst_cutScheme_of_schemeOf hscheme
  -- A forbidden scheme is the one that has been cut off.
  have hforbidden : HasForbiddenScheme cs →
      scheme ≠ [] ∧ '.' ∉ scheme ∧ scheme ∉ allowedSchemes := by
    rintro ⟨written, rest, hwritten, hfirst, hgood, hdot, hallowed⟩
    have hat : Text.cutAt? ':' cs = some (written, rest) :=
      Text.cutAt?_eq_some_iff.mpr ⟨hwritten, hfirst⟩
    rw [cutScheme, hat] at hcut
    simp only [hgood, if_true] at hcut
    subst hcut
    exact ⟨lowered_ne_nil hgood, hdot, hallowed⟩
  split at h
  · rename_i hplain
    cases h
    have hplainScheme : plainScheme ≠ [] := by decide
    refine iff_of_false (List.append_ne_nil_of_left_ne_nil hplainScheme cs) fun hhas => ?_
    obtain ⟨hne, hdot, -⟩ := hforbidden hhas
    simp [hne, hdot] at hplain
  · rename_i hplain
    simp only [Bool.or_eq_true, List.isEmpty_iff, List.contains_iff_mem, not_or] at hplain
    obtain ⟨written, hwritten, hfirst, hgood, hlowered⟩ :=
      exists_of_cutScheme (Prod.ext hcut rfl : cutScheme cs = (scheme, _)) hplain.1
    by_cases hallowed : scheme ∈ allowedSchemes
    · rw [if_pos (by simpa using hallowed)] at h
      cases h
      exact iff_of_false hcs fun hhas => (hforbidden hhas).2.2 hallowed
    · rw [if_neg (by simpa using hallowed)] at h
      cases h
      refine iff_of_true rfl ⟨written, _, hwritten, hfirst, hgood, ?_, ?_⟩
      · rw [hlowered]
        exact hplain.2
      · rw [hlowered]
        exact hallowed

/-- A scheme does not begin as a relative link does. -/
theorem not_relative_of_hasForbiddenScheme {c : Char} {cs : List Char}
    (h : HasForbiddenScheme (c :: cs)) : ¬ (c = '/' ∨ c = '#' ∨ c = '?') := by
  obtain ⟨scheme, rest, hwritten, -, hgood, -⟩ := h
  cases scheme with
  | nil => cases hgood
  | cons d scheme =>
    obtain ⟨rfl, -⟩ := List.cons.inj hwritten
    rintro (rfl | rfl | rfl) <;> simp [isScheme, isAsciiLetter] at hgood

/-- Nothing is left of a link in which nothing is visible, or which has a scheme that is forbidden. -/
theorem urlChars_eq_nil_iff {cs out : List Char} (h : urlChars cs = .ok out) :
    out = [] ↔ visible cs = [] ∨ HasForbiddenScheme (visible cs) := by
  cases hvisible : visible cs with
  | nil =>
    rw [visible] at hvisible
    rw [urlChars, hvisible] at h
    cases h
    simp
  | cons c rest =>
    rw [visible] at hvisible
    rw [urlChars, hvisible] at h
    dsimp only at h
    split at h
    · rename_i hrelative
      cases h
      refine iff_of_false (by simp) ?_
      rintro (hnil | hhas)
      · cases hnil
      · exact not_relative_of_hasForbiddenScheme hhas (by simpa [or_assoc] using hrelative)
    · rw [absoluteUrl_eq_nil_iff h (List.cons_ne_nil _ _)]
      simp

/-- A cleaned link of blanks only is empty. -/
theorem eq_nil_of_isLink {cs : List Char} (h : IsLink cs) (hblank : ∀ c ∈ cs, Text.isBlank c = true) :
    cs = [] := by
  refine List.eq_nil_iff_forall_not_mem.mpr fun c hc => ?_
  have hvisible := h.noBlank c hc
  rw [hblank c hc] at hvisible
  cases hvisible

end Clean

/-! ## All categories -/

/-- Cleaning by the category leaves nothing of the characters. -/
def Category.ErasesChars : Category → List Char → Prop
  | .email, cs => ¬ Clean.HoldsAddress cs
  | .url, cs => Clean.visible cs = [] ∨ Clean.HasForbiddenScheme (Clean.visible cs)
  | .number, _ => False
  | .line, cs => ∀ c ∈ Clean.dropControls (Clean.dropTags cs), Text.isBlank c = true

/-- Cleaning by the category leaves nothing of the text of the value. -/
def Category.Erases (category : Category) (v : Value) : Prop :=
  ∃ s, v.asText = .ok s ∧ category.ErasesChars s.toList

namespace Clean

variable {category : Category} {v cleaned : Value}

/-- A text of characters is empty if there are none. -/
theorem text_ofList_eq_empty_iff {cs : List Char} : Value.text (String.ofList cs) = .text "" ↔ cs = [] := by
  rw [Value.text.injEq, ← String.toList_inj]
  simp

/-- What is erased of a value is told by its text. -/
theorem erases_iff {s : String} (h : v.asText = .ok s) :
    category.Erases v ↔ category.ErasesChars s.toList := by
  constructor
  · rintro ⟨s', hs', herases⟩
    cases h.symm.trans hs'
    exact herases
  · exact fun herases => ⟨s, h, herases⟩

/-- Cleaning gives the empty text for just the values that it leaves nothing of. -/
theorem eq_empty_iff_erases (h : category.clean v = .ok cleaned) :
    cleaned = .text "" ↔ category.Erases v := by
  cases category with
  | email =>
    obtain ⟨s, hs, rfl⟩ := Fault.ok_of_map (Fault.ok_of_mapError h)
    obtain ⟨text, htext, rfl⟩ := Fault.ok_of_map hs
    rw [erases_iff htext, text_ofList_eq_empty_iff]
    exact emailChars_eq_nil_iff
  | url =>
    obtain ⟨s, hs, rfl⟩ := Fault.ok_of_map h
    obtain ⟨text, cs, htext, hcs, rfl⟩ := exists_of_url hs
    rw [erases_iff htext, text_ofList_eq_empty_iff]
    exact urlChars_eq_nil_iff hcs
  | number =>
    obtain ⟨i, hi, rfl⟩ := Fault.ok_of_map (Fault.ok_of_mapError h)
    exact iff_of_false nofun fun ⟨_, _, hnone⟩ => hnone
  | line =>
    obtain ⟨s, hs, rfl⟩ := Fault.ok_of_map (Fault.ok_of_mapError h)
    obtain ⟨text, htext, rfl⟩ := Fault.ok_of_map hs
    rw [erases_iff htext, text_ofList_eq_empty_iff]
    exact lineChars_eq_nil_iff

/-- A cleaned value that is blank is the empty text. -/
theorem isBlank_iff_of_clean (h : category.clean v = .ok cleaned) :
    cleaned.isBlank = true ↔ cleaned = .text "" := by
  constructor
  · intro hblank
    have hadmits := admits_of_clean h
    cases cleaned with
    | text s =>
      have hchars : ∀ c ∈ s.toList, Text.isBlank c = true := List.all_eq_true.mp hblank
      have hnil : s.toList = [] := by
        cases category with
        | email => exact eq_nil_of_isEmail hadmits hchars
        | url => exact eq_nil_of_isLink hadmits hchars
        | number => exact hadmits.elim
        | line => exact eq_nil_of_isLine hadmits hchars
      rw [← String.ofList_toList (s := s), hnil]
    | null => cases category <;> exact hadmits.elim
    | _ => cases hblank
  · rintro rfl
    rfl

/-- Every argument is there after cleaning, as what cleaning it has come to. -/
theorem find?_arguments {given params : Params} (h : arguments given = .ok params) {name : String}
    {raw : Value} (hraw : Dict.find? name given = some raw) :
    ∃ v, argument name raw = .ok v ∧ Dict.find? name params = some v := by
  unfold arguments at h
  induction given generalizing params with
  | nil => cases hraw
  | cons e rest ih =>
    rw [List.mapM_cons] at h
    obtain ⟨e', he, h⟩ := Fault.ok_of_bind h
    obtain ⟨v, hv, he⟩ := Fault.ok_of_bind he
    obtain ⟨params', hrest, h⟩ := Fault.ok_of_bind h
    cases he
    cases h
    by_cases hname : e.1 = name
    · have hfound : e.2 = raw := by simpa [Dict.find?, hname] using hraw
      refine ⟨v, ?_, by simp [Dict.find?, hname]⟩
      rw [← hname, ← hfound]
      exact hv
    · obtain ⟨v', hv', hfound⟩ := ih hrest (by simpa [Dict.find?, hname] using hraw)
      exact ⟨v', hv', by simpa [Dict.find?, hname] using hfound⟩

end Clean

end Concierge
