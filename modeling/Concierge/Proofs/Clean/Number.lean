import Concierge.Clean.Number
import Concierge.Proofs.Clean.Block

/-!
# Numbers are read as they are printed

A natural number is printed in ASCII digits. Cleaning leaves them as they are, and they are read again as
the number, unless there are more of them than an integer may have.
-/

namespace Concierge

/-! ## Visible characters -/

namespace Text

/-- An ASCII character that is neither a blank nor a control character. -/
def IsVisible (c : Char) : Prop := 0x21 ≤ c.toNat ∧ c.toNat ≤ 0x7e

/-- A visible character is no blank. -/
theorem IsVisible.isBlank_eq {c : Char} (h : IsVisible c) : isBlank c = false := by
  obtain ⟨hleast, hmost⟩ := h
  simp only [isBlank, isSpace, Bool.or_eq_false_iff, Bool.and_eq_false_iff, beq_eq_false_iff_ne,
    decide_eq_false_iff_not]
  omega

/-- A visible character is no white space. -/
theorem IsVisible.isSpace_eq {c : Char} (h : IsVisible c) : isSpace c = false := by
  obtain ⟨hleast, hmost⟩ := h
  simp only [isSpace, Bool.or_eq_false_iff, Bool.and_eq_false_iff, beq_eq_false_iff_ne,
    decide_eq_false_iff_not]
  omega

/-- A visible character is no control character. -/
theorem IsVisible.isControl_eq {c : Char} (h : IsVisible c) : Clean.isControl c = false := by
  obtain ⟨hleast, hmost⟩ := h
  simp only [Clean.isControl, Bool.or_eq_false_iff, Bool.and_eq_false_iff, beq_eq_false_iff_ne,
    decide_eq_false_iff_not]
  omega

/-- The ASCII digits have the codes from 48 to 57. -/
theorem toNat_of_isDigit {c : Char} (h : c.isDigit = true) : 48 ≤ c.toNat ∧ c.toNat ≤ 57 := by
  have hrange : 48 ≤ c.val ∧ c.val ≤ 57 := by
    simpa [Char.isDigit] using h
  exact hrange

/-- An ASCII digit is visible. -/
theorem isVisible_of_isDigit {c : Char} (h : c.isDigit = true) : IsVisible c := by
  have hrange := toNat_of_isDigit h
  unfold IsVisible
  omega

/-- The value of an ASCII digit is its place among the digits. -/
theorem digitValue?_of_isDigit {c : Char} (h : c.isDigit = true) :
    digitValue? c = some (c.toNat - '0'.toNat) := by
  have hrange : '0' ≤ c ∧ c ≤ '9' := toNat_of_isDigit h
  rw [digitValue?, if_pos hrange]

/-- A character that is no ASCII digit does not stand among digits. -/
theorem not_mem_of_isDigit {cs : List Char} (h : ∀ c ∈ cs, c.isDigit = true) {mark : Char}
    (hmark : mark.isDigit = false) : mark ∉ cs := by
  intro hmem
  rw [h mark hmem] at hmark
  cases hmark

end Text

namespace Clean

/-- A text of visible characters is a line, unless a tag is opened in it. -/
theorem isLine_of_isVisible {cs : List Char} (h : ∀ c ∈ cs, Text.IsVisible c) (hopen : '<' ∉ cs) :
    IsLine cs where
  noTag htag := hopen (htag.mem List.mem_cons_self)
  noControl c hc := (h c hc).isControl_eq
  isTidy :=
    { eq_space := by
        intro c hc hblank
        rw [(h c hc).isBlank_eq] at hblank
        cases hblank
      apart := (List.pairwise_of_forall_mem_list fun a ha _ _ => .inl (h a ha).isBlank_eq).isChain
      head := fun c hc => (h c (List.mem_of_mem_head? hc)).isBlank_eq
      last := fun c hc => (h c (List.mem_of_mem_getLast? hc)).isBlank_eq }

end Clean

/-! ## Digits -/

/-- A number is printed in ASCII digits. -/
theorem Text.isDigit_of_mem_toString {n : Nat} {c : Char} (h : c ∈ (toString n).toList) :
    c.isDigit = true := by
  rw [Nat.toString_eq_repr, Nat.toList_repr] at h
  exact Nat.isDigit_of_mem_toDigits (by decide) (by decide) h

namespace Reading

/-- A text of ASCII digits is read as these digits, and nothing is left. -/
theorem leadingDigits_of_isDigit {cs : List Char} (h : ∀ c ∈ cs, c.isDigit = true) :
    leadingDigits cs = (cs.map fun c => c.toNat - '0'.toNat, []) := by
  induction cs with
  | nil => rfl
  | cons c cs ih =>
    have hrest := ih fun d hd => h d (List.mem_cons_of_mem c hd)
    rw [leadingDigits, Text.digitValue?_of_isDigit (h c List.mem_cons_self), hrest]
    rfl

/-- The digits of a number stand for the number. -/
theorem ofDigits_toDigits (n : Nat) :
    ofDigits ((Nat.toDigits 10 n).map fun c => c.toNat - '0'.toNat) = n := by
  have hread : Nat.ofDigitChars 10 (Nat.toDigits 10 n) 0 = n :=
    Nat.ofDigitChars_toDigits (by decide) (by decide)
  rw [ofDigits, List.foldl_map]
  exact hread

/-- A digit at the front of a text is no sign. -/
theorem sign_of_isDigit {c : Char} (h : c.isDigit = true) (cs : List Char) :
    sign (c :: cs) = (false, c :: cs) := by
  have hminus : c ≠ '-' := by
    rintro rfl
    cases h
  have hplus : c ≠ '+' := by
    rintro rfl
    cases h
  unfold sign
  split
  · rename_i heq
    exact absurd (List.cons.inj heq).1 hminus
  · rename_i heq
    exact absurd (List.cons.inj heq).1 hplus
  · rfl

/-- A number is printed in at least one digit, and the digits stand for it. -/
theorem exists_digits (n : Nat) : ∃ c cs, (toString n).toList = c :: cs ∧
    (∀ d ∈ c :: cs, d.isDigit = true) ∧ ofDigits ((c :: cs).map fun c => c.toNat - '0'.toNat) = n := by
  have hprinted : (toString n).toList = Nat.toDigits 10 n := by
    rw [Nat.toString_eq_repr, Nat.toList_repr]
  obtain ⟨c, cs, hcs⟩ := List.exists_cons_of_ne_nil (Nat.toDigits_ne_nil (b := 10) (n := n))
  refine ⟨c, cs, hprinted.trans hcs, fun d hd => ?_, hcs ▸ ofDigits_toDigits n⟩
  exact Text.isDigit_of_mem_toString (hprinted.trans hcs ▸ hd)

/-- Digits that are not too many make their number. -/
theorem boundedNat_of_le {ds : List Nat} (h : ds.length ≤ digitLimit) : boundedNat ds = .ok (ofDigits ds) :=
  if_neg (Nat.not_lt.mpr h)

/-- Among digits a text of ASCII digits is read to its end. -/
theorem digitRun?_of_isDigit {cs : List Char} (h : ∀ c ∈ cs, c.isDigit = true) :
    digitRun? true cs = some (cs.map fun c => c.toNat - '0'.toNat, []) := by
  induction cs with
  | nil => rfl
  | cons c cs ih =>
    have hrest := ih fun d hd => h d (List.mem_cons_of_mem c hd)
    rw [digitRun?, Text.digitValue?_of_isDigit (h c List.mem_cons_self), hrest]
    rfl

/-- A natural number of not too many digits is read as it is printed. -/
theorem integer_toString {n : Nat} (h : isShort n = true) : integer (toString n) = .ok n := by
  obtain ⟨c, cs, hprinted, hdigits, hread⟩ := exists_digits n
  obtain ⟨hfirst, hrest⟩ := List.forall_mem_cons.mp hdigits
  have hspace : ¬ Text.isSpace c = true := by
    rw [(Text.isVisible_of_isDigit hfirst).isSpace_eq]
    decide
  have hlimit : ((c :: cs).map fun c => c.toNat - '0'.toNat).length ≤ digitLimit := by
    rw [List.length_map, ← hprinted, Nat.toString_eq_repr, Nat.toList_repr]
    exact of_decide_eq_true h
  have hrun : digitRun? false (c :: cs) = some ((c :: cs).map fun c => c.toNat - '0'.toNat, []) := by
    rw [digitRun?, Text.digitValue?_of_isDigit hfirst, digitRun?_of_isDigit hrest]
    rfl
  rw [integer, hprinted, List.dropWhile_cons_of_neg hspace, sign_of_isDigit hfirst]
  dsimp only
  rw [hrun]
  dsimp only
  rw [boundedNat_of_le hlimit, hread]
  rfl

end Reading

namespace Clean

/-- A number that is not too long is read as it is printed. -/
theorem leadingNumber_toString {n : Nat} (h : (toString n).length ≤ digitLimit) :
    leadingNumber (toString n).toList = .ok n := by
  obtain ⟨c, cs, hprinted, hdigits, hread⟩ := Reading.exists_digits n
  have hfirst : c.isDigit = true := hdigits c List.mem_cons_self
  have hblank : ¬ Text.isBlank c = true := by
    rw [(Text.isVisible_of_isDigit hfirst).isBlank_eq]
    decide
  have hlimit : ((c :: cs).map fun c => c.toNat - '0'.toNat).length ≤ digitLimit := by
    rw [List.length_map, ← hprinted, String.length_toList]
    exact h
  rw [leadingNumber, hprinted, List.dropWhile_cons_of_neg hblank, Reading.sign_of_isDigit hfirst,
    Reading.leadingDigits_of_isDigit hdigits, List.map_cons]
  dsimp only
  rw [← List.map_cons (f := fun c : Char => c.toNat - '0'.toNat), Reading.boundedNat_of_le hlimit, hread]

end Clean

end Concierge
