import Concierge.Text.Case

/-!
# Spellings of a capital

Without regard to case, an ASCII capital is also spelled by its small letter, and three of the capitals
by letters of other scripts. Every other character of ASCII is spelled by itself only. The tables of
letter case have no further character with such a key.
-/

namespace Concierge.Text

/-- The letters outside ASCII that stand for an ASCII capital when case does not count: the dotted
and the dotless i, the Kelvin sign and the long s. -/
def foreignSpellings : Char → List Char
  | 'I' => ['\u0130', '\u0131']
  | 'K' => ['\u212a']
  | 'S' => ['\u017f']
  | _ => []

/-- The characters that stand for a character when case does not count. -/
def spellings (x : Char) : List Char :=
  if 'A' ≤ x ∧ x ≤ 'Z' then x :: Char.ofNat (x.toNat + 32) :: foreignSpellings x else [x]

/-- An ASCII character that is no small letter. -/
def IsTagChar (x : Char) : Prop := x.toNat < 0x80 ∧ ¬('a' ≤ x ∧ x ≤ 'z')

instance (x : Char) : Decidable (IsTagChar x) := inferInstanceAs (Decidable (_ ∧ _))

/-- The code point of the character with a code point. -/
theorem toNat_ofNat {n : Nat} (h : n.isValidChar) : (Char.ofNat n).toNat = n := by
  unfold Char.ofNat
  rw [dif_pos h]
  rfl

/-- The keys of ASCII characters: small letters for capitals, and otherwise the characters. -/
theorem toNat_caseKey_ascii {c : Char} (h : c.toNat < 0x80) :
    (caseKey c).toNat = if 65 ≤ c.toNat ∧ c.toNat ≤ 90 then c.toNat + 32 else c.toNat := by
  have htable : ∀ n < 0x80, (caseKey (Char.ofNat n)).toNat =
      if 65 ≤ n ∧ n ≤ 90 then n + 32 else n := by
    decide +kernel
  have hc := htable c.toNat h
  rwa [Char.ofNat_toNat] at hc

/-- Outside ASCII all small letters lie outside ASCII, but those of the dotted i and of the Kelvin sign.
The dotless i and the long s are small letters of themselves only. -/
theorem smallLetter_far {c : Char} (h : 0x80 ≤ c.toNat) :
    c = '\u0130' ∨ c = '\u212a' ∨
      (0x80 ≤ (smallLetter c).toNat ∧ ((smallLetter c).toNat = 0x131 → c.toNat = 0x131) ∧
        ((smallLetter c).toNat = 0x17f → c.toNat = 0x17f)) := by
  have htable : ∀ run ∈ smallRuns.toList, run.2.1 < 0x80 ∨
      (run.1 = 0x130 ∧ run.2.1 = 0x130) ∨ (run.1 = 0x212a ∧ run.2.1 = 0x212a) ∨
      (0x80 ≤ run.1 + run.2.2.2 ∧
        (run.2.1 + run.2.2.2 < 0x131 ∨ 0x17f < run.1 + run.2.2.2 ∨
          (0x131 < run.1 + run.2.2.2 ∧ run.2.1 + run.2.2.2 < 0x17f)) ∧
        (run.2.1 + run.2.2.2 < 0xd800 ∨
          (0xdfff < run.1 + run.2.2.2 ∧ run.2.1 + run.2.2.2 < 0x110000))) := by
    decide +kernel
  unfold smallLetter
  rw [if_neg (by omega)]
  split
  · rename_i first last step distance hrun
    have hmem := Array.mem_def.mp (Array.mem_of_find?_eq_some hrun)
    have hin := Array.find?_some hrun
    simp only [Bool.and_eq_true, decide_eq_true_eq] at hin
    obtain ⟨⟨hfirst, hlast⟩, _⟩ := hin
    rcases htable _ hmem with hascii | ⟨h₁, h₂⟩ | ⟨h₁, h₂⟩ | ⟨hfar, hapart, hvalid⟩
    · simp only at hascii
      omega
    · exact .inl (Char.toNat_inj.mp (by simp only at h₁ h₂; show c.toNat = 0x130; omega))
    · exact .inr (.inl (Char.toNat_inj.mp (by simp only at h₁ h₂; show c.toNat = 0x212a; omega)))
    · simp only at hfar hapart hvalid
      rw [toNat_ofNat (by unfold Nat.isValidChar; omega)]
      exact .inr (.inr (by omega))
  · exact .inr (.inr ⟨h, fun h => h, fun h => h⟩)

/-- The keys of the foreign spellings. -/
theorem caseKey_foreign : caseKey '\u0130' = 'i' ∧ caseKey '\u0131' = 'i' ∧
    caseKey '\u212a' = 'k' ∧ caseKey '\u017f' = 's' := by
  decide +kernel

/-- Of the characters outside ASCII only the foreign spellings have a key in ASCII. -/
theorem caseKey_far {c : Char} (h : 0x80 ≤ c.toNat) :
    ((c = '\u0130' ∨ c = '\u0131') ∧ caseKey c = 'i') ∨ (c = '\u212a' ∧ caseKey c = 'k') ∨
      (c = '\u017f' ∧ caseKey c = 's') ∨ 0x80 ≤ (caseKey c).toNat := by
  have htable : ∀ family ∈ letterFamilies.toList, family = [0x69, 0x131] ∨
      family = [0x73, 0x17f] ∨ ∀ first ∈ family.head?, 0x80 ≤ first ∧ first.isValidChar := by
    decide +kernel
  rcases smallLetter_far h with rfl | rfl | ⟨hfar, hi, hs⟩
  · exact .inl ⟨.inl rfl, caseKey_foreign.1⟩
  · exact .inr (.inl ⟨rfl, caseKey_foreign.2.2.1⟩)
  · cases hfamily : letterFamilies.find? fun family => family.contains (smallLetter c).toNat with
    | none =>
      have hkey : caseKey c = smallLetter c := by simp only [caseKey, hfamily]
      exact .inr (.inr (.inr (hkey ▸ hfar)))
    | some family =>
      have hmem := Array.mem_def.mp (Array.mem_of_find?_eq_some hfamily)
      have hin := Array.find?_some hfamily
      simp only [List.contains_eq_mem, decide_eq_true_eq] at hin
      rcases htable _ hmem with rfl | rfl | hhead
      · have hkey : caseKey c = 'i' := by simp only [caseKey, hfamily]
        have hsmall : (smallLetter c).toNat = 0x131 := by
          simp only [List.mem_cons, List.not_mem_nil, or_false] at hin
          omega
        exact .inl ⟨.inr (Char.toNat_inj.mp (hi hsmall)), hkey⟩
      · have hkey : caseKey c = 's' := by simp only [caseKey, hfamily]
        have hsmall : (smallLetter c).toNat = 0x17f := by
          simp only [List.mem_cons, List.not_mem_nil, or_false] at hin
          omega
        exact .inr (.inr (.inl ⟨Char.toNat_inj.mp (hs hsmall), hkey⟩))
      · cases family with
        | nil => cases hin
        | cons first rest =>
          obtain ⟨hlow, hvalid⟩ := hhead first rfl
          have hkey : caseKey c = Char.ofNat first := by simp only [caseKey, hfamily]
          rw [hkey, toNat_ofNat hvalid]
          exact .inr (.inr (.inr hlow))

/-- The foreign spellings of each capital. -/
theorem mem_foreignSpellings_iff {x c : Char} : c ∈ foreignSpellings x ↔
    (x = 'I' ∧ (c = '\u0130' ∨ c = '\u0131')) ∨ (x = 'K' ∧ c = '\u212a') ∨
      (x = 'S' ∧ c = '\u017f') := by
  unfold foreignSpellings
  split
  · simp
  · simp
  · simp
  · rename_i hI hK hS
    simp [show x ≠ 'I' from hI, show x ≠ 'K' from hK, show x ≠ 'S' from hS]

/-- The spellings of a character: itself, and for a capital its small letter and the foreign ones. -/
theorem mem_spellings_iff {x c : Char} : c ∈ spellings x ↔
    c.toNat = x.toNat ∨ ((65 ≤ x.toNat ∧ x.toNat ≤ 90) ∧
      (c.toNat = x.toNat + 32 ∨ c ∈ foreignSpellings x)) := by
  unfold spellings
  by_cases hx : 65 ≤ x.toNat ∧ x.toNat ≤ 90
  · have hsmall : (Char.ofNat (x.toNat + 32)).toNat = x.toNat + 32 :=
      toNat_ofNat (by unfold Nat.isValidChar; omega)
    rw [if_pos (show 'A' ≤ x ∧ x ≤ 'Z' from hx), List.mem_cons, List.mem_cons, ← Char.toNat_inj,
      ← Char.toNat_inj, hsmall]
    simp only [hx, true_and, and_self]
  · rw [if_neg (show ¬('A' ≤ x ∧ x ≤ 'Z') from hx), List.mem_singleton, ← Char.toNat_inj]
    simp only [hx, false_and, or_false]

/-- Among the characters of ASCII a character of a tag is spelled by itself and its small letter. -/
theorem sameLetter_ascii_iff {x c : Char} (hx : IsTagChar x) (hc : c.toNat < 0x80) :
    sameLetter x c = true ↔ c ∈ spellings x := by
  have hsmall : ¬(97 ≤ x.toNat ∧ x.toNat ≤ 122) := hx.2
  have hforeign : c ∉ foreignSpellings x := by
    intro h
    rcases mem_foreignSpellings_iff.mp h with ⟨_, rfl | rfl⟩ | ⟨_, rfl⟩ | ⟨_, rfl⟩ <;>
      exact absurd hc (by decide)
  rw [sameLetter, beq_iff_eq, ← Char.toNat_inj, toNat_caseKey_ascii hx.1, toNat_caseKey_ascii hc,
    mem_spellings_iff]
  simp only [hforeign, or_false]
  split <;> split <;> omega

/-- Outside ASCII a character of a tag is spelled by its foreign spellings. -/
theorem sameLetter_far_iff {x c : Char} (hx : IsTagChar x) (hc : 0x80 ≤ c.toNat) :
    sameLetter x c = true ↔ c ∈ spellings x := by
  obtain ⟨hascii, hsmall⟩ := hx
  have hnotSmall : ¬(97 ≤ x.toNat ∧ x.toNat ≤ 122) := hsmall
  have hI : x = 'I' ↔ x.toNat = 73 := Char.toNat_inj.symm
  have hK : x = 'K' ↔ x.toNat = 75 := Char.toNat_inj.symm
  have hS : x = 'S' ↔ x.toNat = 83 := Char.toNat_inj.symm
  rw [sameLetter, beq_iff_eq, ← Char.toNat_inj, toNat_caseKey_ascii hascii, mem_spellings_iff,
    mem_foreignSpellings_iff, hI, hK, hS]
  rcases caseKey_far hc with ⟨rfl | rfl, h⟩ | ⟨rfl, h⟩ | ⟨rfl, h⟩ | hfar
  iterate 4
    · rw [h]
      simp only [Char.reduceToNat, Nat.reduceEqDiff, Char.reduceEq, or_false, false_or, or_true,
        or_self, and_true, and_false]
      split <;> omega
  · have hne : ∀ d e : Char, caseKey d = e → e.toNat < 0x80 → c ≠ d := by
      rintro d e rfl hd rfl
      exact absurd hd (Nat.not_lt.mpr hfar)
    obtain ⟨hdotted, hdotless, hkelvin, hlong⟩ := caseKey_foreign
    simp only [hne _ _ hdotted (by decide), hne _ _ hdotless (by decide),
      hne _ _ hkelvin (by decide), hne _ _ hlong (by decide), or_self, and_false, or_false]
    split <;> omega

/-- Without regard to case a character of a tag is spelled just by its spellings. -/
theorem sameLetter_iff {x c : Char} (hx : IsTagChar x) :
    sameLetter x c = true ↔ c ∈ spellings x := by
  by_cases hc : c.toNat < 0x80
  · exact sameLetter_ascii_iff hx hc
  · exact sameLetter_far_iff hx (Nat.not_lt.mp hc)

end Concierge.Text
