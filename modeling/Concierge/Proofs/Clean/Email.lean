import Concierge.Clean.Email
import Concierge.Proofs.Display.Tidy
import Concierge.Proofs.Text.Pieces

/-!
# What a cleaned email address looks like

A cleaned address is empty, or a local part and a domain of at least two labels. Every part holds only
characters that it may hold, and no label is empty or has a hyphen at an end, whatever was cleaned. So it
stays on one line, wherever it is put.

These texts are the language of a small grammar, which is stated apart from the cleaning: a local part, an
`@`, and two or more labels with dots between them. Cleaning goes through such an address without finding
anything to leave out: there is one `@` to cut it at, no capital to make small, and no label that would
become empty.
-/

namespace Concierge.Clean

/-- A label of a domain. -/
structure IsLabel (cs : List Char) : Prop where
  ne_nil : cs ≠ []
  chars : ∀ c ∈ cs, isLabelChar c = true
  head : cs.head? ≠ some '-'
  last : cs.getLast? ≠ some '-'

/-- A local part and the labels of a domain, as they are written in an address. -/
structure IsAddress (cs name : List Char) (domain : List (List Char)) : Prop where
  written : cs = name ++ '@' :: List.intercalate ['.'] domain
  name_ne_nil : name ≠ []
  name_chars : ∀ c ∈ name, isLocalChar c = true
  two_le_labels : 2 ≤ domain.length
  labels : ∀ l ∈ domain, IsLabel l

/-- The text is empty or an address. -/
def IsEmail (cs : List Char) : Prop := cs = [] ∨ ∃ name domain, IsAddress cs name domain

/-- A cleaned label that is not empty is a label. -/
theorem isLabel_label {cs : List Char} (h : label cs ≠ []) : IsLabel (label cs) where
  ne_nil := h
  chars c hc := (List.mem_filter.mp ((Text.trim_sublist _ _).mem hc)).2
  head hhead := by simpa using Text.head_trim '-' hhead
  last hlast := by simpa using Text.last_trim '-' hlast

/-- The labels that are kept of a domain are labels. -/
theorem isLabel_of_mem_labels {domain l : List Char} (h : l ∈ labels domain) : IsLabel l := by
  obtain ⟨hmem, hkept⟩ := List.mem_filter.mp h
  obtain ⟨cs, -, rfl⟩ := List.mem_map.mp hmem
  exact isLabel_label (by simpa using hkept)

/-- What two parts are made into is empty or an address. -/
theorem isEmail_address (localPart domain : List Char) : IsEmail (address localPart domain) := by
  unfold address
  dsimp only
  split
  · exact .inl rfl
  · rename_i hgood
    simp only [Bool.or_eq_true, List.isEmpty_iff, decide_eq_true_eq, not_or, Nat.not_lt] at hgood
    obtain ⟨hname, hlabels⟩ := hgood
    exact .inr ⟨_, _, rfl, hname, fun c hc => (List.mem_filter.mp hc).2, hlabels,
      fun l => isLabel_of_mem_labels⟩

/-- A cleaned email address is empty or an address. -/
theorem isEmail_emailChars (cs : List Char) : IsEmail (emailChars cs) := by
  unfold emailChars
  split
  · exact isEmail_address _ _
  · exact .inl rfl

/-- The email address of a text. -/
theorem email_text (s : String) : email (.text s) = .ok (String.ofList (emailChars s.toList)) := rfl

/-- A value has an email address, unless one of its integers is too long. -/
theorem email_cases (v : Value) :
    (v.isShort = false ∧ email v = .error .tooLong) ∨
      ∃ s, v.asText = .ok s ∧ email v = email (.text s) := by
  rcases v.showsIf_asText with ⟨-, s, hs⟩ | ⟨hlong, herror⟩
  · exact .inr ⟨s, hs, by rw [email, hs]; rfl⟩
  · exact .inl ⟨hlong, by rw [email, herror]; rfl⟩

/-- What a value is cleaned to as an email address is empty or an address. -/
theorem isEmail_of_email {v : Value} {s : String} (h : email v = .ok s) : IsEmail s.toList := by
  rcases email_cases v with ⟨-, herror⟩ | ⟨given, -, hgiven⟩
  · rw [herror] at h
    cases h
  · rw [hgiven, email_text, Except.ok.injEq] at h
    rw [← h, String.toList_ofList]
    exact isEmail_emailChars _

/-! ## The grammar -/

/-- A small ASCII letter or a digit. -/
def IsLabelEnd (c : Char) : Prop := c.isLower = true ∨ c.isDigit = true

/-- A label: one small letter or digit, or two of them with any such characters and hyphens between. -/
inductive LabelGrammar : List Char → Prop
  | single {c : Char} (h : IsLabelEnd c) : LabelGrammar [c]
  | long {first last : Char} {inner : List Char} (hfirst : IsLabelEnd first)
    (hinner : ∀ c ∈ inner, IsLabelEnd c ∨ c = '-') (hlast : IsLabelEnd last) :
    LabelGrammar (first :: (inner ++ [last]))

/-- A character of a local part: an ASCII letter, a digit, or one of the marks. -/
def IsLocalText (c : Char) : Prop :=
  c.isAlphanum = true ∨ c ∈ "!#$%&'*+/=?^_`\x7b|\x7d~.-".toList

/-- An address: a local part of one or more characters, an `@`, a label, and one or more labels with a dot
before each. -/
inductive AddressGrammar : List Char → Prop
  | address {name first : List Char} {others : List (List Char)} (hname : name ≠ [])
    (hlocal : ∀ c ∈ name, IsLocalText c) (hfirst : LabelGrammar first) (hne : others ≠ [])
    (hothers : ∀ l ∈ others, LabelGrammar l) :
    AddressGrammar (name ++ '@' :: (first ++ others.flatMap ('.' :: ·)))

/-! ## Characters -/

variable {c : Char}

/-- The small letters are a range. -/
theorem isLower_iff : c.isLower = true ↔ 'a' ≤ c ∧ c ≤ 'z' := by
  have hrange : c.isLower = (decide ('a' ≤ c) && decide (c ≤ 'z')) := rfl
  rw [hrange, Bool.and_eq_true, decide_eq_true_eq, decide_eq_true_eq]

/-- The capitals are a range. -/
theorem isUpper_iff : c.isUpper = true ↔ 'A' ≤ c ∧ c ≤ 'Z' := by
  have hrange : c.isUpper = decide ('A' ≤ c ∧ c ≤ 'Z') := rfl
  rw [hrange, decide_eq_true_eq]

/-- The digits are a range. -/
theorem isDigit_iff : c.isDigit = true ↔ '0' ≤ c ∧ c ≤ '9' := by
  have hrange : c.isDigit = (decide ('0' ≤ c) && decide (c ≤ '9')) := rfl
  rw [hrange, Bool.and_eq_true, decide_eq_true_eq, decide_eq_true_eq]

/-- The characters of labels are small letters, digits and hyphens. -/
theorem isLabelChar_iff : isLabelChar c = true ↔ IsLabelEnd c ∨ c = '-' := by
  simp only [isLabelChar, IsLabelEnd, isLower_iff, isDigit_iff, Bool.or_eq_true, Bool.and_eq_true,
    decide_eq_true_eq, beq_iff_eq]

/-- The characters of local parts are those of the grammar. -/
theorem isLocalChar_iff : isLocalChar c = true ↔ IsLocalText c := by
  have halnum : isAsciiAlnum c = true ↔ c.isAlphanum = true := by
    have hclasses : c.isAlphanum = ((c.isUpper || c.isLower) || c.isDigit) := rfl
    simp only [hclasses, Bool.or_comm c.isUpper, isAsciiAlnum, Bool.or_eq_true, Bool.and_eq_true,
      decide_eq_true_eq, isLower_iff, isUpper_iff, isDigit_iff]
  rw [isLocalChar, Bool.or_eq_true, halnum, List.contains_iff_mem]
  exact Iff.rfl

/-- A small letter or a digit is no hyphen. -/
theorem ne_hyphen_of_isLabelEnd (h : IsLabelEnd c) : c ≠ '-' := by
  rintro rfl
  exact absurd h (by unfold IsLabelEnd; decide)

/-- The characters of a local part are visible ASCII characters. -/
theorem visible_of_isLocalChar (h : isLocalChar c = true) : 0x21 ≤ c.toNat ∧ c.toNat ≤ 0x7e := by
  have hmarks : (localMarks.all fun c => decide (0x21 ≤ c.toNat ∧ c.toNat ≤ 0x7e)) = true := by decide
  simp only [isLocalChar, isAsciiAlnum, Bool.or_eq_true, Bool.and_eq_true, decide_eq_true_eq,
    List.contains_iff_mem] at h
  rcases h with ((h | h) | h) | hmark
  · exact ⟨Nat.le_trans (by decide) h.1, Nat.le_trans h.2 (by decide)⟩
  · exact ⟨Nat.le_trans (by decide) h.1, Nat.le_trans h.2 (by decide)⟩
  · exact ⟨Nat.le_trans (by decide) h.1, Nat.le_trans h.2 (by decide)⟩
  · exact of_decide_eq_true (List.all_eq_true.mp hmarks c hmark)

/-- The characters of a label are visible ASCII characters, and none is a capital. -/
theorem visible_of_isLabelChar (h : isLabelChar c = true) :
    0x21 ≤ c.toNat ∧ c.toNat ≤ 0x7e ∧ (c.toNat < 'A'.toNat ∨ 'Z'.toNat < c.toNat) := by
  simp only [isLabelChar, Bool.or_eq_true, Bool.and_eq_true, decide_eq_true_eq, beq_iff_eq] at h
  rcases h with (h | h) | rfl
  · exact ⟨Nat.le_trans (by decide) h.1, Nat.le_trans h.2 (by decide),
      .inr (Nat.lt_of_lt_of_le (by decide) h.1)⟩
  · exact ⟨Nat.le_trans (by decide) h.1, Nat.le_trans h.2 (by decide),
      .inl (Nat.lt_of_le_of_lt h.2 (by decide))⟩
  · decide

/-- A visible ASCII character is no blank. -/
theorem not_isBlank_of_visible (h : 0x21 ≤ c.toNat ∧ c.toNat ≤ 0x7e) : Text.isBlank c = false := by
  simp only [Text.isBlank, Text.isSpace, Bool.or_eq_false_iff, Bool.and_eq_false_iff,
    decide_eq_false_iff_not, beq_eq_false_iff_ne]
  omega

/-- A character without another small form is left as it is. -/
theorem loweredChar_of_visible (h : c.toNat ≤ 0x7e ∧ (c.toNat < 'A'.toNat ∨ 'Z'.toNat < c.toNat)) :
    Text.loweredChar c = [c] := by
  have hcapital : ¬ ('A' ≤ c ∧ c ≤ 'Z') := by
    rintro ⟨hlow, hhigh⟩
    have hlow' : 'A'.toNat ≤ c.toNat := hlow
    have hhigh' : c.toNat ≤ 'Z'.toNat := hhigh
    omega
  have hforeign {d : Char} (hd : 0x7e < d.toNat) : c ≠ d := by
    rintro rfl
    omega
  rw [Text.loweredChar, if_neg hcapital, if_neg (hforeign (by decide)), if_neg (hforeign (by decide))]

/-! ## Labels -/

/-- A label of the grammar is a label. -/
theorem LabelGrammar.isLabel {cs : List Char} (h : LabelGrammar cs) : IsLabel cs := by
  cases h with
  | @single c hc =>
    have hne : c ≠ '-' := ne_hyphen_of_isLabelEnd hc
    exact ⟨by simp, by simpa [isLabelChar_iff] using Or.inl hc, by simpa using hne, by simpa using hne⟩
  | @long first last inner hfirst hinner hlast =>
    refine ⟨by simp, ?_, ?_, ?_⟩
    · intro c hc
      rw [isLabelChar_iff]
      rw [List.mem_cons, List.mem_append, List.mem_singleton] at hc
      rcases hc with rfl | hc | rfl
      · exact .inl hfirst
      · exact hinner c hc
      · exact .inl hlast
    · simpa using ne_hyphen_of_isLabelEnd hfirst
    · rw [← List.cons_append, List.getLast?_concat]
      simpa using ne_hyphen_of_isLabelEnd hlast

/-- A label is one of the grammar: its ends are no hyphens, and a label of one character has one end. -/
theorem IsLabel.labelGrammar {cs : List Char} (h : IsLabel cs) : LabelGrammar cs := by
  have hend {c : Char} (hc : c ∈ cs) (hne : c ≠ '-') : IsLabelEnd c :=
    (isLabelChar_iff.mp (h.chars c hc)).resolve_right hne
  match cs, h with
  | [], h => exact absurd rfl h.ne_nil
  | first :: rest, h =>
    have hfirst : IsLabelEnd first := hend List.mem_cons_self (by simpa using h.head)
    rcases List.eq_nil_or_concat rest with rfl | ⟨inner, last, rfl⟩
    · exact .single hfirst
    · rw [List.concat_eq_append] at h hend ⊢
      have hlast : IsLabelEnd last := by
        refine hend (by simp) ?_
        have hne := h.last
        rw [← List.cons_append, List.getLast?_concat] at hne
        simpa using hne
      exact .long hfirst (fun c hc => isLabelChar_iff.mp (h.chars c (by simp [hc]))) hlast

/-- The labels of the grammar are what cleaning takes for labels. -/
theorem labelGrammar_iff {cs : List Char} : LabelGrammar cs ↔ IsLabel cs :=
  ⟨LabelGrammar.isLabel, IsLabel.labelGrammar⟩

/-- A label is cleaned to itself. -/
theorem IsLabel.label_eq {cs : List Char} (h : IsLabel cs) : label cs = cs := by
  rw [label, List.filter_eq_self.mpr h.chars]
  refine Text.trim_eq_self (fun c hc => ?_) (fun c hc => ?_)
  · rw [beq_eq_false_iff_ne]
    rintro rfl
    exact h.head hc
  · rw [beq_eq_false_iff_ne]
    rintro rfl
    exact h.last hc

/-- Labels with dots between them are found again. -/
theorem labels_intercalate {domain : List (List Char)} (hne : domain ≠ [])
    (h : ∀ l ∈ domain, IsLabel l) : labels (['.'].intercalate domain) = domain := by
  have hsmall : Text.lowered (['.'].intercalate domain) = ['.'].intercalate domain := by
    have hchar : ∀ c ∈ ['.'].intercalate domain, Text.loweredChar c = [c] := by
      intro c hc
      rcases Text.mem_intercalate hc with rfl | ⟨l, hl, hc⟩
      · decide
      · exact loweredChar_of_visible (visible_of_isLabelChar ((h l hl).chars c hc)).2
    rw [Text.lowered, List.flatMap_congr hchar]
    exact List.flatMap_singleton' _
  have hdot : ∀ l ∈ domain, '.' ∉ l := by
    intro l hl hmem
    exact absurd ((h l hl).chars _ hmem) (by decide)
  have hsame : domain.map label = domain :=
    (List.map_congr_left fun l hl => (h l hl).label_eq).trans (List.map_id _)
  rw [labels, hsmall, Text.split_intercalate hne hdot, hsame, List.filter_eq_self]
  intro l hl
  simpa using (h l hl).ne_nil

/-! ## Addresses -/

variable {cs name : List Char} {domain : List (List Char)}

/-- The addresses of the grammar are what cleaning takes for addresses. -/
theorem addressGrammar_iff : AddressGrammar cs ↔ ∃ name domain, IsAddress cs name domain := by
  constructor
  · rintro ⟨hname, hlocal, hfirst, hne, hothers⟩
    rename_i name first others
    refine ⟨name, first :: others, ?_, hname, fun c hc => isLocalChar_iff.mpr (hlocal c hc), ?_, ?_⟩
    · rw [Text.intercalate_cons]
    · have hpos := List.length_pos_iff.mpr hne
      rw [List.length_cons]
      omega
    · rw [List.forall_mem_cons]
      exact ⟨labelGrammar_iff.mp hfirst, fun l hl => labelGrammar_iff.mp (hothers l hl)⟩
  · rintro ⟨name, domain, h⟩
    match domain, h.two_le_labels with
    | first :: second :: others, _ =>
      obtain ⟨hfirst, hothers⟩ := List.forall_mem_cons.mp h.labels
      rw [h.written, Text.intercalate_cons]
      exact .address h.name_ne_nil (fun c hc => isLocalChar_iff.mp (h.name_chars c hc))
        (labelGrammar_iff.mpr hfirst) (List.cons_ne_nil _ _)
        fun l hl => labelGrammar_iff.mpr (hothers l hl)

/-- No character of an address is blank. -/
theorem IsAddress.not_isBlank (h : IsAddress cs name domain) : ∀ c ∈ cs, Text.isBlank c = false := by
  intro c hc
  rw [h.written, List.mem_append, List.mem_cons] at hc
  rcases hc with hname | rfl | hdomain
  · exact not_isBlank_of_visible (visible_of_isLocalChar (h.name_chars c hname))
  · decide
  · rcases Text.mem_intercalate hdomain with rfl | ⟨l, hl, hc⟩
    · decide
    · have hvisible := visible_of_isLabelChar ((h.labels l hl).chars c hc)
      exact not_isBlank_of_visible ⟨hvisible.1, hvisible.2.1⟩

/-- A cleaned email address stays on one line. -/
theorem isUnbroken_of_isEmail {s : String} (h : IsEmail s.toList) : Text.IsUnbroken s := by
  refine Text.isUnbroken_of_forall fun c hc => ?_
  rcases h with hnil | ⟨name, domain, haddress⟩
  · rw [hnil] at hc
    cases hc
  · exact haddress.not_isBlank c hc

/-- An address is cut at its `@` into the local part and the domain. -/
theorem IsAddress.split_eq (h : IsAddress cs name domain) :
    Text.split (· == '@') cs = [name, ['.'].intercalate domain] := by
  have hname : ∀ c ∈ name, (c == '@') = false := by
    intro c hc
    rw [beq_eq_false_iff_ne]
    rintro rfl
    exact absurd (h.name_chars _ hc) (by decide)
  have hdomain : ∀ c ∈ ['.'].intercalate domain, (c == '@') = false := by
    intro c hc
    rw [beq_eq_false_iff_ne]
    rintro rfl
    rcases Text.mem_intercalate hc with heq | ⟨l, hl, hc⟩
    · exact absurd heq (by decide)
    · exact absurd ((h.labels l hl).chars _ hc) (by decide)
  rw [h.written, Text.split_append_cons _ _ (p := (· == '@')) rfl, Text.split_of_forall hname,
    Text.split_of_forall hdomain]
  rfl

/-- An address is cleaned to itself. -/
theorem IsAddress.emailChars_eq (h : IsAddress cs name domain) : emailChars cs = cs := by
  have hstrip : Text.strip cs = cs := (Text.isTrimmed_of_forall h.not_isBlank).strip_eq
  have hne : domain ≠ [] := by
    rintro rfl
    exact absurd h.two_le_labels (by decide)
  have hkept : name.filter isLocalChar = name := List.filter_eq_self.mpr h.name_chars
  have hgood : ¬ (name.isEmpty || decide (domain.length < 2)) = true := by
    rw [Bool.or_eq_true, List.isEmpty_iff, decide_eq_true_eq, not_or, Nat.not_lt]
    exact ⟨h.name_ne_nil, h.two_le_labels⟩
  unfold emailChars
  rw [hstrip, h.split_eq]
  simp only [address, hkept, labels_intercalate hne h.labels, if_neg hgood]
  exact h.written.symm

/-- Cleaning leaves just the addresses and the empty text as they are. -/
theorem emailChars_eq_self_iff : emailChars cs = cs ↔ IsEmail cs := by
  constructor
  · intro h
    exact h ▸ isEmail_emailChars cs
  · rintro (rfl | ⟨name, domain, haddress⟩)
    · rfl
    · exact haddress.emailChars_eq

/-- A text is empty or an address if it is one of the grammar. -/
theorem isEmail_iff {s : String} : IsEmail s.toList ↔ s = "" ∨ AddressGrammar s.toList := by
  rw [IsEmail, addressGrammar_iff, String.toList_eq_nil_iff]

/-- A text is left as it is when it is cleaned as an email address, if it is one or empty. -/
theorem email_text_eq_self_iff {s : String} : email (.text s) = .ok s ↔ IsEmail s.toList := by
  rw [email_text, Except.ok.injEq, ← String.toList_inj, String.toList_ofList]
  exact emailChars_eq_self_iff

/-- Cleaning a text gives an address of the grammar or the empty text, which cleaning once more leaves as it
is; so does cleaning any other value, unless an integer in it has too many digits. The texts that it leaves
as they are are just these, and they are just what it can give. -/
theorem email_gives_addresses :
    (∀ given : String, ∃ s, email (.text given) = .ok s ∧ (s = "" ∨ AddressGrammar s.toList) ∧
      email (.text s) = .ok s) ∧
      (∀ v : Value, (v.isShort = false ∧ email v = .error .tooLong) ∨
        ∃ s, email v = .ok s ∧ (s = "" ∨ AddressGrammar s.toList) ∧ email (.text s) = .ok s) ∧
      (∀ s : String, email (.text s) = .ok s ↔ s = "" ∨ AddressGrammar s.toList) ∧
      ∀ s : String, (∃ given : String, email (.text given) = .ok s) ↔
        s = "" ∨ AddressGrammar s.toList := by
  have htext (given : String) : ∃ s, email (.text given) = .ok s ∧
      (s = "" ∨ AddressGrammar s.toList) ∧ email (.text s) = .ok s := by
    have hemail := isEmail_of_email (email_text given)
    exact ⟨_, email_text given, isEmail_iff.mp hemail, email_text_eq_self_iff.mpr hemail⟩
  refine ⟨htext, fun v => ?_, fun s => ?_, fun s => ⟨?_, ?_⟩⟩
  · rcases email_cases v with hlong | ⟨given, -, hgiven⟩
    · exact .inl hlong
    · exact .inr (hgiven ▸ htext given)
  · rw [email_text_eq_self_iff, isEmail_iff]
  · rintro ⟨given, hgiven⟩
    exact isEmail_iff.mp (isEmail_of_email hgiven)
  · intro h
    exact ⟨s, email_text_eq_self_iff.mpr (isEmail_iff.mpr h)⟩

end Concierge.Clean
