import Concierge.Directive
import Mathlib.Data.List.Chain

/-!
# Tidy texts

A tidy text has single spaces between its words and no other blanks. Squeezing and stripping make a
text tidy and keep everything else of it, and they leave a tidy text as it is. A tidy text stays on one
line.

Both show the words of a text only: which blanks stood between the words, how many there were, and what
stood at the ends does not matter. So texts with the same words are tidied to the same text. The words are
collected with a space behind each of them, since such lists are joined without regard to what comes first
or last.
-/

namespace Concierge

namespace Text

/-- The characters of a text that are no blanks, which squeezing and stripping never touch. -/
def ink (cs : List Char) : List Char := cs.filter fun c => !isBlank c

/-- A text without blanks at its ends and with single spaces as its only blanks. -/
structure IsTidy (cs : List Char) : Prop where
  /-- The only blanks are spaces. -/
  eq_space : ∀ c ∈ cs, isBlank c = true → c = ' '
  /-- No two neighbours are blanks. -/
  apart : cs.IsChain fun a b => isBlank a = false ∨ isBlank b = false
  /-- The text does not begin with a blank. -/
  head : ∀ c ∈ cs.head?, isBlank c = false
  /-- The text does not end with a blank. -/
  last : ∀ c ∈ cs.getLast?, isBlank c = false

/-- Squeezing inside a run does not begin with the class. -/
theorem head_squeezeFrom_true {p : Char → Bool} {cs : List Char} :
    ∀ c ∈ (squeezeFrom p true cs).head?, p c = false := by
  induction cs with
  | nil => simp [squeezeFrom]
  | cons c cs ih =>
    cases hc : p c
    · simp [squeezeFrom, hc]
    · simpa [squeezeFrom, hc] using ih

/-- Squeezing leaves no two neighbours of the class. -/
theorem isChain_squeezeFrom (p : Char → Bool) (inRun : Bool) (cs : List Char) :
    (squeezeFrom p inRun cs).IsChain fun a b => p a = false ∨ p b = false := by
  induction cs generalizing inRun with
  | nil => exact .nil
  | cons c cs ih =>
    cases hc : p c
    · simp only [squeezeFrom, hc, Bool.false_eq_true, if_false]
      exact (ih false).cons fun _ _ => .inl hc
    · cases inRun
      · simp only [squeezeFrom, hc, Bool.false_eq_true, if_true, if_false]
        exact (ih true).cons fun d hd => .inr (head_squeezeFrom_true d hd)
      · simpa only [squeezeFrom, hc, if_true] using ih true

/-- Squeezing touches blanks only. -/
theorem ink_squeezeFrom (inRun : Bool) (cs : List Char) :
    ink (squeezeFrom isBlank inRun cs) = ink cs := by
  have hspace : isBlank ' ' = true := by decide
  induction cs generalizing inRun with
  | nil => rfl
  | cons c cs ih =>
    unfold ink at ih
    cases hc : isBlank c <;> cases inRun <;> simp [squeezeFrom, ink, hc, hspace, ih]

/-- What is left after dropping a class from the front does not begin with it. -/
theorem head_dropWhile {p : Char → Bool} {cs : List Char} :
    ∀ c ∈ (cs.dropWhile p).head?, p c = false := by
  intro c hc
  have h := List.head?_dropWhile_not p cs
  rw [Option.mem_def.mp hc] at h
  simpa using h

/-- Dropping a class from the end leaves a prefix. -/
theorem trimEnd_isPrefix (p : Char → Bool) (cs : List Char) : trimEnd p cs <+: cs := by
  have h := List.dropWhile_suffix (l := cs.reverse) p
  simpa only [trimEnd, List.reverse_reverse] using List.reverse_prefix.mpr h

/-- Stripping leaves a stretch of the text. -/
theorem strip_isInfix (cs : List Char) : strip cs <:+: cs :=
  (trimEnd_isPrefix isBlank _).isInfix.trans (List.dropWhile_suffix isBlank).isInfix

/-- A text that is trimmed of a class does not begin with it. -/
theorem head_trim {p : Char → Bool} {cs : List Char} : ∀ c ∈ (trim p cs).head?, p c = false := by
  intro c hc
  apply @head_dropWhile p cs c
  obtain ⟨rest, hrest⟩ := trimEnd_isPrefix p (cs.dropWhile p)
  cases hs : trimEnd p (cs.dropWhile p) with
  | nil => simp [trim, hs] at hc
  | cons d ds =>
    rw [trim, hs] at hc
    rwa [← hrest, hs]

/-- A text that is trimmed of a class does not end with it. -/
theorem last_trim {p : Char → Bool} {cs : List Char} : ∀ c ∈ (trim p cs).getLast?, p c = false := by
  intro c hc
  rw [trim, trimEnd, List.getLast?_reverse] at hc
  exact head_dropWhile c hc

/-- Squeezing and stripping make a text tidy. -/
theorem isTidy_strip_squeeze (cs : List Char) : IsTidy (strip (squeeze isBlank cs)) where
  eq_space _ hc hblank := eq_space_of_mem_squeezeFrom ((strip_isInfix _).sublist.mem hc) hblank
  apart := List.IsChain.infix (isChain_squeezeFrom isBlank false cs) (strip_isInfix _)
  head := head_trim
  last := last_trim

/-- Squeezing and stripping leave out nothing but blanks. -/
theorem ink_strip_squeeze_sublist (cs : List Char) :
    (ink (strip (squeeze isBlank cs))).Sublist (ink cs) := by
  have h := ((strip_isInfix (squeeze isBlank cs)).sublist.filter fun c => !isBlank c)
  rwa [show (squeeze isBlank cs).filter (fun c => !isBlank c) = ink cs from
    ink_squeezeFrom false cs] at h

/-- Where all characters of the class are single spaces, squeezing changes nothing. -/
theorem squeezeFrom_eq_self {p : Char → Bool} {inRun : Bool} {cs : List Char}
    (hspace : ∀ c ∈ cs, p c = true → c = ' ')
    (hapart : cs.IsChain fun a b => p a = false ∨ p b = false)
    (hrun : inRun = true → ∀ c ∈ cs.head?, p c = false) :
    squeezeFrom p inRun cs = cs := by
  induction cs generalizing inRun with
  | nil => rfl
  | cons c cs ih =>
    obtain ⟨hnext, hchain⟩ := List.isChain_cons.mp hapart
    have hrest : ∀ d ∈ cs, p d = true → d = ' ' :=
      fun d hd => hspace d (List.mem_cons_of_mem c hd)
    cases hc : p c
    · simp only [squeezeFrom, hc, Bool.false_eq_true, if_false]
      rw [ih hrest hchain fun h => by cases h]
    · have hfresh : inRun = false := by
        cases inRun
        · rfl
        · have := hrun rfl c rfl
          simp [hc] at this
      have hhead : ∀ d ∈ cs.head?, p d = false := by
        intro d hd
        simpa [hc] using hnext d hd
      simp only [squeezeFrom, hc, hfresh, Bool.false_eq_true, if_true, if_false]
      rw [ih hrest hchain fun _ => hhead, hspace c List.mem_cons_self hc]

/-- Dropping a class from the front of a text that does not begin with it changes nothing. -/
theorem dropWhile_eq_self {p : Char → Bool} {cs : List Char} (h : ∀ c ∈ cs.head?, p c = false) :
    cs.dropWhile p = cs := by
  cases cs with
  | nil => rfl
  | cons c cs => rw [List.dropWhile_cons_of_neg (by simp [h c rfl])]

/-- Trimming a text of a class that it neither begins nor ends with changes nothing. -/
theorem trim_eq_self {p : Char → Bool} {cs : List Char} (hhead : ∀ c ∈ cs.head?, p c = false)
    (hlast : ∀ c ∈ cs.getLast?, p c = false) : trim p cs = cs := by
  rw [← List.head?_reverse] at hlast
  rw [trim, dropWhile_eq_self hhead, trimEnd, dropWhile_eq_self hlast, List.reverse_reverse]

/-- A text without blanks at its ends. -/
structure IsTrimmed (cs : List Char) : Prop where
  head : ∀ c ∈ cs.head?, isBlank c = false
  last : ∀ c ∈ cs.getLast?, isBlank c = false

/-- What is stripped is trimmed. -/
theorem isTrimmed_strip (cs : List Char) : IsTrimmed (strip cs) := ⟨head_trim, last_trim⟩

/-- A text without blanks is trimmed. -/
theorem isTrimmed_of_forall {cs : List Char} (h : ∀ c ∈ cs, isBlank c = false) : IsTrimmed cs where
  head c hc := h c (List.mem_of_mem_head? hc)
  last c hc := h c (List.mem_of_mem_getLast? hc)

/-- A tidy text is trimmed. -/
theorem IsTidy.isTrimmed {cs : List Char} (h : IsTidy cs) : IsTrimmed cs := ⟨h.head, h.last⟩

/-- A trimmed text is left as it is by stripping. -/
theorem IsTrimmed.strip_eq {cs : List Char} (h : IsTrimmed cs) : strip cs = cs :=
  trim_eq_self h.head h.last

/-- A tidy text is left as it is. -/
theorem IsTidy.strip_squeeze {cs : List Char} (h : IsTidy cs) : strip (squeeze isBlank cs) = cs := by
  have hsqueeze : squeeze isBlank cs = cs :=
    squeezeFrom_eq_self h.eq_space h.apart fun hrun => by cases hrun
  rw [hsqueeze, h.isTrimmed.strip_eq]

/-! ## Line breaks -/

/-- The characters at which a line breaks. -/
def lineBreaks : List Char :=
  ['\n', '\r', '\x0b', '\x0c', '\x1c', '\x1d', '\x1e', '\u0085', '\u2028', '\u2029']

/-- A text that stays on one line. -/
def IsUnbroken (s : String) : Prop := ∀ c ∈ lineBreaks, c ∉ s.toList

-- Only the breaks are looked at. Deciding over all characters would be out of reach.
instance (s : String) : Decidable (IsUnbroken s) :=
  List.decidableBAll (fun c => c ∉ s.toList) lineBreaks

/-- Texts that stay on one line stay on it together. -/
theorem IsUnbroken.append {s t : String} (hs : IsUnbroken s) (ht : IsUnbroken t) : IsUnbroken (s ++ t) := by
  intro c hc hmem
  rw [String.toList_append] at hmem
  rcases List.mem_append.mp hmem with hleft | hright
  · exact hs c hc hleft
  · exact ht c hc hright

/-- A line breaks at blanks, and never at a space. -/
theorem isBlank_of_mem_lineBreaks {c : Char} (h : c ∈ lineBreaks) : isBlank c = true ∧ c ≠ ' ' := by
  have hbreaks : (lineBreaks.all fun c => isBlank c && c != ' ') = true := by decide
  obtain ⟨hblank, hspace⟩ := Bool.and_eq_true_iff.mp (List.all_eq_true.mp hbreaks c h)
  exact ⟨hblank, bne_iff_ne.mp hspace⟩

/-- A text without blanks stays on one line. -/
theorem isUnbroken_of_forall {s : String} (h : ∀ c ∈ s.toList, isBlank c = false) : IsUnbroken s := by
  intro c hc hmem
  exact Bool.false_ne_true ((h c hmem).symm.trans (isBlank_of_mem_lineBreaks hc).1)

/-- A tidy text stays on one line, since its only blanks are spaces. -/
theorem IsTidy.isUnbroken {s : String} (h : IsTidy s.toList) : IsUnbroken s := by
  intro c hc hmem
  obtain ⟨hblank, hspace⟩ := isBlank_of_mem_lineBreaks hc
  exact hspace (h.eq_space c hmem hblank)

/-! ## The words of a text -/

variable {cs : List Char}

/-- A space is a blank. -/
theorem isBlank_space : isBlank ' ' = true := by decide

/-- The words of a text, a space behind each. -/
def spacedWords (cs : List Char) : List Char := squeezeFrom isBlank true (cs ++ [' '])

/-! ## Squeezing what is put together -/

/-- A blank ends what is squeezed before it, and leaves a run to what is squeezed behind it. -/
theorem squeezeFrom_append_cons {c : Char} (hc : isBlank c = true) (inRun : Bool)
    (before after : List Char) :
    squeezeFrom isBlank inRun (before ++ c :: after) =
      squeezeFrom isBlank inRun (before ++ [' ']) ++ squeezeFrom isBlank true after := by
  induction before generalizing inRun with
  | nil => cases inRun <;> simp [squeezeFrom, hc, isBlank_space]
  | cons d before ih =>
    cases hd : isBlank d <;> cases inRun <;> simp [squeezeFrom, hd, ih]

/-- Squeezing a smaller class first makes no difference. A run that the first pass has left its space for is
one for the second pass too. -/
theorem squeezeFrom_squeezeFrom {p : Char → Bool} (hp : ∀ c, p c = true → isBlank c = true)
    {first second : Bool} (hruns : first = true → second = true) (cs rest : List Char) :
    squeezeFrom isBlank second (squeezeFrom p first cs ++ rest) =
      squeezeFrom isBlank second (cs ++ rest) := by
  induction cs generalizing first second with
  | nil => rfl
  | cons c cs ih =>
    cases hc : p c with
    | true =>
      have hblank := hp c hc
      cases first with
      | true =>
        obtain rfl := hruns rfl
        simp only [squeezeFrom, hc, if_true, List.cons_append, hblank]
        exact ih fun _ => rfl
      | false =>
        have hrest := @ih true true fun _ => rfl
        cases second <;> simp [squeezeFrom, hc, hblank, isBlank_space, hrest]
    | false =>
      cases hblank : isBlank c with
      | true =>
        have hrest := @ih false true fun _ => rfl
        cases second <;> simp [squeezeFrom, hc, hblank, hrest]
      | false =>
        have hrest := @ih false false id
        simp [squeezeFrom, hc, hblank, hrest]

/-- A space at the end is kept unless a run ends there. -/
theorem squeezeFrom_concat_space (inRun : Bool) (cs : List Char) :
    squeezeFrom isBlank inRun (cs ++ [' ']) = squeezeFrom isBlank inRun cs ∨
      squeezeFrom isBlank inRun (cs ++ [' ']) = squeezeFrom isBlank inRun cs ++ [' '] := by
  induction cs generalizing inRun with
  | nil => cases inRun <;> simp [squeezeFrom, isBlank_space]
  | cons c cs ih =>
    cases hc : isBlank c
    · simpa [squeezeFrom, hc] using ih false
    · cases inRun <;> simpa [squeezeFrom, hc] using ih true

/-! ## The words of parts -/

/-- Blanks separate words, so the words are those before and those behind a blank. -/
theorem spacedWords_append_cons {c : Char} (hc : isBlank c = true) (before after : List Char) :
    spacedWords (before ++ c :: after) = spacedWords before ++ spacedWords after := by
  unfold spacedWords
  rw [List.append_assoc, List.cons_append, squeezeFrom_append_cons hc]

/-- A text without characters has no words. -/
theorem spacedWords_nil : spacedWords [] = [] := rfl

/-- A blank at the front adds no word. -/
theorem spacedWords_cons {c : Char} (hc : isBlank c = true) (cs : List Char) :
    spacedWords (c :: cs) = spacedWords cs := spacedWords_append_cons hc [] cs

/-- A blank at the end adds no word. -/
theorem spacedWords_concat {c : Char} (hc : isBlank c = true) (cs : List Char) :
    spacedWords (cs ++ [c]) = spacedWords cs := by
  rw [spacedWords_append_cons hc, spacedWords_nil, List.append_nil]

/-- Blanks that are dropped from the front are no words. -/
theorem spacedWords_dropWhile (cs : List Char) : spacedWords (cs.dropWhile isBlank) = spacedWords cs := by
  induction cs with
  | nil => rfl
  | cons c cs ih =>
    cases hc : isBlank c with
    | true => rw [List.dropWhile_cons_of_pos hc, ih, spacedWords_cons hc]
    | false => rw [List.dropWhile_cons_of_neg (by simp [hc])]

/-- Dropping a class from the end drops the last character if it is of the class. -/
theorem trimEnd_concat (p : Char → Bool) (cs : List Char) (c : Char) :
    trimEnd p (cs ++ [c]) = if p c then trimEnd p cs else cs ++ [c] := by
  rw [trimEnd, List.reverse_append, List.reverse_singleton, List.singleton_append, List.dropWhile_cons]
  split
  · rfl
  · simp

/-- Blanks that are dropped from the end are no words. -/
theorem spacedWords_trimEnd (cs : List Char) : spacedWords (trimEnd isBlank cs) = spacedWords cs := by
  induction cs using List.reverseRecOn with
  | nil => rfl
  | append_singleton cs c ih =>
    rw [trimEnd_concat]
    split
    · rename_i hc
      rw [ih, spacedWords_concat hc]
    · rfl

/-- Stripping leaves the words. -/
theorem spacedWords_strip (cs : List Char) : spacedWords (strip cs) = spacedWords cs := by
  rw [strip, trim, spacedWords_trimEnd, spacedWords_dropWhile]

/-- Squeezing blanks leaves the words. -/
theorem spacedWords_squeeze {p : Char → Bool} (hp : ∀ c, p c = true → isBlank c = true) (cs : List Char) :
    spacedWords (squeeze p cs) = spacedWords cs := squeezeFrom_squeezeFrom hp (fun _ => rfl) cs [' ']

/-- The words of pieces between blanks are the words of each piece in turn. -/
theorem spacedWords_intercalate {mark : Char} (hmark : isBlank mark = true) (pieces : List (List Char)) :
    spacedWords ([mark].intercalate pieces) = pieces.flatMap spacedWords := by
  induction pieces with
  | nil => rfl
  | cons piece pieces ih =>
    cases pieces with
    | nil => simp
    | cons next pieces =>
      rw [List.intercalate_cons_cons, List.append_assoc, List.singleton_append,
        spacedWords_append_cons hmark, ih]
      rfl

/-! ## What words tell -/

/-- The words have all the ink of a text. -/
theorem ink_spacedWords (cs : List Char) : ink (spacedWords cs) = ink cs := by
  have hspace : ink [' '] = [] := by simp [ink, isBlank_space]
  rw [spacedWords, ink_squeezeFrom, ink, List.filter_append]
  exact (congrArg (ink cs ++ ·) hspace).trans (List.append_nil _)

/-- Without the blanks at the front, squeezing goes on as inside a run. -/
theorem dropWhile_squeeze (cs : List Char) :
    (squeeze isBlank cs).dropWhile isBlank = squeezeFrom isBlank true cs := by
  cases cs with
  | nil => rfl
  | cons c cs =>
    cases hc : isBlank c with
    | true =>
      simp only [squeeze, squeezeFrom, hc, if_true, Bool.false_eq_true, if_false]
      rw [List.dropWhile_cons_of_pos isBlank_space, dropWhile_eq_self head_squeezeFrom_true]
    | false =>
      simp only [squeeze, squeezeFrom, hc, Bool.false_eq_true, if_false]
      rw [List.dropWhile_cons_of_neg (by simp [hc])]

/-- A tidied text is told by its words. -/
theorem strip_squeeze_eq (cs : List Char) :
    strip (squeeze isBlank cs) = trimEnd isBlank (spacedWords cs) := by
  rw [strip, trim, dropWhile_squeeze, spacedWords]
  rcases squeezeFrom_concat_space true cs with hsame | hspace
  · rw [hsame]
  · rw [hspace, trimEnd_concat, if_pos isBlank_space]

end Text

end Concierge
