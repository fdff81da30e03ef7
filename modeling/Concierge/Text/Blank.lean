/-!
# Blanks

A blank is any Unicode white space or one of the four information separators of ASCII. Texts are
trimmed of them, their runs are squeezed to single spaces, and words are what lies between them.
-/

namespace Concierge.Text

/-- White space of any script. -/
def isSpace (c : Char) : Bool :=
  let n := c.toNat
  (9 ≤ n && n ≤ 13) || n == 0x20 || n == 0x85 || n == 0xa0 || n == 0x1680 ||
    (0x2000 ≤ n && n ≤ 0x200a) || n == 0x2028 || n == 0x2029 || n == 0x202f || n == 0x205f ||
    n == 0x3000

/-- White space, and the separators `U+001C` to `U+001F`. -/
def isBlank (c : Char) : Bool := isSpace c || (0x1c ≤ c.toNat && c.toNat ≤ 0x1f)

/-- Drops the characters of a class from the end of a text. -/
def trimEnd (p : Char → Bool) (cs : List Char) : List Char :=
  (cs.reverse.dropWhile p).reverse

/-- Drops the characters of a class from both ends of a text. -/
def trim (p : Char → Bool) (cs : List Char) : List Char :=
  trimEnd p (cs.dropWhile p)

/-- Drops the blanks from both ends of a text. -/
def strip (cs : List Char) : List Char := trim isBlank cs

/-- Replaces every run of characters of a class by one space. The flag says that the run before
the given text has already left its space. -/
def squeezeFrom (p : Char → Bool) : Bool → List Char → List Char
  | _, [] => []
  | inRun, c :: cs =>
    if p c then
      if inRun then squeezeFrom p true cs else ' ' :: squeezeFrom p true cs
    else c :: squeezeFrom p false cs

/-- Replaces every run of characters of a class by one space. -/
def squeeze (p : Char → Bool) (cs : List Char) : List Char := squeezeFrom p false cs

/-- Dropping characters from the end leaves the others in place. -/
theorem trimEnd_sublist (p : Char → Bool) (cs : List Char) : (trimEnd p cs).Sublist cs := by
  have h := (List.dropWhile_sublist (p := p) (l := cs.reverse)).reverse
  simpa [trimEnd] using h

/-- Trimming leaves what it keeps in place. -/
theorem trim_sublist (p : Char → Bool) (cs : List Char) : (trim p cs).Sublist cs :=
  (trimEnd_sublist p _).trans (List.dropWhile_sublist (p := p))

/-- Squeezing makes no text longer. -/
theorem length_squeezeFrom_le (p : Char → Bool) (inRun : Bool) (cs : List Char) :
    (squeezeFrom p inRun cs).length ≤ cs.length := by
  induction cs generalizing inRun with
  | nil => simp [squeezeFrom]
  | cons c cs ih =>
    have h₁ := ih true
    have h₂ := ih false
    cases hc : p c <;> cases inRun <;> simp [squeezeFrom, hc] <;> omega

/-- A text that squeezing makes no shorter only has its characters of the class replaced. -/
theorem squeezeFrom_eq_map {p : Char → Bool} {inRun : Bool} {cs : List Char}
    (h : (squeezeFrom p inRun cs).length = cs.length) :
    squeezeFrom p inRun cs = cs.map fun c => if p c then ' ' else c := by
  induction cs generalizing inRun with
  | nil => rfl
  | cons c cs ih =>
    have h₁ := length_squeezeFrom_le p true cs
    cases hc : p c <;> cases inRun <;> simp [squeezeFrom, hc] at h ⊢
    · exact ih h
    · exact ih h
    · exact ih h
    · omega

/-- Of the characters of the class, squeezing leaves only spaces. -/
theorem eq_space_of_mem_squeezeFrom {p : Char → Bool} {inRun : Bool} {cs : List Char} {c : Char}
    (h : c ∈ squeezeFrom p inRun cs) (hc : p c = true) : c = ' ' := by
  induction cs generalizing inRun with
  | nil => simp [squeezeFrom] at h
  | cons d cs ih =>
    cases hd : p d <;> cases inRun <;> simp [squeezeFrom, hd] at h
    · rcases h with rfl | h
      · simp [hd] at hc
      · exact ih h
    · rcases h with rfl | h
      · simp [hd] at hc
      · exact ih h
    · rcases h with rfl | h
      · rfl
      · exact ih h
    · exact ih h

/-- Cuts a text at every character of a class; `n` cuts leave `n + 1` pieces. -/
def split (p : Char → Bool) : List Char → List (List Char)
  | [] => [[]]
  | c :: cs =>
    if p c then [] :: split p cs
    else
      match split p cs with
      | [] => [[c]]
      | piece :: pieces => (c :: piece) :: pieces

/-- The words of a text: what lies between blanks. -/
def words (cs : List Char) : List (List Char) :=
  (split isBlank cs).filter fun w => !w.isEmpty

/-- Blanks are dropped from both ends of a string. -/
def stripped (s : String) : String := String.ofList (strip s.toList)

/-- A string of blanks only; the empty string is one. -/
def isBlankText (s : String) : Bool := s.toList.all isBlank

end Concierge.Text
