import Concierge.Number.Double
import Concierge.Text.Blank
import Concierge.Text.Case
import Concierge.Text.Digit
import Concierge.Text.Quoted

/-!
# Reading numbers

Integers and doubles are read from text with blanks around them, one sign, and single underscores
between digits. Digits may be of any script. An integer that is read, and one that is shown, has at most
`digitLimit` digits.
-/

namespace Concierge

/-- Why something is not a number. -/
inductive NumberError where
  /-- The text is no integer; it is shown quoted. -/
  | notInteger (text : String)
  /-- The text has too many digits. -/
  | tooManyDigits (count : Nat)
  /-- The integer has too many digits to be shown. -/
  | tooLong
  /-- The double that is to be sent is not finite. -/
  | notFinite
  /-- The double is not a number. -/
  | nanToInteger
  /-- The double is an infinity. -/
  | infinityToInteger
  /-- A value of this kind has no number at all. -/
  | notNumeric (kind : String)
  /-- The integer is greater than any double. -/
  | tooGreat
  /-- The text is no double. -/
  | notDouble (text : String)
  /-- A value of this kind is no double. -/
  | notReal (kind : String)
  deriving DecidableEq, Repr

/-- The most digits that a text or an integer may have for a conversion from one to the other. -/
def digitLimit : Nat := 4300

/-- The most characters of a quoted text that the wording of an error shows. -/
def shownLimit : Nat := 200

/-- The wording of a number error. -/
def NumberError.message : NumberError → String
  | notInteger text =>
    "invalid literal for int() with base 10: " ++
      String.ofList ((Text.quoted text).toList.take shownLimit)
  | tooManyDigits count =>
    "Exceeds the limit (4300 digits) for integer string conversion: value has " ++
      toString count ++ " digits; use sys.set_int_max_str_digits() to increase the limit"
  | tooLong =>
    "Exceeds the limit (4300 digits) for integer string conversion; " ++
      "use sys.set_int_max_str_digits() to increase the limit"
  | notFinite => "Out of range float values are not JSON compliant"
  | nanToInteger => "cannot convert float NaN to integer"
  | infinityToInteger => "cannot convert float infinity to integer"
  | notNumeric kind =>
    "int() argument must be a string, a bytes-like object or a real number, not '" ++ kind ++ "'"
  | tooGreat => "int too large to convert to float"
  | notDouble text => "could not convert string to float: " ++ Text.quoted text
  | notReal kind => "float() argument must be a string or a real number, not '" ++ kind ++ "'"

/-- The class that a number error is reported under. -/
def NumberError.label : NumberError → String
  | notInteger _ | tooManyDigits _ | tooLong | notFinite | nanToInteger | notDouble _ => "ValueError"
  | infinityToInteger | tooGreat => "OverflowError"
  | notNumeric _ | notReal _ => "TypeError"

/-- An integer has no more digits than the limit, whatever its sign is. -/
def isShort (n : Int) : Bool := (Nat.toDigits 10 n.natAbs).length ≤ digitLimit

/-- The decimal text of an integer, unless it has too many digits. -/
def decimalText (n : Int) : Except NumberError String :=
  if isShort n then .ok (toString n) else .error .tooLong

/-- An integer is short if it is less than a power of ten. -/
theorem isShort_iff {n : Int} : isShort n = true ↔ n.natAbs < Nat.pow 10 digitLimit := by
  have hdigits (n digits : Nat) (hpositive : 0 < digits) :
      (Nat.toDigits 10 n).length ≤ digits ↔ n < Nat.pow 10 digits :=
    Nat.length_toDigits_le_iff (by decide) hpositive
  rw [isShort, decide_eq_true_iff]
  exact hdigits _ _ (by decide)

/-- An integer of few digits is short. -/
theorem isShort_of_lt {n : Int} {digits : Nat} (hfew : digits ≤ digitLimit)
    (h : n.natAbs < Nat.pow 10 digits) : isShort n = true := by
  have hpower {most : Nat} (hfew : digits ≤ most) : Nat.pow 10 digits ≤ Nat.pow 10 most :=
    Nat.pow_le_pow_right (by decide) hfew
  exact isShort_iff.mpr (Nat.lt_of_lt_of_le h (hpower hfew))

namespace Reading

/-- The number that digits stand for, the first digit first. -/
def ofDigits (ds : List Nat) : Nat := ds.foldl (fun n d => 10 * n + d) 0

/-- The digits at the front of a text, and the rest of it. -/
def leadingDigits : List Char → List Nat × List Char
  | [] => ([], [])
  | c :: cs =>
    match Text.digitValue? c with
    | some d => let (ds, rest) := leadingDigits cs; (d :: ds, rest)
    | none => ([], c :: cs)

/-- Digits of one number with single underscores between them, and the rest. The flag says that
the character before was a digit, so that an underscore may follow. -/
def groupedDigits : Bool → List Char → List Nat × List Char
  | _, [] => ([], [])
  | afterDigit, c :: cs =>
    match Text.digitValue? c with
    | some d => let (ds, rest) := groupedDigits true cs; (d :: ds, rest)
    | none =>
      if c == '_' && afterDigit && (cs.head?.map Text.isDigit).getD false then
        groupedDigits false cs
      else ([], c :: cs)

/-- A sign at the front of a text: whether it is a minus, and the rest. -/
def sign : List Char → Bool × List Char
  | '-' :: cs => (true, cs)
  | '+' :: cs => (false, cs)
  | cs => (false, cs)

/-- The digits make an integer, unless there are too many of them. -/
def boundedNat (ds : List Nat) : Except NumberError Nat :=
  if digitLimit < ds.length then .error (.tooManyDigits ds.length) else .ok (ofDigits ds)

/-- Further digits of a number add as many places as they are. -/
theorem foldl_digits_lt {ds : List Nat} (h : ∀ d ∈ ds, d < 10) (n : Nat) :
    ds.foldl (fun n d => 10 * n + d) n < (n + 1) * Nat.pow 10 ds.length := by
  induction ds generalizing n with
  | nil => simp
  | cons d ds ih =>
    have hd : d < 10 := h d List.mem_cons_self
    have hrest := ih (fun d' hd' => h d' (List.mem_cons_of_mem d hd')) (10 * n + d)
    calc (d :: ds).foldl (fun n d => 10 * n + d) n
      _ < (10 * n + d + 1) * Nat.pow 10 ds.length := hrest
      _ ≤ ((n + 1) * 10) * Nat.pow 10 ds.length := Nat.mul_le_mul_right _ (by omega)
      _ = (n + 1) * Nat.pow 10 (ds.length + 1) := by rw [Nat.mul_assoc, Nat.mul_comm 10]; rfl

/-- The integer that digits make is short. -/
theorem isShort_of_boundedNat {ds : List Nat} {n : Nat} (hdigits : ∀ d ∈ ds, d < 10)
    (h : boundedNat ds = .ok n) : isShort n = true := by
  unfold boundedNat at h
  split at h
  · cases h
  · rename_i hfew
    have hless := foldl_digits_lt hdigits 0
    rw [Nat.zero_add, Nat.one_mul] at hless
    rw [← Except.ok.inj h]
    exact isShort_of_lt (Nat.not_lt.mp hfew) hless

/-- The digits at the front of a text are digits. -/
theorem lt_of_mem_leadingDigits {cs : List Char} : ∀ d ∈ (leadingDigits cs).1, d < 10 := by
  induction cs with
  | nil => exact List.forall_mem_nil _
  | cons c cs ih =>
    rw [leadingDigits]
    cases hvalue : Text.digitValue? c with
    | none => exact List.forall_mem_nil _
    | some d => exact List.forall_mem_cons.mpr ⟨Text.digitValue?_lt hvalue, ih⟩

/-- The run of digits and underscores at the front of a text, as digits, and the rest of the text;
`none` when an underscore of the run does not stand between two digits. -/
def digitRun? : Bool → List Char → Option (List Nat × List Char)
  | afterDigit, [] => if afterDigit then some ([], []) else none
  | afterDigit, c :: cs =>
    match Text.digitValue? c with
    | some d => (digitRun? true cs).map fun (ds, rest) => (d :: ds, rest)
    | none =>
      if !afterDigit then none
      else if c == '_' then digitRun? false cs
      else some ([], c :: cs)

/-- Reads a whole text as an integer. A run of too many digits is too many whatever follows it. -/
def integer (s : String) : Except NumberError Int :=
  let (negative, body) := sign (s.toList.dropWhile Text.isSpace)
  match digitRun? false body with
  | none => .error (.notInteger s)
  | some (ds, rest) => do
    let n ← boundedNat ds
    if rest.all Text.isSpace then return if negative then -(n : Int) else n
    throw (.notInteger s)

/-- A double, toward zero. -/
def integerOfDouble (d : Double) : Except NumberError Int :=
  match d.form, d.truncated? with
  | .nan, _ => .error .nanToInteger
  | .finite .., some n => .ok n
  | _, _ => .error .infinityToInteger

/-- The integer part of a double is short. -/
theorem isShort_of_integerOfDouble {d : Double} {n : Int} (h : integerOfDouble d = .ok n) :
    isShort n = true := by
  unfold integerOfDouble at h
  split at h
  · cases h
  · rename_i htruncated
    cases h
    exact isShort_of_lt (by decide) (Double.natAbs_lt_of_truncated? (Nat.le_refl _) htruncated)
  · cases h

/-- The double nearest to `± n · 10 ^ exponent`, where `n` has `count` digits. Exponents far out of
range are cut off before a power is computed. -/
def scaledDecimal (negative : Bool) (n count : Nat) (exponent : Int) : Double :=
  if n = 0 ∨ exponent + count < -400 then Double.ofRatio negative 0 1
  else if 400 < exponent + count then Double.infinity negative
  else if exponent < 0 then Double.ofRatio negative n (Nat.pow 10 (-exponent).toNat)
  else Double.ofRatio negative (n * Nat.pow 10 exponent.toNat) 1

/-- An exponent at the front of a text, zero when there is none. A mark without digits is not
an exponent. -/
def exponentPart (cs : List Char) : Int × List Char :=
  match cs with
  | mark :: rest =>
    if mark == 'e' || mark == 'E' then
      let (negative, body) := sign rest
      match groupedDigits false body with
      | ([], _) => (0, cs)
      | (ds, after) => (if negative then -(ofDigits ds : Int) else ofDigits ds, after)
    else (0, cs)
  | [] => (0, [])

/-- Digits with an optional fraction and exponent. -/
def decimal? (negative : Bool) (cs : List Char) : Option Double :=
  let (whole, rest) := groupedDigits false cs
  let (fraction, rest) := match rest with
    | '.' :: after => groupedDigits false after
    | _ => ([], rest)
  if whole.isEmpty && fraction.isEmpty then none
  else
    match exponentPart rest with
    | (e, []) =>
      let ds := whole ++ fraction
      some (scaledDecimal negative (ofDigits ds) ds.length (e - fraction.length))
    | _ => none

/-- Reads a whole text as a double; infinities and the number-less double have names. -/
def double? (s : String) : Option Double :=
  let (negative, body) := sign (Text.trim Text.isSpace s.toList)
  let name := String.ofList (body.map fun c => if c.toNat < 0x80 then Text.smallLetter c else c)
  if name == "inf" || name == "infinity" then some (Double.infinity negative)
  else if name == "nan" then some Double.nan
  else decimal? negative body

end Reading

end Concierge
