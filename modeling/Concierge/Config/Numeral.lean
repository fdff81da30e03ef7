import Concierge.Number.Reading
import Concierge.Text.Replace

/-!
# Numerals of a configuration

An integer in a configuration may be written with space around it, a plus sign, leading zeros, single
underscores between digits, and a fraction of zeros. A numeral is cleared of all of these before its
digits are read. The leading zeros may hold underscores of their own.
-/

namespace Concierge.Config.Numeral

/-- Why a text is no numeral. -/
inductive NumeralError where
  | unreadable
  /-- The text has too many digits. -/
  | tooLong
  deriving DecidableEq, Repr

/-- A character with which the significant part of a numeral begins. -/
def startsNumber (c : Char) : Bool := ('1' ≤ c && c ≤ '9') || c == '-'

/-- What is left of a numeral behind leading zeros, of which the one given is the last. One character
stays when there is nothing else, or when a fraction follows. -/
def afterZeros (last : Char) : List Char → Option (List Char)
  | [] => some [last]
  | c :: cs =>
    if c == '0' || c == '_' then afterZeros c cs
    else if startsNumber c then some (c :: cs)
    else if c == '.' then some (last :: c :: cs)
    else none

/-- A numeral without leading zeros. -/
def dropZeros? : List Char → Option (List Char)
  | [] => none
  | c :: cs =>
    if c == '0' then afterZeros c cs else if startsNumber c then some (c :: cs) else none

/-- A numeral without a plus sign in front of it. -/
def dropPlus? : List Char → Option (List Char)
  | '+' :: '-' :: _ => none
  | '+' :: cs => some cs
  | cs => some cs

/-- A numeral without a fraction of zeros. -/
def dropFraction (cs : List Char) : List Char :=
  match Text.cutAt? '.' cs with
  | some (whole, zeros) => if !zeros.isEmpty && zeros.all (· == '0') then whole else cs
  | none => cs

/-- A numeral without its underscores, when every one of them stands alone and between others. -/
def dropUnderscores (cs : List Char) : List Char :=
  if cs.head? == some '_' || cs.getLast? == some '_' || Text.occursIn ['_', '_'] cs then cs
  else cs.filter (· != '_')

/-- A numeral cleared of all that is not significant. -/
def cleared? (cs : List Char) : Option (List Char) := do
  let cs ← dropPlus? (Text.trim Text.isSpace cs)
  let cs ← dropZeros? cs
  return dropUnderscores (dropFraction cs)

/-- An ASCII digit. -/
def isPlainDigit (c : Char) : Bool := '0' ≤ c && c ≤ '9'

/-- The number of a cleared numeral: digits behind at most one minus sign. -/
def number (cs : List Char) : Except NumeralError Int :=
  let negative := cs.head? == some '-'
  let body := if negative then cs.drop 1 else cs
  let digits := body.takeWhile isPlainDigit
  if digitLimit < (digits.dropWhile (· == '0')).length then .error .tooLong
  else if digits.isEmpty || digits.length < body.length then .error .unreadable
  else
    let n : Int := Reading.ofDigits (digits.map fun c => c.toNat - '0'.toNat)
    .ok (if negative then -n else n)

/-- Reads a numeral. -/
def read (s : String) : Except NumeralError Int :=
  match cleared? s.toList with
  | some cs => number cs
  | none => .error .unreadable

end Concierge.Config.Numeral
