import Concierge.Number.Reading
import Concierge.Value.Shown

/-!
# Whole numbers

A value as a number of things: the magnitude of a number, or the digits that a text begins with.
-/

namespace Concierge.Clean

/-- The number at the front of a text, behind blanks and one sign; zero when there is none. -/
def leadingNumber (cs : List Char) : Except NumberError Nat :=
  match Reading.leadingDigits (Reading.sign (cs.dropWhile Text.isBlank)).2 with
  | ([], _) => .ok 0
  | (ds, _) => Reading.boundedNat ds

/-- A value as a whole number that is not negative. -/
def number : Value → Except NumberError Nat
  | .bool b => .ok (if b then 1 else 0)
  | .int n => .ok n.natAbs
  | .double d => (Reading.integerOfDouble d).map Int.natAbs
  | v => do leadingNumber (← v.asText).toList

end Concierge.Clean
