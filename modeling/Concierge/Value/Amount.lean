import Concierge.Value.Basic

/-!
# Values as amounts

Truth values, integers and doubles are numbers, which are compared exactly whatever their kinds: true is
one, and an integer is never rounded. Keys that are the same number are one key.
-/

namespace Concierge

/-- An exact number. -/
inductive Amount where
  | nan
  | infinite (negative : Bool)
  | ratio (num : Int) (den : Nat)
  deriving DecidableEq, Repr

namespace Amount

/-- A double as an exact number. -/
def ofDouble (d : Double) : Amount :=
  match d.form with
  | .nan => nan
  | .infinite negative => infinite negative
  | .finite negative m e =>
    let (num, den) := Double.ratio m e
    ratio (if negative then -(num : Int) else num) den

/-- The first number is at most the second; nothing is comparable to what is no number. -/
def le : Amount → Amount → Bool
  | nan, _ | _, nan => false
  | infinite x, infinite y => x || !y
  | infinite x, ratio .. => x
  | ratio .., infinite y => !y
  | ratio a b, ratio c d => a * d ≤ c * b

/-- Two numbers are equal. -/
def same (a b : Amount) : Bool := a.le b && b.le a

end Amount

namespace Value

/-- The number that a value is. -/
def amount? : Value → Option Amount
  | bool b => some (.ratio (if b then 1 else 0) 1)
  | int n => some (.ratio n 1)
  | double d => some (.ofDouble d)
  | _ => none

/-- Two values are one key: equal numbers, or equal values of another kind. -/
def isSameKey (a b : Value) : Bool :=
  match a.amount?, b.amount? with
  | some x, some y => x.same y
  | none, none => a == b
  | _, _ => false

mutual

/-- Somewhere in a value stands a double that is no number. -/
def hasNan : Value → Bool
  | double d => d.form == .nan
  | list items => anyNan items
  | dict entries => anyNanEntry entries
  | _ => false

/-- One of some values holds a double that is no number. -/
def anyNan : List Value → Bool
  | [] => false
  | v :: vs => hasNan v || anyNan vs

/-- One of some entries holds a double that is no number. -/
def anyNanEntry : List (String × Value) → Bool
  | [] => false
  | (_, v) :: rest => hasNan v || anyNanEntry rest

end

end Value

end Concierge
