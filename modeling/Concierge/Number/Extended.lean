import Concierge.Number.Double

/-!
# Numbers in extended precision

A number in extended precision is a significand of 64 bits times a power of two, with no bound on the
power. Its operations are exact up to one rounding to the nearest number, to an even significand on a
tie. It stands between a decimal number and a double: scaling by a power of ten is done with it, and
its result is rounded once more, so that the double need not be the nearest one.
-/

namespace Concierge

/-- The number `significand · 2 ^ exponent`. -/
structure Extended where
  significand : Nat
  exponent : Int
  deriving DecidableEq, Repr

namespace Extended

/-- The number nearest to a positive ratio. -/
def ofRatio (num den : Nat) : Extended :=
  let guess : Int := (Nat.log2 num : Int) - Nat.log2 den - 63
  let (n, d) := Double.scaled num den guess
  let q := if n / d < Nat.pow 2 63 then guess - 1 else guess
  let (n, d) := Double.scaled num den q
  ⟨roundHalfEven n d, q⟩

/-- The product of two numbers. -/
def times (a b : Extended) : Extended :=
  let (num, den) := Double.ratio (a.significand * b.significand) (a.exponent + b.exponent)
  ofRatio num den

/-- A natural number divided by a number. -/
def quotient (n : Nat) (a : Extended) : Extended :=
  let (num, den) := Double.ratio a.significand a.exponent
  ofRatio (n * den) num

/-- The double nearest to a number, with a sign. -/
def toDouble (negative : Bool) (a : Extended) : Double :=
  let (num, den) := Double.ratio a.significand a.exponent
  Double.ofRatio negative num den

/-- The product of `r` and the power of `x` with an exponent of so many bits, by repeated squaring. -/
def powerFrom : Nat → Extended → Extended → Nat → Extended
  | 0, _, r, _ => r
  | bits + 1, x, r, n =>
    powerFrom bits (x.times x) (if n % 2 = 1 then r.times x else r) (n / 2)

/-- The power of ten with an exponent below 512. -/
def powerOfTen (n : Nat) : Extended := powerFrom 9 (ofRatio 10 1) (ofRatio 1 1) n

end Extended

end Concierge
