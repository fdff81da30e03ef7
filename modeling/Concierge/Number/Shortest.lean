import Concierge.Number.Double

/-!
# Shortest decimal text of a double

A double is written with the fewest decimal digits that read back as the same double, and of
those with the digits nearest to it. The reals that read back as `m · 2 ^ q` form an interval, whose
ends belong to it when `m` is even; the decimals with `n` digits form a grid, and if any point of the
grid lies in the interval, one of the two neighbours of the number does.
-/

namespace Concierge.Double

/-- The decimal digits of a positive number, the point before the first digit moved by `point`
places: `0.d₁d₂… · 10 ^ point`. -/
structure Digits where
  /-- The digits, the first of them not zero. -/
  digits : List Nat
  /-- Where the decimal point stands. -/
  point : Int
  deriving DecidableEq

/-- The least `k` from the given one on with `den ≤ num · 10 ^ k`. -/
def leadingZeros (num den : Nat) : Nat → Nat → Nat
  | 0, k => k
  | fuel + 1, k => if den ≤ num * Nat.pow 10 k then k else leadingZeros num den fuel (k + 1)

/-- The exponent `p` with `10 ^ (p - 1) ≤ num / den < 10 ^ p`. -/
def decimalExponent (num den : Nat) : Int :=
  if den ≤ num then (Nat.toDigits 10 (num / den)).length
  else 1 - (leadingZeros num den 400 1 : Int)

/-- `num / den` divided by a power of ten, as a ratio. -/
def decimalScaled (num den : Nat) (p : Int) : Nat × Nat :=
  if p < 0 then (num * Nat.pow 10 (-p).toNat, den) else (num, den * Nat.pow 10 p.toNat)

/-- The distance of two ratios with one denominator. -/
def gap (a b : Nat) : Nat := (a - b) + (b - a)

/-- The point of the grid with `n` digits that reads back as the number and is nearest to it. The
interval is given in quarters of a unit of the mantissa. -/
def onGrid? (mantissa : Nat) (exponent point : Int) (n : Nat) : Option Nat :=
  let (u, v) := ratio 1 (exponent - 2)
  let place := point - (n : Int)
  let low := 4 * mantissa - if mantissa = Nat.pow 2 52 ∧ -1074 < exponent then 1 else 2
  let high := 4 * mantissa + 2
  let (num, den) := decimalScaled (4 * mantissa * u) v place
  let unit (quarters : Nat) : Nat := (decimalScaled (quarters * u) v place).1
  let below := num / den
  let inside (k : Nat) : Bool :=
    if mantissa % 2 = 0 then unit low ≤ k * den && k * den ≤ unit high
    else unit low < k * den && k * den < unit high
  match inside below, inside (below + 1) with
  | false, false => none
  | true, false => some below
  | false, true => some (below + 1)
  | true, true =>
    let down := gap num (below * den)
    let up := gap num ((below + 1) * den)
    if down < up then some below
    else if up < down then some (below + 1)
    else if below % 2 = 0 then some below else some (below + 1)

/-- The value of a decimal digit. -/
def digitOf (c : Char) : Nat := c.toNat - '0'.toNat

/-- The digits of a number without the zeros at its end, with the point before the first of them
so that they stand for `k · 10 ^ place`. -/
def digitsOf (k : Nat) (place : Int) : Digits :=
  let all := (Nat.toDigits 10 k).map digitOf
  { digits := (all.reverse.dropWhile (· == 0)).reverse
    point := place + all.length }

/-- The shortest digits of `mantissa · 2 ^ exponent`: seventeen always suffice. -/
def shortest (mantissa : Nat) (exponent : Int) : Digits :=
  let (num, den) := ratio mantissa exponent
  let point := decimalExponent num den
  let found := (List.range 17).findSome? fun i =>
    (onGrid? mantissa exponent point (i + 1)).map fun k => digitsOf k (point - ((i : Int) + 1))
  found.getD ⟨[0], 1⟩

/-- How a decimal number is laid out. -/
structure Layout where
  /-- The least place of the point that is still written without an exponent. -/
  leastPoint : Int
  /-- The greatest place of the point that is still written without an exponent. -/
  greatestPoint : Int
  /-- The fewest digits of an exponent. -/
  exponentWidth : Nat
  /-- The text of no number. -/
  nan : String
  /-- The text of positive infinity. -/
  infinity : String

/-- Numbers are written positionally from `0.0001` to below `10 ^ 16`, always with a digit after the
point; other exponents have a sign and at least two digits. -/
def plainLayout : Layout := ⟨-3, 16, 2, "nan", "inf"⟩

/-- The text of one digit. -/
def digitChar (n : Nat) : Char := Char.ofNat ('0'.toNat + n)

/-- A number with at least `width` digits, filled up with zeros at the front. -/
def paddedNat (width n : Nat) : List Char :=
  let ds := Nat.toDigits 10 n
  List.replicate (width - ds.length) '0' ++ ds

/-- Lays out the digits of a positive number. -/
def Layout.render (layout : Layout) (d : Digits) : List Char :=
  let ds := d.digits.map digitChar
  if layout.leastPoint ≤ d.point ∧ d.point ≤ layout.greatestPoint then
    if d.point ≤ 0 then '0' :: '.' :: (List.replicate (-d.point).toNat '0' ++ ds)
    else if ds.length ≤ d.point.toNat then
      ds ++ List.replicate (d.point.toNat - ds.length) '0' ++ ['.', '0']
    else ds.take d.point.toNat ++ '.' :: ds.drop d.point.toNat
  else
    let exponent := d.point - 1
    let mantissa := match ds with
      | first :: second :: rest => first :: '.' :: second :: rest
      | short => short
    mantissa ++ 'e' :: (if exponent < 0 then '-' else '+') ::
      paddedNat layout.exponentWidth exponent.natAbs

/-- The shortest text of a double in a layout. -/
def Layout.text (layout : Layout) (d : Double) : String :=
  match d.form with
  | .nan => layout.nan
  | .infinite negative => (if negative then "-" else "") ++ layout.infinity
  | .finite negative m e =>
    let body := if m = 0 then ['0', '.', '0'] else layout.render (shortest m e)
    String.ofList (if negative then '-' :: body else body)

/-- The shortest text of a double. -/
def text (d : Double) : String := plainLayout.text d

end Concierge.Double
