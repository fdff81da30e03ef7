/-!
# Double-precision numbers

A double is kept as its 64 bits and worked on exactly: it is decoded to a mantissa and a power of
two, computed with as a ratio of natural numbers, and rounded once at the end, to the nearest
double and to an even mantissa on a tie.
-/

namespace Concierge

/-- The quotient rounded to the nearest natural number, a half to the even neighbour. -/
def roundHalfEven (num den : Nat) : Nat :=
  let q := num / den
  let r := num % den
  if 2 * r < den then q
  else if den < 2 * r then q + 1
  else if q % 2 = 0 then q else q + 1

/-- A double-precision number: one sign bit, eleven bits of exponent, 52 bits of fraction. -/
structure Double where
  /-- The encoding of the number. -/
  bits : UInt64
  deriving DecidableEq, Inhabited

namespace Double

/-- What a double stands for: no number, an infinity, or `± mantissa · 2 ^ exponent`. -/
inductive Form where
  | nan
  | infinite (negative : Bool)
  | finite (negative : Bool) (mantissa : Nat) (exponent : Int)
  deriving DecidableEq

/-- Decodes a double. The mantissa of a finite one is below `2 ^ 53`. -/
def form (d : Double) : Form :=
  let n := d.bits.toNat
  let negative := n / Nat.pow 2 63 == 1
  let field : Nat := n / Nat.pow 2 52 % Nat.pow 2 11
  let fraction : Nat := n % Nat.pow 2 52
  if field = 2047 then
    if fraction = 0 then .infinite negative else .nan
  else if field = 0 then .finite negative fraction (-1074)
  else .finite negative (Nat.pow 2 52 + fraction) ((field : Int) - 1075)

/-- The greatest exponent of a finite double. -/
def greatestExponent : Nat := 971

/-- The mantissa and the exponent of a finite double are bounded. -/
theorem bounds_of_form {d : Double} {negative : Bool} {mantissa : Nat} {exponent : Int}
    (h : d.form = .finite negative mantissa exponent) : mantissa < Nat.pow 2 53 ∧ exponent ≤ greatestExponent := by
  have hgreatest : (greatestExponent : Int) = 971 := rfl
  have hfield : d.bits.toNat / Nat.pow 2 52 % Nat.pow 2 11 < Nat.pow 2 11 := Nat.mod_lt _ (by decide)
  have hfraction : d.bits.toNat % Nat.pow 2 52 < Nat.pow 2 52 := Nat.mod_lt _ (by decide)
  have h52 : Nat.pow 2 52 = 4503599627370496 := rfl
  have h53 : Nat.pow 2 53 = 9007199254740992 := rfl
  have h11 : Nat.pow 2 11 = 2048 := rfl
  unfold form at h
  dsimp only at h
  split at h
  · split at h <;> cases h
  · split at h
    · obtain ⟨-, rfl, rfl⟩ := Form.finite.inj h
      omega
    · obtain ⟨-, rfl, rfl⟩ := Form.finite.inj h
      omega

/-- The quiet number-less double. -/
def nan : Double := ⟨0x7ff8000000000000⟩

/-- The encoding of a sign and of the bits that follow it. -/
def ofSigned (negative : Bool) (n : Nat) : Double :=
  ⟨UInt64.ofNat (if negative then Nat.pow 2 63 + n else n)⟩

/-- Positive or negative infinity. -/
def infinity (negative : Bool) : Double := ofSigned negative (2047 * Nat.pow 2 52)

/-- The ratio divided by a power of two, as a ratio. -/
def scaled (num den : Nat) (q : Int) : Nat × Nat :=
  if q < 0 then (num * Nat.pow 2 (-q).toNat, den) else (num, den * Nat.pow 2 q.toNat)

/-- The double nearest to `± num / den`, for a positive `den`. The exponent is chosen so that the
mantissa has 53 bits, or is the least exponent; a mantissa that is rounded up to the next power of
two carries into the exponent field by itself. -/
def ofRatio (negative : Bool) (num den : Nat) : Double :=
  if num = 0 then ofSigned negative 0
  else
    let guess : Int := max ((Nat.log2 num : Int) - Nat.log2 den - 52) (-1074)
    let (n, d) := scaled num den guess
    let q := if n / d < Nat.pow 2 52 ∧ -1074 < guess then guess - 1 else guess
    let (n, d) := scaled num den q
    let bits := (q + 1074).toNat * Nat.pow 2 52 + roundHalfEven n d
    if 2047 * Nat.pow 2 52 ≤ bits then infinity negative else ofSigned negative bits

/-- The double nearest to an integer. -/
def ofInt (n : Int) : Double := ofRatio (n < 0) n.natAbs 1

/-- Zero of either sign. -/
def isZero (d : Double) : Bool :=
  match d.form with
  | .finite _ 0 _ => true
  | _ => false

/-- The absolute value of `mantissa · 2 ^ exponent` as a ratio. -/
def ratio (mantissa : Nat) (exponent : Int) : Nat × Nat :=
  if exponent < 0 then (mantissa, Nat.pow 2 (-exponent).toNat) else (mantissa * Nat.pow 2 exponent.toNat, 1)

/-- The order of two doubles; no order holds when one of them is not a number. -/
def lt (a b : Double) : Bool :=
  match a.form, b.form with
  | .nan, _ | _, .nan => false
  | .infinite x, .infinite y => x && !y
  | .infinite x, .finite .. => x
  | .finite .., .infinite y => !y
  | .finite x m p, .finite y n q =>
    let (a₁, a₂) := ratio m p
    let (b₁, b₂) := ratio n q
    let left : Int := if x then -(a₁ * b₂ : Nat) else (a₁ * b₂ : Nat)
    let right : Int := if y then -(b₁ * a₂ : Nat) else (b₁ * a₂ : Nat)
    left < right

/-- The greater of two doubles, the first of them when they are equal. -/
def max (a b : Double) : Double := if a.lt b then b else a

/-- The lesser of two doubles, the first of them when they are equal. -/
def min (a b : Double) : Double := if b.lt a then b else a

/-- The integer part of a finite double, toward zero. -/
def truncated? (d : Double) : Option Int :=
  match d.form with
  | .finite negative m e =>
    let (num, den) := ratio m e
    some (if negative then -((num / den : Nat) : Int) else ((num / den : Nat) : Int))
  | _ => none

/-- The integer part of a ratio has no more bits than the mantissa and the exponent together. -/
theorem ratio_lt {mantissa bits power : Nat} {exponent : Int} (hmantissa : mantissa < Nat.pow 2 bits)
    (hexponent : exponent ≤ power) :
    (ratio mantissa exponent).1 / (ratio mantissa exponent).2 < Nat.pow 2 (bits + power) := by
  have hscaled : mantissa * Nat.pow 2 power < Nat.pow 2 (bits + power) :=
    calc mantissa * Nat.pow 2 power
      _ < Nat.pow 2 bits * Nat.pow 2 power := Nat.mul_lt_mul_of_pos_right hmantissa (Nat.two_pow_pos power)
      _ = Nat.pow 2 (bits + power) := (Nat.pow_add 2 bits power).symm
  refine Nat.lt_of_le_of_lt (Nat.le_trans (Nat.div_le_self ..) ?_) hscaled
  unfold ratio
  split
  · exact Nat.le_mul_of_pos_right _ (Nat.two_pow_pos power)
  · have hpower : exponent.toNat ≤ power := by omega
    exact Nat.mul_le_mul_left mantissa (Nat.pow_le_pow_right Nat.zero_lt_two hpower)

/-- The integer part of a finite double has no more digits than the mantissa and the exponent have bits
together. -/
theorem natAbs_lt_of_truncated? {d : Double} {n : Int} {most : Nat} (hmost : 53 + greatestExponent ≤ most)
    (h : d.truncated? = some n) : n.natAbs < Nat.pow 10 most := by
  unfold truncated? at h
  split at h
  · rename_i negative mantissa exponent hform
    obtain ⟨hmantissa, hexponent⟩ := bounds_of_form hform
    have hbase {few : Nat} (hfew : few ≤ most) : Nat.pow 2 few ≤ Nat.pow 10 most :=
      Nat.le_trans (Nat.pow_le_pow_right (by decide) hfew) (Nat.pow_le_pow_left (by decide) most)
    have hwhole := Nat.lt_of_lt_of_le (ratio_lt hmantissa hexponent) (hbase hmost)
    have hn : n.natAbs = (ratio mantissa exponent).1 / (ratio mantissa exponent).2 := by
      rw [← Option.some.inj h]
      split
      · exact Int.natAbs_neg _
      · rfl
    rw [hn]
    exact hwhole
  · cases h

/-- The difference of two doubles. -/
def minus (a b : Double) : Double :=
  match a.form, b.form with
  | .nan, _ | _, .nan => nan
  | .infinite x, .infinite y => if x = y then nan else infinity x
  | .infinite x, .finite .. => infinity x
  | .finite .., .infinite y => infinity (!y)
  | .finite x m p, .finite y n q =>
    let (a₁, a₂) := ratio m p
    let (b₁, b₂) := ratio n q
    let left : Int := if x then -(a₁ * b₂ : Nat) else (a₁ * b₂ : Nat)
    let right : Int := if y then -(b₁ * a₂ : Nat) else (b₁ * a₂ : Nat)
    let rest := left - right
    if rest = 0 then ofSigned (x && !y && m = 0 && n = 0) 0
    else ofRatio (rest < 0) rest.natAbs (a₂ * b₂)

/-- The finite double is an integer. -/
def isIntegral (d : Double) : Bool :=
  match d.form with
  | .finite _ m e => let (num, den) := ratio m e; num % den == 0
  | _ => false

end Double

end Concierge
