import Concierge.Number.Extended
import Concierge.Number.Shortest
import Concierge.Value.Shown

/-!
# The column of values

A value that is just a number is held in a column of numbers, which reads it from its decimal text:
whole numbers of up to 64 bits become integers, and all others doubles. The text gives a significand of
at most nineteen digits and a power of ten, and the significand is scaled in extended precision, so that
a double may come back as its neighbour. Any other value is held as it is.
-/

namespace Concierge.Column

/-- The least integer of 64 bits. -/
def leastInteger : Int := -9223372036854775808

/-- The greatest integer of 64 bits. -/
def greatestInteger : Int := 9223372036854775807

/-- From this significand on, no further digit is read. -/
def fullSignificand : Nat := 922337203685477579

/-- The greatest power of ten that is a factor in itself; a lower one is reached by way of it. -/
def greatestPower : Nat := 308

/-- Moves powers of ten into the significand, as long as it does not become too long. -/
def raised : Nat → Nat → Nat × Nat
  | s, 0 => (s, 0)
  | s, e + 1 => if fullSignificand < s then (s, e + 1) else raised (s * 10) e

/-- The significand times a power of ten. -/
def scaledUp (negative : Bool) (s e : Nat) : Double :=
  match raised s e with
  | (s, 0) => Double.ofRatio negative s 1
  | (s, e) =>
    if greatestPower ≤ e then Double.infinity negative
    else ((Extended.ofRatio s 1).times (Extended.powerOfTen e)).toDouble negative

/-- The double divided by the greatest power of ten. -/
def lowered (negative : Bool) (d : Double) : Double :=
  match d.form, (Double.ofRatio false (Nat.pow 10 greatestPower) 1).form with
  | .finite _ m p, .finite _ n q =>
    let (num, den) := Double.ratio m p
    let (num', den') := Double.ratio n q
    Double.ofRatio negative (num * den') (den * num')
  | _, _ => d

/-- The significand divided by a power of ten. -/
def scaledDown (negative : Bool) (s e : Nat) : Double :=
  if e < greatestPower then (Extended.quotient s (Extended.powerOfTen e)).toDouble negative
  else
    lowered negative
      ((Extended.quotient s (Extended.powerOfTen (e - greatestPower))).toDouble negative)

/-- The double that is read from the digits of a positive double. -/
def ofDigits (negative : Bool) (d : Double.Digits) : Double :=
  let s := d.digits.foldl (fun s digit => 10 * s + digit) 0
  let e := d.point - (d.digits.length : Int)
  if e < 0 then scaledDown negative s (-e).toNat else scaledUp negative s e.toNat

/-- The double that is read for a double. -/
def reread (d : Double) : Double :=
  match d.form with
  | .finite negative m e => if m = 0 then d else ofDigits negative (Double.shortest m e)
  | _ => d

/-- The double that is read for an integer of more than 64 bits, from its first digits. -/
def ofLarge (n : Int) : Double :=
  let digits := (Nat.toDigits 10 n.natAbs).length
  let s := n.natAbs / Nat.pow 10 (digits - 18)
  if fullSignificand ≤ s then scaledUp (n < 0) s (digits - 18)
  else scaledUp (n < 0) (n.natAbs / Nat.pow 10 (digits - 19)) (digits - 19)

/-- A double as it is held: as an integer, if it is a whole number strictly within 64 bits. -/
def ofDouble (d : Double) : Value :=
  match d.truncated? with
  | some n =>
    if d.isIntegral ∧ leastInteger < n ∧ n ≤ greatestInteger then .int n else .double d
  | none => .double d

/-- A value as it is held. -/
def held : Value → Value
  | .int n => if leastInteger ≤ n ∧ n ≤ greatestInteger then .int n else .double (ofLarge n)
  | .double d => ofDouble (reread d)
  | v => v

/-- An integer of 64 bits is short. -/
theorem isShort_of_fits {n : Int} (hleast : leastInteger ≤ n) (hgreatest : n ≤ greatestInteger) :
    isShort n = true := by
  have hpower : Nat.pow 10 19 = 10000000000000000000 := rfl
  have hbits : n.natAbs < Nat.pow 10 19 := by
    unfold leastInteger at hleast
    unfold greatestInteger at hgreatest
    omega
  exact isShort_of_lt (by decide) hbits

/-- An integer is held as a number that is short. -/
theorem isShort_held_int (n : Int) : (held (.int n)).isShort = true := by
  rw [held]
  split
  · rename_i hfits
    exact isShort_of_fits hfits.1 hfits.2
  · rfl

/-- A double is held as a number that is short. -/
theorem isShort_ofDouble (d : Double) : (ofDouble d).isShort = true := by
  unfold ofDouble
  split
  · split
    · rename_i hfits
      exact isShort_of_fits (Int.le_of_lt hfits.2.1) hfits.2.2
    · rfl
  · rfl

/-- A value that can be written can be written as it is held. -/
theorem isShort_held {v : Value} (h : v.isShort = true) : (held v).isShort = true := by
  cases v with
  | int n => exact isShort_held_int n
  | double d => exact isShort_ofDouble (reread d)
  | _ => exact h

end Concierge.Column
