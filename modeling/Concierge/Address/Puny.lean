import Concierge.Text.Blank

/-!
# International labels in ASCII

A label with characters beyond ASCII is written as its ASCII characters, a hyphen, and numbers that say
which other characters are inserted and where. The numbers are written with the digits `a` to `z` and
`0` to `9`, least digit first; which digit ends a number depends on a bias, which follows the numbers
before.
-/

namespace Concierge.Address.Puny

/-- The bias of the first number. -/
def firstBias : Nat := 72

/-- The least digit that goes on at a place, given the bias. -/
def threshold (place bias : Nat) : Nat := max 1 (min 26 (36 * (place + 1) - bias))

/-- Divides a delta down, and counts how often. -/
def scaledDown : Nat → Nat → Nat × Nat
  | 0, delta => (delta, 0)
  | fuel + 1, delta =>
    if delta > 455 then
      let (rest, times) := scaledDown fuel (delta / 35)
      (rest, times + 1)
    else (delta, 0)

/-- The bias behind a delta, when so many characters have been placed. -/
def adapted (delta count : Nat) (isFirst : Bool) : Nat :=
  let delta := if isFirst then delta / 700 else delta / 2
  let (delta, times) := scaledDown (delta + delta / count) (delta + delta / count)
  36 * times + 36 * delta / (delta + 38)

/-- A digit as a character. -/
def digitChar (n : Nat) : Char :=
  if n < 26 then Char.ofNat ('a'.toNat + n) else Char.ofNat ('0'.toNat + (n - 26))

/-- The digit that a character is. -/
def digit? (c : Char) : Option Nat :=
  if 'a' ≤ c ∧ c ≤ 'z' then some (c.toNat - 'a'.toNat)
  else if 'A' ≤ c ∧ c ≤ 'Z' then some (c.toNat - 'A'.toNat)
  else if '0' ≤ c ∧ c ≤ '9' then some (c.toNat - '0'.toNat + 26)
  else none

/-- The digits of a number from a place on. -/
def digits (bias : Nat) : Nat → Nat → Nat → List Char
  | 0, _, n => [digitChar n]
  | fuel + 1, place, n =>
    let t := threshold place bias
    if n < t then [digitChar n]
    else digitChar (t + (n - t) % (36 - t)) :: digits bias fuel (place + 1) ((n - t) / (36 - t))

/-- How far writing the inserted characters has come. -/
structure Progress where
  delta : Nat := 0
  bias : Nat := firstBias
  /-- How many characters have been placed. -/
  count : Nat
  isFirst : Bool := true
  written : List Char := []

/-- Passes over a label, and writes where one character is inserted. -/
def insertions (m : Char) (p : Progress) : List Char → Progress
  | [] => p
  | c :: cs =>
    if c < m then insertions m { p with delta := p.delta + 1 } cs
    else if c = m then
      insertions m
        { delta := 0
          bias := adapted p.delta (p.count + 1) p.isFirst
          count := p.count + 1
          isFirst := false
          written := p.written ++ digits p.bias p.delta 0 p.delta } cs
    else insertions m p cs

/-- Writes where each of some characters is inserted; `next` is the least code point that is left. -/
def insertAll (label : List Char) (next : Nat) (p : Progress) : List Char → Progress
  | [] => p
  | m :: ms =>
    let p := { p with delta := p.delta + (m.toNat - next) * (p.count + 1) }
    let p := insertions m p label
    insertAll label (m.toNat + 1) { p with delta := p.delta + 1 } ms

/-- Inserts a character into an increasing list of distinct ones. -/
def insertChar (c : Char) : List Char → List Char
  | [] => [c]
  | d :: ds => if c < d then c :: d :: ds else if c = d then d :: ds else d :: insertChar c ds

/-- A label in ASCII. -/
def encode (label : List Char) : List Char :=
  let base := label.filter (·.toNat < 0x80)
  let others := (label.filter (0x80 ≤ ·.toNat)).foldr insertChar []
  (if base.isEmpty then [] else base ++ ['-']) ++
    (insertAll label 0x80 { count := base.length } others).written

/-- How far reading the inserted characters has come: the number that is being read, with its weight
and place, and the label with the position and the code point of the last insertion. -/
structure Reading where
  number : Nat := 0
  weight : Nat := 1
  place : Nat := 0
  isWithin : Bool := false
  position : Nat := 0
  code : Nat := 0x80
  bias : Nat := firstBias
  isFirst : Bool := true
  label : List Char

/-- A code point as a character, if it is one. -/
def char? (n : Nat) : Option Char := if n.isValidChar then some (Char.ofNat n) else none

/-- Inserts the character of a number that has been read. -/
def Reading.insert? (r : Reading) (number : Nat) : Option Reading := do
  let count := r.label.length + 1
  let position := r.position + number
  let code := r.code + position / count
  let c ← char? code
  let position := position % count
  return {
    position := position + 1
    code
    bias := adapted number count r.isFirst
    isFirst := false
    label := r.label.take position ++ c :: r.label.drop position }

/-- Reads digits. -/
def readDigits (r : Reading) : List Char → Option (List Char)
  | [] => if r.isWithin then none else some r.label
  | c :: cs => do
    let d ← digit? c
    let t := threshold r.place r.bias
    let number := r.number + d * r.weight
    if d < t then readDigits (← r.insert? number) cs
    else
      readDigits
        { r with number, weight := r.weight * (36 - t), place := r.place + 1, isWithin := true } cs

/-- The label that is written in ASCII. -/
def decode? (cs : List Char) : Option (List Char) :=
  let digits := (cs.reverse.takeWhile (· != '-')).reverse
  readDigits { label := cs.take (cs.length - digits.length - 1) } digits

end Concierge.Address.Puny
