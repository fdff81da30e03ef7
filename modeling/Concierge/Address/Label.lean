import Concierge.Address.LabelTable
import Concierge.Address.MarkTable
import Concierge.Address.Puny

/-!
# Labels of international host names

A host name is a sequence of labels between dots. A label consists of letters in small form, digits,
marks and hyphens; some characters may only stand next to certain others, its marks are composed and in
order, and what is read from the right is not mixed with what is read from the left.
-/

namespace Concierge.Address

/-- The code point of a character lies in one of some ranges. -/
def isIn (ranges : Array (Nat × Nat)) (c : Char) : Bool :=
  ranges.any fun r => r.1 ≤ c.toNat && c.toNat ≤ r.2

/-- The order of a mark among others; zero for what is no such mark. -/
def order (c : Char) : Nat :=
  ((orderRanges.find? fun (_, low, high) => low ≤ c.toNat && c.toNat ≤ high).map (·.1)).getD 0

/-- Two characters make one character. -/
def isComposed (letter mark : Nat) : Bool :=
  composed.any fun (m, letters) => m == mark && letters.any fun e => e.1 == letter

/-- The letter and the mark that a character is made of. -/
def parts? (letter : Nat) : Option (Nat × Nat) :=
  composed.findSome? fun (mark, letters) =>
    (letters.find? fun e => e.2 == letter).map fun e => (e.1, mark)

/-- A mark would be composed with a letter, were the letter's own marks of a later order put behind. -/
def slipsUnder (n mark : Nat) : Nat → Nat → Bool
  | 0, _ => false
  | fuel + 1, letter =>
    match parts? letter with
    | some (base, own) =>
      n < order (Char.ofNat own) && (isComposed base mark || slipsUnder n mark fuel base)
    | none => false

/-- Marks are in order, and none could be composed with the letter before; `last` is the order of the
character before. -/
def isNormalFrom (letter : Option Char) (last : Nat) (isNext : Bool) : List Char → Bool
  | [] => true
  | c :: cs =>
    let n := order c
    let composes := match letter with
      | some l =>
        ((isNext || last < n) && isComposed l.toNat c.toNat) ||
          (n != 0 && (isNext || last < n) && slipsUnder n c.toNat 4 l.toNat)
      | none => false
    !composes && (n == 0 || last ≤ n) &&
      if n == 0 then isNormalFrom (some c) 0 true cs else isNormalFrom letter n false cs

/-- The text is in normal form. -/
def isNormal (cs : List Char) : Bool := isNormalFrom none 0 false cs

/-- Hyphens stand neither at an end nor together at the third and fourth place. -/
def hasGoodHyphens (cs : List Char) : Bool :=
  (cs.drop 2).take 2 != ['-', '-'] && cs.head? != some '-' && cs.getLast? != some '-'

/-- How a character is read. -/
inductive Direction where
  | left
  | right
  | digit
  | rightDigit
  | mark
  | neutral
  deriving DecidableEq, Repr

/-- The direction in which a character is read. -/
def direction (c : Char) : Direction :=
  if ('0' ≤ c ∧ c ≤ '9') ∨ (0x6f0 ≤ c.toNat ∧ c.toNat ≤ 0x6f9) then .digit
  else if (0x660 ≤ c.toNat ∧ c.toNat ≤ 0x669) ∨ (0x10d30 ≤ c.toNat ∧ c.toNat ≤ 0x10d39) then
    .rightDigit
  else if c = '-' ∨ c = '\u200c' ∨ c = '\u200d' ∨ isIn neutralRanges c then .neutral
  else if isIn rightRanges c then .right
  else if isIn markRanges c && !isIn spacingRanges c then .mark
  else .left

/-- A label with characters that are read from the right is not mixed: it begins with a letter that is
read from the right, holds none that is read from the left, has digits of one kind, and ends in a
letter or digit with any marks. A label that begins with a letter that is read from the left cannot hold
any that is read from the right. -/
def isDirected (cs : List Char) : Bool :=
  let ds := cs.map direction
  if ds.all fun d => d != .right && d != .rightDigit then true
  else
    let final := ds.reverse.dropWhile (· == .mark)
    ds.head? == some .right && !ds.contains .left &&
      !(ds.contains .digit && ds.contains .rightDigit) &&
      (final.head? == some .right || final.head? == some .digit || final.head? == some .rightDigit)

/-- The characters before, the last one first, end in one after which a joiner stands. -/
def isVirama (before : List Char) : Bool := (before.head?.map (order · == 9)).getD false

/-- The next character that is no mark lies in one of some ranges. -/
def joins (ranges : Array (Nat × Nat)) (cs : List Char) : Bool :=
  (((cs.dropWhile fun c => isIn markRanges c && !isIn spacingRanges c).head?).map (isIn ranges)).getD false

/-- A character that depends on others may stand between those before, the last one first, and those
behind. -/
def fits (before : List Char) (c : Char) (behind : List Char) : Bool :=
  let label := before.reverse ++ c :: behind
  let digitsOf (low : Nat) : Bool := label.any fun d => low ≤ d.toNat && d.toNat ≤ low + 9
  if c = '\u200c' then isVirama before || (joins startRanges before && joins endRanges behind)
  else if c = '\u200d' then isVirama before
  else if c = '·' then before.head? == some 'l' && behind.head? == some 'l'
  else if c = '\u0375' then (behind.head?.map (isIn greekRanges)).getD false
  else if c = '\u05f3' ∨ c = '\u05f4' then (before.head?.map (isIn hebrewRanges)).getD false
  else if c = '・' then label.any (isIn kanaRanges)
  else if 0x660 ≤ c.toNat ∧ c.toNat ≤ 0x669 then !digitsOf 0x6f0
  else if 0x6f0 ≤ c.toNat ∧ c.toNat ≤ 0x6f9 then !digitsOf 0x660
  else false

/-- All characters may stand where they stand, behind those before, the last one first. -/
def areFitting (before : List Char) : List Char → Bool
  | [] => true
  | c :: cs => (isIn labelRanges c || fits before c cs) && areFitting (c :: before) cs

/-- A label is well formed. -/
def isLabel (cs : List Char) : Bool :=
  !cs.isEmpty && cs.length ≤ 254 && isNormal cs && hasGoodHyphens cs &&
    !((cs.head?.map (isIn markRanges)).getD false) && areFitting [] cs && isDirected cs

/-- What a label in ASCII begins with when it stands for another one. -/
def markOfCode : List Char := ['x', 'n', '-', '-']

/-- A label in ASCII is well formed; one that stands for another label has to stand for a good one. -/
def isPlainLabel (cs : List Char) : Bool :=
  if markOfCode.isPrefixOf cs then
    let code := cs.drop 4
    !code.isEmpty && code.getLast? != some '-' && ((Puny.decode? code).map isLabel).getD false
  else isLabel cs

/-- A label as it is sent: in ASCII, and of at most 63 characters. -/
def sentLabel? (cs : List Char) : Option (List Char) :=
  if cs.all (·.toNat < 0x80) then if isPlainLabel cs && cs.length ≤ 63 then some cs else none
  else
    let code := markOfCode ++ Puny.encode cs
    if isLabel cs && code.length ≤ 63 then some code else none

/-- A dot of any script. -/
def isDot (c : Char) : Bool := c == '.' || c == '。' || c == '．' || c == '｡'

/-- An international host name as it is sent. The dot at its end may be there or not. -/
def sentName? (cs : List Char) : Option (List Char) := do
  let labels := Text.split isDot cs
  let isClosed := labels.getLast? == some [] && 1 < labels.length
  let labels := if isClosed then labels.dropLast else labels
  let sent ← labels.mapM sentLabel?
  let name := List.intercalate ['.'] sent ++ (if isClosed then ['.'] else [])
  if name.length ≤ (if isClosed then 254 else 253) then some name else none

end Concierge.Address
