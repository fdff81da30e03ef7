/-!
# Texts as bytes

A text is sent as its bytes in UTF-8. Bytes that come back may be units of two or of four bytes, in
either order, which a byte order mark in front of them tells, or else the zeros among the first of them.
-/

namespace Concierge.Text

/-- The bytes of a text in UTF-8. -/
def bytes (cs : List Char) : List Nat := cs.flatMap fun c => (String.utf8EncodeChar c).map (·.toNat)

/-- A code point as a character; one of a surrogate is replaced. -/
def charOf (n : Nat) : Char := if n.isValidChar then Char.ofNat n else '\ufffd'

/-- How many bytes go on a sequence that begins with a byte, the bits of the first byte, and the
least and the greatest second byte. A surrogate is no sequence unless it is allowed. -/
def sequenceOf (surrogates : Bool) (b : Nat) : Option (Nat × Nat × Nat × Nat) :=
  if 0xc2 ≤ b ∧ b ≤ 0xdf then some (1, b - 0xc0, 0x80, 0xbf)
  else if b = 0xe0 then some (2, 0, 0xa0, 0xbf)
  else if b = 0xed then some (2, 0xd, 0x80, if surrogates then 0xbf else 0x9f)
  else if 0xe1 ≤ b ∧ b ≤ 0xef then some (2, b - 0xe0, 0x80, 0xbf)
  else if b = 0xf0 then some (3, 0, 0x90, 0xbf)
  else if 0xf1 ≤ b ∧ b ≤ 0xf3 then some (3, b - 0xf0, 0x80, 0xbf)
  else if b = 0xf4 then some (3, 4, 0x80, 0x8f)
  else none

/-- A sequence of UTF-8 that is not complete: how many bytes are to come, the bits so far, and the least
and the greatest next byte. -/
structure Sequence where
  left : Nat
  bits : Nat
  least : Nat
  greatest : Nat

/-- What a byte comes to at the start of a sequence: the characters that it is, where `none` stands for
bytes that are not well formed, and the sequence that it opens. -/
def opened (surrogates : Bool) (b : Nat) : List (Option Char) × Option Sequence :=
  if b < 0x80 then ([some (Char.ofNat b)], none)
  else
    match sequenceOf surrogates b with
    | some (left, bits, least, greatest) => ([], some ⟨left, bits, least, greatest⟩)
    | none => ([none], none)

/-- Reads bytes as UTF-8; `none` stands for what is not well formed. -/
def decoded (surrogates : Bool) : Option Sequence → List Nat → List (Option Char)
  | none, [] => []
  | some _, [] => [none]
  | none, b :: bs =>
    let (cs, next) := opened surrogates b
    cs ++ decoded surrogates next bs
  | some s, b :: bs =>
    if s.least ≤ b ∧ b ≤ s.greatest then
      let bits := s.bits * 64 + (b - 0x80)
      if s.left ≤ 1 then some (charOf bits) :: decoded surrogates none bs
      else decoded surrogates (some ⟨s.left - 1, bits, 0x80, 0xbf⟩) bs
    else
      let (cs, next) := opened surrogates b
      none :: cs ++ decoded surrogates next bs

/-- Reads bytes as UTF-8; whatever is not well formed is replaced. -/
def ofBytes (bs : List Nat) : List Char := (decoded false none bs).map fun c => c.getD '\ufffd'

/-- Reads bytes as UTF-8, with surrogates allowed; none when some of them are not well formed. -/
def ofBytes? (bs : List Nat) : Option (List Char) := (decoded true none bs).mapM fun c => c

/-- How the units of a text are made of bytes. -/
inductive Coding where
  | single
  | double (bigFirst : Bool)
  | quadruple (bigFirst : Bool)
  deriving DecidableEq, Repr

/-- The coding that the zeros among the first bytes tell. -/
def codingOf : List Nat → Coding
  | [0, _] => .double true
  | [_, 0] => .double false
  | 0 :: 0 :: _ :: _ :: _ => .quadruple true
  | 0 :: _ :: _ :: _ :: _ => .double true
  | _ :: 0 :: 0 :: 0 :: _ => .quadruple false
  | _ :: 0 :: _ :: _ :: _ => .double false
  | _ => .single

/-- The coding of some bytes, and the bytes without the byte order mark that tells it. -/
def unmarked : List Nat → Coding × List Nat
  | 0x00 :: 0x00 :: 0xfe :: 0xff :: bs => (.quadruple true, bs)
  | 0xff :: 0xfe :: 0x00 :: 0x00 :: bs => (.quadruple false, bs)
  | 0xfe :: 0xff :: bs => (.double true, bs)
  | 0xff :: 0xfe :: bs => (.double false, bs)
  | 0xef :: 0xbb :: 0xbf :: bs => (.single, bs)
  | bs => (codingOf bs, bs)

/-- Units of two bytes; none when a byte is left over. -/
def doubles? (bigFirst : Bool) : List Nat → Option (List Nat)
  | [] => some []
  | [_] => none
  | a :: b :: rest =>
    (doubles? bigFirst rest).map ((if bigFirst then a * 256 + b else b * 256 + a) :: ·)

/-- Units of four bytes as characters; none when bytes are left over or a unit is no character. -/
def quadruples? (bigFirst : Bool) : List Nat → Option (List Char)
  | [] => some []
  | a :: b :: c :: d :: rest =>
    let n := if bigFirst then ((a * 256 + b) * 256 + c) * 256 + d
      else ((d * 256 + c) * 256 + b) * 256 + a
    if n < 0x110000 then (quadruples? bigFirst rest).map (charOf n :: ·) else none
  | _ => none

/-- Units of sixteen bits as characters; a high surrogate joins with a low one after it. -/
def joinUnits : List Nat → List Char
  | [] => []
  | [n] => [charOf n]
  | n :: m :: rest =>
    if 0xd800 ≤ n ∧ n < 0xdc00 ∧ 0xdc00 ≤ m ∧ m < 0xe000 then
      charOf (0x10000 + (n - 0xd800) * 0x400 + (m - 0xdc00)) :: joinUnits rest
    else charOf n :: joinUnits (m :: rest)

/-- Reads bytes in the coding that they seem to have; none when some of them are not well formed. -/
def recoded? (bs : List Nat) : Option (List Char) :=
  match unmarked bs with
  | (.single, bs) => ofBytes? bs
  | (.double bigFirst, bs) => (doubles? bigFirst bs).map joinUnits
  | (.quadruple bigFirst, bs) => quadruples? bigFirst bs

end Concierge.Text
