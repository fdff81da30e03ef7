import Concierge.Text.Quoted

/-!
# The MD5 digest

A message is padded to blocks of sixteen words, and each block turns a state of four words by
sixty-four steps. The digest is the last state.
-/

namespace Concierge.Digest

/-- The state of the digest. -/
structure State where
  a : UInt32
  b : UInt32
  c : UInt32
  d : UInt32
  deriving DecidableEq, Repr

/-- The state before the first block. -/
def State.start : State := ⟨0x67452301, 0xefcdab89, 0x98badcfe, 0x10325476⟩

/-- The constants of the steps: the integer parts of `2 ^ 32 · |sin (i + 1)|`. -/
def sines : List UInt32 :=
  [0xd76aa478, 0xe8c7b756, 0x242070db, 0xc1bdceee, 0xf57c0faf, 0x4787c62a, 0xa8304613, 0xfd469501,
   0x698098d8, 0x8b44f7af, 0xffff5bb1, 0x895cd7be, 0x6b901122, 0xfd987193, 0xa679438e, 0x49b40821,
   0xf61e2562, 0xc040b340, 0x265e5a51, 0xe9b6c7aa, 0xd62f105d, 0x02441453, 0xd8a1e681, 0xe7d3fbc8,
   0x21e1cde6, 0xc33707d6, 0xf4d50d87, 0x455a14ed, 0xa9e3e905, 0xfcefa3f8, 0x676f02d9, 0x8d2a4c8a,
   0xfffa3942, 0x8771f681, 0x6d9d6122, 0xfde5380c, 0xa4beea44, 0x4bdecfa9, 0xf6bb4b60, 0xbebfbc70,
   0x289b7ec6, 0xeaa127fa, 0xd4ef3085, 0x04881d05, 0xd9d4d039, 0xe6db99e5, 0x1fa27cf8, 0xc4ac5665,
   0xf4292244, 0x432aff97, 0xab9423a7, 0xfc93a039, 0x655b59c3, 0x8f0ccc92, 0xffeff47d, 0x85845dd1,
   0x6fa87e4f, 0xfe2ce6e0, 0xa3014314, 0x4e0811a1, 0xf7537e82, 0xbd3af235, 0x2ad7d2bb, 0xeb86d391]

/-- The four rotations of each of the four rounds. -/
def rotations : List (List UInt32) :=
  [[7, 12, 17, 22], [5, 9, 14, 20], [4, 11, 16, 23], [6, 10, 15, 21]]

/-- The rotation of a step. -/
def rotation (i : Nat) : UInt32 := ((rotations.getD (i / 16) []).getD (i % 4) 0)

/-- The mixing function of a step. -/
def mix (i : Nat) (b c d : UInt32) : UInt32 :=
  match i / 16 with
  | 0 => (b &&& c) ||| (~~~b &&& d)
  | 1 => (d &&& b) ||| (~~~d &&& c)
  | 2 => b ^^^ c ^^^ d
  | _ => c ^^^ (b ||| ~~~d)

/-- The word of the block that a step takes. -/
def wordIndex (i : Nat) : Nat :=
  match i / 16 with
  | 0 => i
  | 1 => (5 * i + 1) % 16
  | 2 => (3 * i + 5) % 16
  | _ => 7 * i % 16

/-- A word rotated to the left. -/
def rotate (x n : UInt32) : UInt32 := (x <<< n) ||| (x >>> (32 - n))

/-- One step on a block. -/
def step (block : Array UInt32) (s : State) (i : Nat) (sine : UInt32) : State :=
  let turned := rotate (s.a + mix i s.b s.c s.d + sine + block.getD (wordIndex i) 0) (rotation i)
  ⟨s.d, s.b + turned, s.b, s.c⟩

/-- The steps of one block. -/
def compress (s : State) (block : Array UInt32) : State :=
  let t := (sines.zipIdx).foldl (fun t (sine, i) => step block t i sine) s
  ⟨s.a + t.a, s.b + t.b, s.c + t.c, s.d + t.d⟩

/-- The bytes of a number, the lowest first. -/
def littleEndian (count n : Nat) : List Nat :=
  (List.range count).map fun i => n / Nat.pow 256 i % 256

/-- A message padded to whole blocks: a one bit, zeros, and the number of bits in eight bytes. -/
def padded (bytes : List Nat) : List Nat :=
  let n := bytes.length
  bytes ++ 0x80 :: List.replicate ((119 - n % 64) % 64) 0 ++ littleEndian 8 (8 * n)

/-- The words of some bytes, each of four bytes with the lowest first. -/
def words : List Nat → List UInt32
  | a :: b :: c :: d :: rest =>
    UInt32.ofNat (a + 256 * (b + 256 * (c + 256 * d))) :: words rest
  | _ => []

/-- The digest of the blocks among some words. -/
def digestWords (count : Nat) (s : State) (ws : List UInt32) : State :=
  match count with
  | 0 => s
  | n + 1 => digestWords n (compress s (ws.take 16).toArray) (ws.drop 16)

/-- The hexadecimal digits of a word, its lowest byte first. -/
def hexWord (w : UInt32) : List Char :=
  (littleEndian 4 w.toNat).flatMap (Text.hexDigits 2)

/-- The hexadecimal digits of the digest of a text. -/
def md5 (s : String) : String :=
  let ws := words (padded (s.toUTF8.toList.map UInt8.toNat))
  let t := digestWords (ws.length / 16) .start ws
  String.ofList (hexWord t.a ++ hexWord t.b ++ hexWord t.c ++ hexWord t.d)

end Concierge.Digest
