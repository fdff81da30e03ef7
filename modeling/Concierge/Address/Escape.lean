import Concierge.Json.Reader
import Concierge.Text.Bytes

/-!
# Escapes in addresses

A character that has a meaning of its own in a part of an address, or none at all, is written as its
bytes, each of them a percent sign and two hexadecimal digits. A percent sign is left as it is.
-/

namespace Concierge.Address

/-- A capital hexadecimal digit. -/
def capitalDigit (n : Nat) : Char :=
  if n < 10 then Char.ofNat ('0'.toNat + n) else Char.ofNat ('A'.toNat + (n - 10))

/-- A character as its bytes. -/
def escapedChar (c : Char) : List Char :=
  (Text.bytes [c]).flatMap fun b => ['%', capitalDigit (b / 16), capitalDigit (b % 16)]

/-- A character of printable ASCII, apart from some. -/
def isPlain (others : List Char) (c : Char) : Bool := ' ' ≤ c && c ≤ '~' && !others.contains c

/-- Escapes the characters that a part of an address may not hold. -/
def escape (others : List Char) (cs : List Char) : List Char :=
  cs.flatMap fun c => if isPlain others c then [c] else escapedChar c

/-- What a fragment may not hold. -/
def fragmentMarks : List Char := [' ', '"', '<', '>', '`']

/-- What a query may not hold. -/
def queryMarks : List Char := [' ', '"', '#', '<', '>']

/-- What a path may not hold. -/
def pathMarks : List Char := queryMarks ++ ['?', '`', '{', '}']

/-- What the name and the password of a user may not hold. -/
def userMarks : List Char := pathMarks ++ ['/', ';', '=', '@', '[', '\\', ']', '^', '|']

/-- What a host may not hold. -/
def hostMarks : List Char := [' ', '#', '/', ':', '<', '>', '?', '@', '[', ']', '^']

/-- The bytes of a text with its escapes undone. -/
def unescapedBytes : List Char → List Nat
  | [] => []
  | '%' :: a :: b :: cs =>
    match Json.hexValue? a, Json.hexValue? b with
    | some high, some low => (high * 16 + low) :: unescapedBytes cs
    | _, _ => '%'.toNat :: unescapedBytes (a :: b :: cs)
  | c :: cs => Text.bytes [c] ++ unescapedBytes cs

/-- A text with its escapes undone. -/
def unescape (cs : List Char) : List Char := Text.ofBytes (unescapedBytes cs)

/-- A digit of base 64. -/
def baseDigit (n : Nat) : Char :=
  if n < 26 then Char.ofNat ('A'.toNat + n)
  else if n < 52 then Char.ofNat ('a'.toNat + (n - 26))
  else if n < 62 then Char.ofNat ('0'.toNat + (n - 52))
  else if n = 62 then '+'
  else '/'

/-- Bytes in base 64. -/
def base64 : List Nat → List Char
  | [] => []
  | [a] => [baseDigit (a / 4), baseDigit (a % 4 * 16), '=', '=']
  | [a, b] => [baseDigit (a / 4), baseDigit (a % 4 * 16 + b / 16), baseDigit (b % 16 * 4), '=']
  | a :: b :: c :: rest =>
    baseDigit (a / 4) :: baseDigit (a % 4 * 16 + b / 16) :: baseDigit (b % 16 * 4 + c / 64) ::
      baseDigit (c % 64) :: base64 rest

end Concierge.Address
