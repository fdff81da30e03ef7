import Concierge.Number.Reading
import Concierge.Value.Basic

/-!
# Reading JSON

A reader for one value with white space around it. Numbers without fraction and exponent are
integers, all others doubles; `NaN` and the two infinities are accepted by name. Of several entries
with one key the last counts. Each nested value consumes at least its first character, so that the
length of the text bounds the depth of the reader's recursion. A reader may also refuse values that are nested
deeper than it allows.
-/

namespace Concierge.Json

/-- Why a text cannot be read. -/
inductive ReadError where
  /-- The text is no JSON value. -/
  | malformed
  /-- A value of a kind, `array` or `object`, is nested too deeply. -/
  | tooNested (kind : String)
  deriving DecidableEq, Repr

/-- What can be read, or else a malformed text. -/
def wellFormed {α : Type} (found : Option α) : Except ReadError α :=
  match found with
  | some a => .ok a
  | none => .error .malformed

/-- White space between the tokens of JSON. -/
def isSpace (c : Char) : Bool := c == ' ' || c == '\t' || c == '\n' || c == '\r'

/-- The text without white space at its front. -/
def skipSpace (cs : List Char) : List Char := cs.dropWhile isSpace

/-- The value of a hexadecimal digit. -/
def hexValue? (c : Char) : Option Nat :=
  if '0' ≤ c ∧ c ≤ '9' then some (c.toNat - '0'.toNat)
  else if 'a' ≤ c ∧ c ≤ 'f' then some (c.toNat - 'a'.toNat + 10)
  else if 'A' ≤ c ∧ c ≤ 'F' then some (c.toNat - 'A'.toNat + 10)
  else none

/-- Four hexadecimal digits. -/
def unit? : List Char → Option (Nat × List Char)
  | a :: b :: c :: d :: rest => do
    let a ← hexValue? a
    let b ← hexValue? b
    let c ← hexValue? c
    let d ← hexValue? d
    return (((a * 16 + b) * 16 + c) * 16 + d, rest)
  | _ => none

/-- The character of a one-letter escape. -/
def shortEscape? : Char → Option Char
  | '"' => some '"'
  | '\\' => some '\\'
  | '/' => some '/'
  | 'b' => some '\x08'
  | 'f' => some '\x0c'
  | 'n' => some '\n'
  | 'r' => some '\r'
  | 't' => some '\t'
  | _ => none

/-- The character of a unit escape whose first unit has been read; a high surrogate joins with a
low one after it. -/
def unitChar (n : Nat) (rest : List Char) : Char × List Char :=
  if 0xd800 ≤ n ∧ n < 0xdc00 then
    match rest with
    | '\\' :: 'u' :: after =>
      match unit? after with
      | some (m, after) =>
        if 0xdc00 ≤ m ∧ m < 0xe000 then
          (Char.ofNat (0x10000 + (n - 0xd800) * 0x400 + (m - 0xdc00)), after)
        else ('\ufffd', rest)
      | none => ('\ufffd', rest)
    | _ => ('\ufffd', rest)
  else if 0xdc00 ≤ n ∧ n < 0xe000 then ('\ufffd', rest)
  else (Char.ofNat n, rest)

/-- The characters of a string up to its closing quote, and the rest. -/
def stringBody : Nat → List Char → Option (List Char × List Char)
  | 0, _ => none
  | _ + 1, [] => none
  | _ + 1, '"' :: rest => some ([], rest)
  | fuel + 1, '\\' :: 'u' :: rest => do
    let (n, rest) ← unit? rest
    let (c, rest) := unitChar n rest
    let (cs, rest) ← stringBody fuel rest
    return (c :: cs, rest)
  | fuel + 1, '\\' :: mark :: rest => do
    let c ← shortEscape? mark
    let (cs, rest) ← stringBody fuel rest
    return (c :: cs, rest)
  | fuel + 1, c :: rest =>
    if c.toNat < 0x20 ∨ c = '\\' then none
    else do
      let (cs, rest) ← stringBody fuel rest
      return (c :: cs, rest)

/-- A string whose opening quote has been read. -/
def string? (cs : List Char) : Option (String × List Char) :=
  (stringBody (cs.length + 1) cs).map fun (body, rest) => (String.ofList body, rest)

/-- An ASCII digit. -/
def isAsciiDigit (c : Char) : Bool := '0' ≤ c && c ≤ '9'

/-- The digits at the front of a text and the rest of it. -/
def digits (cs : List Char) : List Nat × List Char :=
  ((cs.takeWhile isAsciiDigit).map fun c => c.toNat - '0'.toNat, cs.dropWhile isAsciiDigit)

/-- The fraction at the front of a text, if there is one. -/
def fraction (cs : List Char) : List Nat × List Char :=
  match cs with
  | '.' :: after =>
    match digits after with
    | ([], _) => ([], cs)
    | found => found
  | _ => ([], cs)

/-- The exponent at the front of a text, if there is one. -/
def exponent (cs : List Char) : Option Int × List Char :=
  match cs with
  | mark :: after =>
    if mark == 'e' || mark == 'E' then
      let (negative, body) := Reading.sign after
      match digits body with
      | ([], _) => (none, cs)
      | (ds, rest) =>
        let n := Reading.ofDigits ds
        (some (if negative then -(n : Int) else n), rest)
    else (none, cs)
  | [] => (none, [])

/-- The digits of a number before its point and the rest. A zero is not followed by further digits. -/
def wholeDigits : List Char → List Nat × List Char
  | '0' :: after => ([0], after)
  | cs => digits cs

/-- A number without its sign. -/
def number? (negative : Bool) (cs : List Char) : Option (Value × List Char) :=
  let (whole, rest) := wholeDigits cs
  if whole.isEmpty then none
  else
    let (part, rest) := fraction rest
    let (power, rest) := exponent rest
    if part.isEmpty && power.isNone then
      match Reading.boundedNat whole with
      | .ok n => some (.int (if negative then -(n : Int) else n), rest)
      | .error _ => none
    else
      let ds := whole ++ part
      let power := power.getD 0 - part.length
      some (.double (Reading.scaledDecimal negative (Reading.ofDigits ds) ds.length power), rest)

/-- The names of values and what they stand for. -/
def names : List (List Char × Value) :=
  [("null".toList, .null), ("true".toList, .bool true), ("false".toList, .bool false),
   ("NaN".toList, .double Double.nan), ("Infinity".toList, .double (Double.infinity false)),
   ("-Infinity".toList, .double (Double.infinity true))]

/-- A value that is written as a name. -/
def named? (cs : List Char) : Option (Value × List Char) :=
  (names.find? fun (name, _) => name.isPrefixOf cs).map fun (name, v) => (v, cs.drop name.length)

/-- A value that is neither a list nor a dictionary. -/
def scalar? (cs : List Char) : Option (Value × List Char) :=
  match named? cs with
  | some found => some found
  | none =>
    match cs with
    | '"' :: rest => (string? rest).map fun (s, rest) => (.text s, rest)
    | '-' :: rest => number? true rest
    | _ => number? false cs

mutual

/-- A value at the front of a text, which may be nested so deeply, and the rest. -/
def value (depth : Nat) : Nat → List Char → Except ReadError (Value × List Char)
  | 0, _ => .error .malformed
  | fuel + 1, cs =>
    match cs, depth with
    | '[' :: _, 0 => .error (.tooNested "array")
    | '\x7b' :: _, 0 => .error (.tooNested "object")
    | '[' :: rest, depth + 1 =>
      match skipSpace rest with
      | ']' :: rest => .ok (.list [], rest)
      | rest => (items depth fuel rest).map fun (vs, rest) => (.list vs, rest)
    | '\x7b' :: rest, depth + 1 =>
      match skipSpace rest with
      | '\x7d' :: rest => .ok (.dict [], rest)
      | rest => (entries depth fuel rest).map fun (es, rest) => (.dict (Dict.ofEntries es), rest)
    | _, _ => wellFormed (scalar? cs)

/-- The items of a list up to its closing bracket. -/
def items (depth : Nat) : Nat → List Char → Except ReadError (List Value × List Char)
  | 0, _ => .error .malformed
  | fuel + 1, cs => do
    let (v, rest) ← value depth fuel cs
    match skipSpace rest with
    | ',' :: rest =>
      let (vs, rest) ← items depth fuel (skipSpace rest)
      return (v :: vs, rest)
    | ']' :: rest => return ([v], rest)
    | _ => throw .malformed

/-- The entries of a dictionary up to its closing brace. -/
def entries (depth : Nat) : Nat → List Char → Except ReadError (List (String × Value) × List Char)
  | 0, _ => .error .malformed
  | fuel + 1, cs =>
    match cs with
    | '"' :: rest => do
      let (key, rest) ← wellFormed (string? rest)
      match skipSpace rest with
      | ':' :: rest =>
        let (v, rest) ← value depth fuel (skipSpace rest)
        match skipSpace rest with
        | ',' :: rest =>
          let (es, rest) ← entries depth fuel (skipSpace rest)
          return ((key, v) :: es, rest)
        | '\x7d' :: rest => return ([(key, v)], rest)
        | _ => throw .malformed
      | _ => throw .malformed
    | _ => .error .malformed

end

/-- Reads a text that is one JSON value, nested no deeper than a limit. -/
def readWithin (depth : Nat) (s : String) : Except ReadError Value := do
  let (v, rest) ← value depth (2 * s.length + 2) (skipSpace s.toList)
  if (skipSpace rest).isEmpty then return v else throw .malformed

/-- Reads a text that is one JSON value. -/
def read? (s : String) : Option Value := (readWithin s.length s).toOption

end Concierge.Json
