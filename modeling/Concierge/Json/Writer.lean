import Concierge.Value.Shown

/-!
# Writing JSON

A value is written as JSON in one of three styles: spaced, with every character outside printable ASCII
escaped; compact, with such characters kept; and strict, which is compact and has finite numbers only. An
integer of too many digits cannot be written in any style.
-/

namespace Concierge.Json

/-- How JSON is written. -/
structure Style where
  /-- Between two members. -/
  comma : String
  /-- Between a key and its value. -/
  colon : String
  /-- Characters outside printable ASCII are written as escapes. -/
  asciiOnly : Bool
  /-- A double that is not finite is refused. -/
  finiteOnly : Bool

/-- The style of reports: one space after a comma or colon, ASCII only. -/
def spaced : Style := ⟨", ", ": ", true, false⟩

/-- The style of what is kept: nothing but what the format needs. -/
def compact : Style := ⟨",", ":", false, false⟩

/-- The style of messages to a service. -/
def strict : Style := ⟨",", ":", false, true⟩

/-- The escape of one 16-bit unit. -/
def unitEscape (n : Nat) : List Char := '\\' :: 'u' :: Text.hexDigits 4 n

/-- The escape of a character: a pair of surrogates beyond the first plane. -/
def escape (c : Char) : List Char :=
  if c.toNat < 0x10000 then unitEscape c.toNat
  else
    let n := c.toNat - 0x10000
    unitEscape (0xd800 + n / 0x400) ++ unitEscape (0xdc00 + n % 0x400)

/-- One character of a JSON string. -/
def stringChar (asciiOnly : Bool) (c : Char) : List Char :=
  if c = '"' then ['\\', '"']
  else if c = '\\' then ['\\', '\\']
  else if c = '\n' then ['\\', 'n']
  else if c = '\r' then ['\\', 'r']
  else if c = '\t' then ['\\', 't']
  else if c = '\x08' then ['\\', 'b']
  else if c = '\x0c' then ['\\', 'f']
  else if c.toNat < 0x20 ∨ (asciiOnly ∧ 0x7e < c.toNat) then escape c
  else [c]

/-- A text as a JSON string. -/
def string (asciiOnly : Bool) (s : String) : String :=
  String.ofList ('"' :: s.toList.flatMap (stringChar asciiOnly) ++ ['"'])

/-- Doubles are written as their shortest text; what is no JSON number has a name. -/
def doubleLayout : Double.Layout := ⟨-3, 16, 2, "NaN", "Infinity"⟩

mutual

/-- Writes a value. -/
def write (style : Style) : Value → Except NumberError String
  | .null => .ok "null"
  | .bool true => .ok "true"
  | .bool false => .ok "false"
  | .int n => decimalText n
  | .double d =>
    if style.finiteOnly && d.truncated?.isNone then .error .notFinite else .ok (doubleLayout.text d)
  | .text s => .ok (string style.asciiOnly s)
  | .list items => do
    return "[" ++ String.intercalate style.comma (← writeItems style items) ++ "]"
  | .dict entries => do
    return "\x7b" ++ String.intercalate style.comma (← writeEntries style entries) ++ "\x7d"

/-- Writes the items of a list. -/
def writeItems (style : Style) : List Value → Except NumberError (List String)
  | [] => .ok []
  | v :: vs => do
    let first ← write style v
    return first :: (← writeItems style vs)

/-- Writes the entries of a dictionary. -/
def writeEntries (style : Style) : List (String × Value) → Except NumberError (List String)
  | [] => .ok []
  | (k, v) :: rest => do
    let first ← write style v
    return (string style.asciiOnly k ++ style.colon ++ first) :: (← writeEntries style rest)

end

end Concierge.Json
