import Concierge.Text.Blank
import Concierge.Value.Shown

/-!
# Single lines

What comes from a model is not trusted. As a single line it loses its markup tags and its control
characters, every run of blanks becomes one space, and the ends are trimmed.
-/

namespace Concierge.Clean

/-- Leaves out every stretch from a `<` to the next `>`. The flag says that a `<` has been read whose
`>` is still to come. -/
def dropTagsFrom : Bool → List Char → List Char
  | _, [] => []
  | true, c :: cs => dropTagsFrom (c != '>') cs
  | false, c :: cs =>
    if c == '<' && cs.contains '>' then dropTagsFrom true cs else c :: dropTagsFrom false cs

/-- A text without markup tags. -/
def dropTags (cs : List Char) : List Char := dropTagsFrom false cs

/-- A control character other than tab, line feed and carriage return. -/
def isControl (c : Char) : Bool :=
  let n := c.toNat
  n ≤ 8 || n == 0x0b || n == 0x0c || (0x0e ≤ n && n ≤ 0x1f) || n == 0x7f

/-- A text without control characters. -/
def dropControls (cs : List Char) : List Char := cs.filter fun c => !isControl c

/-- The characters of a single line. -/
def lineChars (cs : List Char) : List Char :=
  Text.strip (Text.squeeze Text.isBlank (dropControls (dropTags cs)))

/-- A value as a single line. -/
def line (v : Value) : Except NumberError String := v.asText.map fun s => String.ofList (lineChars s.toList)

end Concierge.Clean
