import Concierge.Clean.Line
import Concierge.Text.Replace

/-!
# Blocks of lines

A block is cleaned as a line is, but keeps its line feeds: blanks are squeezed and trimmed within
each line, and the ends of the whole block are trimmed.
-/

namespace Concierge.Clean

/-- A space, tab, carriage return, form feed or vertical tab. -/
def isSpacing (c : Char) : Bool :=
  c == ' ' || c == '\t' || c == '\r' || c == '\x0c' || c == '\x0b'

/-- One line of a block. -/
def blockLine (cs : List Char) : List Char := Text.strip (Text.squeeze isSpacing cs)

/-- The lines of a block before they are cleaned. A carriage return before a line feed belongs to
the line feed. -/
def blockLines (cs : List Char) : List (List Char) :=
  Text.split (· == '\n')
    (dropControls (Text.replaceAll ['\r', '\n'] ['\n'] (dropTags cs)))

/-- The characters of a block. -/
def blockChars (cs : List Char) : List Char :=
  Text.strip (List.intercalate ['\n'] ((blockLines cs).map blockLine))

/-- A value as a block of lines. -/
def block (v : Value) : Except NumberError String :=
  v.asText.map fun s => String.ofList (blockChars s.toList)

end Concierge.Clean
