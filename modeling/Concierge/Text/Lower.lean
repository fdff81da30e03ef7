import Concierge.Text.Case
import Concierge.Text.Cased

/-!
# Small letters in context

The small form of a character is one character, but for the dotted capital `İ`, which leaves its dot
behind. A capital sigma has two small forms: the final one behind a letter that ends its word.
-/

namespace Concierge.Text

/-- A sigma between two texts, of which the first is given last character first, ends a word. -/
def endsWord (before rest : List Char) : Bool := meetsCased before && !meetsCased rest

/-- The small form of a character between two texts, of which the first is given last character
first. -/
def smallForm (before : List Char) (c : Char) (rest : List Char) : List Char :=
  if c = '\u0130' then ['i', '\u0307']
  else if c = '\u03a3' && endsWord before rest then ['\u03c2']
  else [smallLetter c]

/-- The small form of a text behind another one, which is given last character first. -/
def smallFrom (before : List Char) : List Char → List Char
  | [] => []
  | c :: cs => smallForm before c cs ++ smallFrom (c :: before) cs

/-- A text in small letters. -/
def small (cs : List Char) : List Char := smallFrom [] cs

end Concierge.Text
