import Concierge.Sequence
import Concierge.Text.Blank

/-!
# Excerpts

The first words of a text, with single spaces between them. Three dots at the end tell that the text
goes on.
-/

namespace Concierge.Text

/-- Words with single spaces between them. -/
def spaced (ws : List (List Char)) : List Char := List.intercalate [' '] ws

/-- The words of a text up to a limit. -/
def excerpt (limit : Int) (s : String) : String :=
  let ws := words s.toList
  if (ws.length : Int) ≤ limit then String.ofList (spaced ws)
  else String.ofList (spaced (front limit ws) ++ "...".toList)

end Concierge.Text
