import Concierge.Text.Quoted

/-!
# Texts in ASCII

A header can only hold ASCII. A text that holds other characters is refused, and the first run of them
is named.
-/

namespace Concierge.Text

/-- The first run of characters that are not ASCII. -/
structure AsciiError where
  first : Char
  /-- Where the run starts. -/
  start : Nat
  /-- Where the last character of the run is. -/
  last : Nat
  deriving DecidableEq, Repr

/-- The wording of the error. -/
def AsciiError.message (e : AsciiError) : String :=
  "'ascii' codec can't encode character" ++
    (if e.start = e.last then
      " '" ++ String.ofList (codeEscape e.first) ++ "' in position " ++ toString e.start
    else "s in position " ++ toString e.start ++ "-" ++ toString e.last) ++
    ": ordinal not in range(128)"

/-- Checks that a text is ASCII. -/
def checkAscii (s : String) : Except AsciiError Unit :=
  let plain := s.toList.takeWhile (·.toNat < 0x80)
  match s.toList.drop plain.length with
  | [] => .ok ()
  | c :: cs =>
    .error ⟨c, plain.length, plain.length + (cs.takeWhile (0x80 ≤ ·.toNat)).length⟩

end Concierge.Text
