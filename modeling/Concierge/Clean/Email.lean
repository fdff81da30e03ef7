import Concierge.Text.Blank
import Concierge.Text.Case
import Concierge.Value.Shown

/-!
# Email addresses

An address is a local part, an `@` and a domain of at least two labels. Characters that cannot
stand in a part are left out of it, labels that become empty are dropped, and what cannot be made
an address becomes the empty text.
-/

namespace Concierge.Clean

/-- An ASCII letter or digit. -/
def isAsciiAlnum (c : Char) : Bool :=
  ('a' ≤ c && c ≤ 'z') || ('A' ≤ c && c ≤ 'Z') || ('0' ≤ c && c ≤ '9')

/-- The characters other than letters and digits that a local part may hold. -/
def localMarks : List Char := "!#$%&'*+/=?^_`\x7b|\x7d~.-".toList

/-- A character of a local part. -/
def isLocalChar (c : Char) : Bool := isAsciiAlnum c || localMarks.contains c

/-- A character of a domain label. -/
def isLabelChar (c : Char) : Bool :=
  ('a' ≤ c && c ≤ 'z') || ('0' ≤ c && c ≤ '9') || c == '-'

/-- A label in small letters, without what it cannot hold and without hyphens at its ends. -/
def label (cs : List Char) : List Char := Text.trim (· == '-') (cs.filter isLabelChar)

/-- The labels of a domain. -/
def labels (domain : List Char) : List (List Char) :=
  ((Text.split (· == '.') (Text.lowered domain)).map label).filter fun l => !l.isEmpty

/-- An address of its two parts, or the empty text. -/
def address (localPart domain : List Char) : List Char :=
  let name := localPart.filter isLocalChar
  let parts := labels domain
  if name.isEmpty || parts.length < 2 then []
  else name ++ '@' :: List.intercalate ['.'] parts

/-- The characters of an email address. -/
def emailChars (cs : List Char) : List Char :=
  match Text.split (· == '@') (Text.strip cs) with
  | [localPart, domain] => address localPart domain
  | _ => []

/-- A value as an email address. -/
def email (v : Value) : Except NumberError String :=
  v.asText.map fun s => String.ofList (emailChars s.toList)

end Concierge.Clean
