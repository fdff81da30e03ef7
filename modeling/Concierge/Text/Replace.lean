/-!
# Occurrences of a text in a text

Search for a needle, replacement of all its occurrences from the left, and cuts at the first
occurrence of a character.
-/

namespace Concierge.Text

/-- The needle lies somewhere in the text. -/
def occursIn (needle : List Char) : List Char → Bool
  | [] => needle.isEmpty
  | c :: cs => needle.isPrefixOf (c :: cs) || occursIn needle cs

/-- Replaces the occurrences of a needle from the left; an occurrence is consumed before the next
one is looked for. The count says how many characters of the last occurrence are still to be
passed over. -/
def replaceFrom (needle value : List Char) : Nat → List Char → List Char
  | _, [] => []
  | skip + 1, _ :: cs => replaceFrom needle value skip cs
  | 0, c :: cs =>
    if needle.isPrefixOf (c :: cs) then value ++ replaceFrom needle value (needle.length - 1) cs
    else c :: replaceFrom needle value 0 cs

/-- Replaces all occurrences of a needle that is not empty. -/
def replaceAll (needle value cs : List Char) : List Char :=
  if needle.isEmpty then cs else replaceFrom needle value 0 cs

/-- The text before and after the first occurrence of a character. -/
def cutAt? (mark : Char) : List Char → Option (List Char × List Char)
  | [] => none
  | c :: cs =>
    if c == mark then some ([], cs)
    else (cutAt? mark cs).map fun (before, after) => (c :: before, after)

/-- The string that the needle lies in. -/
def contains (needle : String) (s : String) : Bool := occursIn needle.toList s.toList

/-- A string with all occurrences of a needle replaced. -/
def replaced (needle value s : String) : String :=
  String.ofList (replaceAll needle.toList value.toList s.toList)

/-- The first characters of a string. -/
def taken (n : Nat) (s : String) : String := String.ofList (s.toList.take n)

end Concierge.Text
