import Concierge.Text.Blank
import Concierge.Text.Case
import Concierge.Text.Digit
import Concierge.Text.Letter

/-!
# Command patterns

A command pattern is a regular expression that pays no regard to case. It is built of single
characters and classes of them, of the places where a text or a word begins or ends, and of
sequences, choices, captured groups and repetitions.
-/

namespace Concierge.Pattern

/-- One member of a character class. -/
inductive ClassItem where
  | char (c : Char)
  | range (low high : Char)
  | digit
  | notDigit
  | blank
  | notBlank
  | word
  | notWord
  deriving DecidableEq, Repr

/-- A class of characters: those of its members, or all others. -/
structure CharClass where
  negated : Bool
  items : List ClassItem
  deriving DecidableEq, Repr

/-- A regular expression. -/
inductive Node where
  /-- Matches nothing and succeeds. -/
  | empty
  /-- One letter in either case, or one other character. -/
  | char (c : Char)
  /-- Any character but a line feed. -/
  | any
  /-- A character of a class. -/
  | oneOf (c : CharClass)
  /-- The start of the text. -/
  | start
  /-- The end of the text, or the place before a line feed that ends it. -/
  | finish
  /-- The edge of a word. -/
  | edge
  /-- A place that is no edge of a word. -/
  | notEdge
  | seq (first second : Node)
  | alt (first second : Node)
  /-- Records what its body matches under a number, counted from zero. -/
  | group (index : Nat) (body : Node)
  /-- Repeats its body, at least and at most as often as told; a greedy repetition prefers more
  rounds, any other fewer. -/
  | loop (least : Nat) (most : Option Nat) (greedy : Bool) (body : Node)
  deriving DecidableEq, Repr

/-- Expressions one after another. -/
def Node.sequence : List Node → Node
  | [] => empty
  | n :: ns => ns.foldl seq n

/-- A range of characters holds a letter in some case: its key lies in the range, or a letter of the
range has that key. -/
def rangeHolds (low high c : Char) : Bool :=
  let key := Text.caseKey c
  (low ≤ key && key ≤ high) ||
    Text.capitalKeys.any fun (n, k) => k == key && low.toNat ≤ n && n ≤ high.toNat

/-- A member of a class holds a character. -/
def ClassItem.holds (c : Char) : ClassItem → Bool
  | char x => Text.sameLetter x c
  | range low high => rangeHolds low high c
  | digit => Text.isDigit c
  | notDigit => !Text.isDigit c
  | blank => Text.isBlank c
  | notBlank => !Text.isBlank c
  | word => Text.isWordChar c
  | notWord => !Text.isWordChar c

/-- A class holds a character. -/
def CharClass.holds (k : CharClass) (c : Char) : Bool :=
  (k.items.any (ClassItem.holds c)) != k.negated

end Concierge.Pattern
