import Concierge.Pattern.Reader

/-!
# Commands in brackets

A command is a tag and one or more arguments in brackets, with a colon before each argument. No
argument is empty or holds a closing bracket, and none but the last holds a colon.
-/

namespace Concierge.Pattern

/-- A group of one or more characters other than those of a list. -/
def argumentNode (index : Nat) (barred : List Char) : Node :=
  .group index (.loop 1 none true (.oneOf ⟨true, barred.map .char⟩))

/-- The expressions of the arguments from an index on, of which `more` follow the first. -/
def argumentNodes (index : Nat) : Nat → List Node
  | 0 => [.char ':', argumentNode index [']'], .char ']']
  | more + 1 => .char ':' :: argumentNode index [':', ']'] :: argumentNodes (index + 1) more

/-- The expressions of a command with a tag and `more + 1` arguments. -/
def commandNodes (tag : String) (more : Nat) : List Node :=
  .char '[' :: tag.toList.map .char ++ argumentNodes 0 more

/-- The text of the pattern of a command. -/
def commandSource (tag : String) (more : Nat) : String :=
  "\\[" ++ tag ++ String.join (List.replicate more ":([^:\\]]+)") ++ ":([^\\]]+)\\]"

/-- The pattern of a command with a tag and `more + 1` arguments. -/
def command (tag : String) (more : Nat) : Pattern :=
  .ofNode (commandSource tag more) (Node.sequence (commandNodes tag more)) (more + 1)

end Concierge.Pattern
