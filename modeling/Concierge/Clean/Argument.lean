import Concierge.Clean.Block
import Concierge.Clean.Email
import Concierge.Clean.Number
import Concierge.Clean.Url
import Concierge.Value.Access

/-!
# Directive arguments

An argument is cleaned by the category that its name tells: an email address, a link, a whole
number, or a single line of text.
-/

namespace Concierge

/-- The category of an argument. -/
inductive Category where
  | email
  | url
  | number
  | line
  deriving DecidableEq, Repr

namespace Category

/-- The words that a name of a category holds. -/
def words : Category → List String
  | email => ["email", "mail"]
  | url => ["url", "link"]
  | number => ["id", "quantity", "count", "number"]
  | line => []

/-- The name holds a word of the category. -/
def claims (c : Category) (name : List Char) : Bool :=
  c.words.any fun w => Text.occursIn w.toList name

/-- The category of a name: the first one with a word in it, in letters of either case. -/
def ofName (name : String) : Category :=
  let name := Text.lowered name.toList
  if email.claims name then email
  else if url.claims name then url
  else if number.claims name then number
  else line

/-- Cleans a value by a category. -/
def clean (v : Value) : Category → Except CleanError Value
  | email => ((Clean.email v).map Value.text).mapError .number
  | url => (Clean.url v).map Value.text
  | number => ((Clean.number v).map fun n => Value.int n).mapError .number
  | line => ((Clean.line v).map Value.text).mapError .number

end Category

namespace Clean

/-- Cleans an argument by its name. -/
def argument (name : String) (v : Value) : Except CleanError Value := (Category.ofName name).clean v

/-- Cleans an argument by a name that may be any value. -/
def argumentNamed (name v : Value) : Except CleanError Value :=
  match name with
  | .text name => argument name v
  | other => .error (.shape (.noLetters other.kind))

/-- Cleans all arguments in order. -/
def arguments (params : Params) : Except CleanError Params :=
  params.mapM fun (name, v) => do return (name, ← argument name v)

end Clean

end Concierge
