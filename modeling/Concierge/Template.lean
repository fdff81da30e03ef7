import Concierge.Text.Replace
import Concierge.Value.Access

/-!
# Templates

A template is a text with placeholders, names in braces. Values are put in one after another;
placeholders without a value are left as they are. What is put into markup is escaped before.
-/

namespace Concierge.Template

/-- The placeholder of a name. -/
def placeholder (name : String) : List Char := '\x7b' :: name.toList ++ ['\x7d']

/-- Puts in one value. -/
def fill (template : List Char) (entry : String × String) : List Char :=
  Text.replaceAll (placeholder entry.1) entry.2.toList template

/-- Puts in all values, one after another. -/
def render (template : String) (values : List (String × String)) : String :=
  String.ofList (values.foldl fill template.toList)

/-- Puts in one value, which can be done with a text under a name alone. -/
def fillValue (template : Value) (entry : Value × Value) : Except ShapeError Value :=
  match template, entry with
  | .text t, (.text name, .text s) => .ok (.text (String.ofList (fill t.toList (name, s))))
  | .text _, (.text _, v) => .error (.notReplacement v.kind)
  | .text _, (name, _) => .error (.notName name.kind)
  | v, _ => .error (.noPlaceholders v.kind)

/-- Puts in all values, one after another, whatever they are. -/
def renderValues (template : Value) (values : List (Value × Value)) : Except ShapeError Value :=
  values.foldlM fillValue template

/-- The escape of a character in markup. -/
def escapeChar (c : Char) : List Char :=
  if c = '&' then "&amp;".toList
  else if c = '<' then "&lt;".toList
  else if c = '>' then "&gt;".toList
  else if c = '"' then "&quot;".toList
  else if c = '\'' then "&#x27;".toList
  else [c]

/-- A text escaped for markup. -/
def escape (s : String) : String := String.ofList (s.toList.flatMap escapeChar)

end Concierge.Template
