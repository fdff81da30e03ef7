import Concierge.Value.Shown

/-!
# Values that do not fit

A value that does not fit a field of a configuration is a misfit of some kind. All misfits of a
configuration are reported together, each with its field, the value, and where to read about it.
-/

namespace Concierge.Config

/-- Why a value does not fit a field. -/
inductive Misfit where
  | noInteger
  | notReadableInteger
  | hugeInteger
  | fractional
  | notFinite
  /-- The integer is less than the least one that is allowed. -/
  | below (least : Int)
  | noSwitch
  | notReadableSwitch
  | noText
  /-- The text is none of some choices. -/
  | noChoice (choices : List String)
  deriving DecidableEq, Repr

namespace Misfit

/-- The word for a misfit. -/
def word : Misfit → String
  | noInteger => "int_type"
  | notReadableInteger => "int_parsing"
  | hugeInteger => "int_parsing_size"
  | fractional => "int_from_float"
  | notFinite => "finite_number"
  | below _ => "greater_than_equal"
  | noSwitch => "bool_type"
  | notReadableSwitch => "bool_parsing"
  | noText => "string_type"
  | noChoice _ => "literal_error"

/-- Choices in quotes, the last one behind an `or`. -/
def listed (choices : List String) : String :=
  let quoted := choices.map Text.quoted
  match quoted.getLast? with
  | some final =>
    let others := quoted.dropLast
    if others.isEmpty then final else String.intercalate ", " others ++ " or " ++ final
  | none => ""

/-- What a value should have been. -/
def message : Misfit → String
  | noInteger => "Input should be a valid integer"
  | notReadableInteger => "Input should be a valid integer, unable to parse string as an integer"
  | hugeInteger => "Unable to parse input string as an integer, exceeded maximum size"
  | fractional => "Input should be a valid integer, got a number with a fractional part"
  | notFinite => "Input should be a finite number"
  | below least => "Input should be greater than or equal to " ++ toString least
  | noSwitch => "Input should be a valid boolean"
  | notReadableSwitch => "Input should be a valid boolean, unable to interpret input"
  | noText => "Input should be a valid string"
  | noChoice choices => "Input should be " ++ listed choices

end Misfit

/-- A field whose value does not fit. -/
structure Problem where
  field : String
  misfit : Misfit
  given : Value
  deriving DecidableEq

/-- The longest prefix of a text that takes no more than a number of bytes. -/
def bytesAtMost : Nat → List Char → List Char
  | _, [] => []
  | budget, c :: cs =>
    if c.utf8Size ≤ budget then c :: bytesAtMost (budget - c.utf8Size) cs else []

/-- A text of at most 50 bytes; of a longer one only the ends are left. -/
def abridged (s : String) : String :=
  if s.utf8ByteSize ≤ 50 then s
  else
    let ending := (bytesAtMost 24 s.toList.reverse).reverse
    String.ofList (bytesAtMost 25 s.toList ++ "...".toList ++ ending)

/-- The site that describes misfits. -/
def describingSite : String := "errors.pydantic.dev"

/-- Where misfits are described. -/
def manual : String := "https://" ++ describingSite ++ "/2.14/v/"

namespace Problem

/-- The value that was given, or its kind if it cannot be shown. -/
def givenText (p : Problem) : String :=
  p.given.literal.toOption.getD ("<unprintable " ++ p.given.kind ++ " object>")

/-- The lines about one problem. -/
def lines (p : Problem) : List String :=
  [p.field,
   "  " ++ p.misfit.message ++ " [type=" ++ p.misfit.word ++ ", input_value=" ++
     abridged p.givenText ++ ", input_type=" ++ p.given.kind ++ "]",
   "    For further information visit " ++ manual ++ p.misfit.word]

/-- The wording of several problems, as an administrator reads it. -/
def message (problems : List Problem) : String :=
  let count := toString problems.length ++ " validation error" ++
    (if problems.length = 1 then "" else "s") ++ " for AssistantConfig"
  String.intercalate "\n" (count :: problems.flatMap lines)

end Problem

end Concierge.Config
