import Concierge.Text.Letter
import Concierge.Text.Quoted

/-!
# Faults of expressions

What can be wrong with an expression that a tag holds, and how each fault is told.
-/

namespace Concierge.Console.Handler

/-- What is wrong with an expression. -/
inductive SyntaxFault where
  | invalid
  | missingComma
  | unterminatedText
  | unterminatedBlock
  | neverClosed (opening : Char)
  | unmatched (closing : Char)
  | mismatched (closing opening : Char)
  /-- A number in a notation of this name goes on with something else. -/
  | badNumber (kind : String)
  | badDigit (digit : Char) (kind : String)
  | leadingZeros
  | strayBackslash
  | strayCharacter (c : Char)
  | strayAssignment
  | assignedOperand
  /-- Something of this name cannot be assigned to, where a comparison may be meant. -/
  | comparedOperand (name : String)
  /-- A constant cannot be assigned to. -/
  | assignedConstant (name : String)
  | missingColon
  | missingEntry
  /-- A word of this name has to be followed by parentheses. -/
  | missingParentheses (word : String)
  | tooNested
  /-- A whole number has so many digits. -/
  | tooManyDigits (count : Nat)
  /-- Text and bytes stand side by side. -/
  | mixedTexts
  | wideBytes
  deriving DecidableEq, Repr

/-- The number of a character, with at least four digits. -/
def codeName (c : Char) : String :=
  let width := if c.toNat < 0x10000 then 4 else if c.toNat < 0x100000 then 5 else 6
  "U+" ++ String.ofList ((Text.hexDigits width c.toNat).map Char.toUpper)

/-- The wording of a fault in an expression. -/
def SyntaxFault.message : SyntaxFault → String
  | invalid => "invalid syntax"
  | missingComma => "invalid syntax. Perhaps you forgot a comma?"
  | unterminatedText => "unterminated string literal (detected at line 1)"
  | unterminatedBlock => "unterminated triple-quoted string literal (detected at line 1)"
  | neverClosed opening => "'" ++ opening.toString ++ "' was never closed"
  | unmatched closing => "unmatched '" ++ closing.toString ++ "'"
  | mismatched closing opening =>
    "closing parenthesis '" ++ closing.toString ++ "' does not match opening parenthesis '" ++
      opening.toString ++ "'"
  | badNumber kind => "invalid " ++ kind ++ " literal"
  | badDigit digit kind => "invalid digit '" ++ digit.toString ++ "' in " ++ kind ++ " literal"
  | leadingZeros =>
    "leading zeros in decimal integer literals are not permitted; " ++
      "use an 0o prefix for octal integers"
  | strayBackslash => "unexpected character after line continuation character"
  | strayCharacter c =>
    if Text.isPrintable c then "invalid character '" ++ c.toString ++ "' (" ++ codeName c ++ ")"
    else "invalid non-printable character " ++ codeName c
  | strayAssignment => "invalid syntax. Maybe you meant '==' or ':=' instead of '='?"
  | assignedOperand => "expression cannot contain assignment, perhaps you meant \"==\"?"
  | comparedOperand name =>
    "cannot assign to " ++ name ++ " here. Maybe you meant '==' instead of '='?"
  | assignedConstant name => "cannot assign to " ++ name
  | missingColon => "':' expected after dictionary key"
  | missingEntry => "expression expected after dictionary key and ':'"
  | missingParentheses word =>
    "Missing parentheses in call to '" ++ word ++ "'. Did you mean " ++ word ++ "(...)?"
  | tooNested => "too many nested parentheses"
  | tooManyDigits count =>
    "Exceeds the limit (4300 digits) for integer string conversion: value has " ++
      toString count ++ " digits; use sys.set_int_max_str_digits() to increase the limit - " ++
      "Consider hexadecimal for huge integer literals to avoid decimal conversion limits."
  | mixedTexts => "cannot mix bytes and nonbytes literals"
  | wideBytes => "bytes can only contain ASCII literal characters"

end Concierge.Console.Handler
