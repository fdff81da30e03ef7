import Concierge.Console.Handler.Fault

/-!
# Tokens of expressions

An expression is read as names, numbers, quoted texts and operators. A token takes as many characters
as it can, and what is wrong with its characters, its quotes or the brackets around it is told before
anything else.
-/

namespace Concierge.Console.Handler

/-- What a quoted text holds. -/
inductive TextKind where
  | plain
  | bytes
  /-- Bytes, some of which are no ASCII characters. -/
  | wideBytes
  /-- Parts that have to be computed. -/
  | formatted
  deriving DecidableEq, Repr

/-- A part of an expression. -/
inductive Token where
  | name (cs : List Char)
  | number (isImaginary : Bool)
  | text (kind : TextKind)
  /-- An operator, a bracket or the end of a line behind which more follows. -/
  | mark (cs : List Char)
  /-- A backslash, which nothing that follows is read behind. -/
  | stray
  deriving DecidableEq, Repr

/-- A character of a name. -/
def isNameChar (c : Char) : Bool := Text.isWordChar c || 0x80 ≤ c.toNat

/-- An ASCII digit. -/
def isDigit (c : Char) : Bool := '0' ≤ c && c ≤ '9'

/-- The words that may follow a number directly; some of them count even when they go on. -/
def joiningWords : List (List Char) := ["and", "else", "for", "or", "not"].map String.toList

/-- The words that may follow a number directly, and count even when they go on. -/
def openWords : List (List Char) := ["if", "in", "is"].map String.toList

/-- Checks that a number in a notation ends before a text. -/
def checkEnd (kind : String) (rest : List Char) : Except SyntaxFault Unit :=
  let word := rest.takeWhile isNameChar
  if word.isEmpty || joiningWords.contains word || openWords.any (·.isPrefixOf word) then .ok ()
  else .error (.badNumber kind)

/-- The digits at the front of a text, single underscores among them, and the rest. -/
def digitsAt (kind : String) (isDigit : Char → Bool) :
    List Char → Except SyntaxFault (List Char × List Char)
  | [] => .ok ([], [])
  | '_' :: cs =>
    if (cs.head?.map isDigit).getD false then
      (digitsAt kind isDigit cs).map fun (ds, rest) => ('_' :: ds, rest)
    else .error (.badNumber kind)
  | c :: cs =>
    if isDigit c then (digitsAt kind isDigit cs).map fun (ds, rest) => (c :: ds, rest)
    else .ok ([], c :: cs)

/-- A hexadecimal digit. -/
def isHexDigit (c : Char) : Bool := isDigit c || ('a' ≤ c && c ≤ 'f') || ('A' ≤ c && c ≤ 'F')

/-- The notations of numbers by the letter that follows a zero, with their digits. -/
def notationOf : Char → Option (String × (Char → Bool))
  | 'x' | 'X' => some ("hexadecimal", isHexDigit)
  | 'o' | 'O' => some ("octal", fun c => '0' ≤ c && c ≤ '7')
  | 'b' | 'B' => some ("binary", fun c => '0' ≤ c && c ≤ '1')
  | _ => none

/-- What follows the letter of a notation: how many characters it takes. -/
def notatedAt (kind : String) (isDigit : Char → Bool) (cs : List Char) :
    Except SyntaxFault Nat := do
  let cs' := match cs with
    | '_' :: rest => rest
    | _ => cs
  match cs' with
  | c :: _ =>
    if !isDigit c then
      throw (if Handler.isDigit c && kind != "hexadecimal" then .badDigit c kind else .badNumber kind)
  | [] => throw (.badNumber kind)
  let (digits, rest) ← digitsAt kind isDigit cs
  match rest with
  | c :: _ => if Handler.isDigit c then throw (.badDigit c kind)
  | [] => pure ()
  checkEnd kind rest
  return digits.length

/-- An exponent at the front of a text: how many characters it takes, none if there is none. -/
def exponentAt : List Char → Except SyntaxFault Nat
  | mark :: rest => do
    if mark != 'e' && mark != 'E' then return 0
    let signs := match rest with
      | '+' :: _ | '-' :: _ => 1
      | _ => 0
    if ((rest.drop signs).head?.map isDigit).getD false then
      let (digits, _) ← digitsAt "decimal" isDigit (rest.drop signs)
      return 1 + signs + digits.length
    if signs = 1 then throw (.badNumber "decimal")
    checkEnd "decimal" (mark :: rest)
    return 0
  | [] => .ok 0

/-- The most digits of a whole decimal number. -/
def mostDigits : Nat := 4300

/-- The decimal number at the front of a text: how many characters it takes, and whether it is
imaginary. -/
def decimalAt (cs : List Char) : Except SyntaxFault (Nat × Bool) := do
  let (whole, rest) ← digitsAt "decimal" isDigit cs
  let point ← match rest with
    | '.' :: c :: more =>
      if isDigit c then (digitsAt "decimal" isDigit (c :: more)).map fun (ds, _) => 1 + ds.length
      else pure 1
    | ['.'] => pure 1
    | _ => pure 0
  let rest := rest.drop point
  let power ← exponentAt rest
  let rest := rest.drop power
  let imaginary := match rest with
    | 'j' :: _ | 'J' :: _ => 1
    | _ => 0
  let isPlain := point = 0 && power = 0 && imaginary = 0
  if isPlain && whole.head? == some '0' && whole.any (fun c => c != '0' && c != '_') then
    throw .leadingZeros
  checkEnd (if imaginary = 1 then "imaginary" else "decimal") (rest.drop imaginary)
  let digits := (whole.filter isDigit).length
  if isPlain && mostDigits < digits then throw (.tooManyDigits digits)
  return (whole.length + point + power + imaginary, imaginary = 1)

/-- The number at the front of a text: how many characters it takes, and whether it is imaginary. -/
def numberAt (cs : List Char) : Except SyntaxFault (Nat × Bool) :=
  match cs with
  | '0' :: letter :: rest =>
    match notationOf letter with
    | some (kind, isDigit) => (notatedAt kind isDigit rest).map fun n => (n + 2, false)
    | none => decimalAt cs
  | _ => decimalAt cs

/-- The characters of a quoted text up to and with its closing quote. -/
def quotedLength (quote : Char) : List Char → Option Nat
  | [] => none
  | '\\' :: _ :: cs => (quotedLength quote cs).map (· + 2)
  | c :: cs =>
    if c == quote then some 1
    else if c == '\n' then none
    else (quotedLength quote cs).map (· + 1)

/-- The characters of a block of text up to and with its three closing quotes. -/
def blockLength (quote : Char) : List Char → Option Nat
  | [] => none
  | '\\' :: _ :: cs => (blockLength quote cs).map (· + 2)
  | c :: cs =>
    if [quote, quote, quote].isPrefixOf (c :: cs) then some 3
    else (blockLength quote cs).map (· + 1)

/-- The length of the quoted text that begins with a quote, without that quote. -/
def textAt (quote : Char) (cs : List Char) : Except SyntaxFault Nat :=
  if [quote, quote].isPrefixOf cs then
    match blockLength quote (cs.drop 2) with
    | some n => .ok (n + 2)
    | none => .error .unterminatedBlock
  else
    match quotedLength quote cs with
    | some n => .ok n
    | none => .error .unterminatedText

/-- The letters that may stand in front of a quoted text. -/
def textPrefixes : List (List Char) :=
  ["r", "u", "b", "f", "br", "rb", "fr", "rf"].map String.toList

/-- The operators of more than one character. -/
def longMarks : List (List Char) :=
  ["**=", "//=", ">>=", "<<=", "...", "**", "//", ">>", "<<", "<=", ">=", "==", "!=", "->", "+=",
   "-=", "*=", "/=", "%=", "&=", "|=", "^=", "@=", ":="].map String.toList

/-- The operator at the front of a text. -/
def markAt (cs : List Char) : List Char := (longMarks.find? (·.isPrefixOf cs)).getD (cs.take 1)

/-- The bracket that a closing bracket belongs to. -/
def openingOf : Char → Char
  | ')' => '('
  | ']' => '['
  | _ => '{'

/-- The most brackets that can be open at a place. -/
def mostNested : Nat := 200

/-- The brackets that are open behind a character. -/
def nested (opened : List Char) (c : Char) : Except SyntaxFault (List Char) :=
  if c == '(' || c == '{' || c == '[' then
    if opened.length < mostNested then .ok (c :: opened) else .error .tooNested
  else if c == ')' || c == '}' || c == ']' then
    match opened with
    | [] => .error (.unmatched c)
    | o :: rest => if o == openingOf c then .ok rest else .error (.mismatched c o)
  else .ok opened

/-- Checks that all characters of a name are letters or digits. -/
def checkName (cs : List Char) : Except SyntaxFault Unit :=
  match cs.find? fun c => !Text.isWordChar c with
  | some c => .error (.strayCharacter c)
  | none => .ok ()

/-- What a quoted text with these letters in front of it holds. -/
def TextKind.ofLetters (letters quoted : List Char) : TextKind :=
  if letters.contains 'f' then .formatted
  else if letters.contains 'b' then
    if quoted.all fun c => c.toNat < 0x80 then .bytes else .wideBytes
  else .plain

/-- The token at the front of a text that does not begin with a space, and how many characters it
takes. -/
def tokenAt (c : Char) (cs : List Char) : Except SyntaxFault (Token × Nat) := do
  if isDigit c || (c == '.' && (cs.head?.map isDigit).getD false) then
    let (size, isImaginary) ← numberAt (c :: cs)
    return (.number isImaginary, size)
  if c == '\'' || c == '"' then return (.text .plain, (← textAt c cs) + 1)
  if isNameChar c then
    let word := c :: cs.takeWhile isNameChar
    match cs.drop (word.length - 1) with
    | quote :: rest =>
      let letters := word.map Char.toLower
      if (quote == '\'' || quote == '"') && textPrefixes.contains letters then
        let size ← textAt quote rest
        return (.text (.ofLetters letters (rest.take size)), word.length + 1 + size)
    | [] => pure ()
    checkName word
    return (.name word, word.length)
  let mark := markAt (c :: cs)
  return (.mark mark, mark.length)

/-- The tokens of a text. `skip` counts the characters of a token that are still to be passed over. -/
def tokensFrom (opened : List Char) : Nat → List Char → Except SyntaxFault (List Token)
  | _, [] => .ok []
  | skip + 1, _ :: cs => tokensFrom opened skip cs
  | 0, c :: cs =>
    if c == '\n' && opened.isEmpty then
      (tokensFrom opened 0 cs).map fun ts => if ts.isEmpty then [] else .mark ['\n'] :: ts
    else if c == ' ' || c == '\t' || c == '\x0c' || c == '\n' then tokensFrom opened 0 cs
    else if c == '#' then tokensFrom opened (cs.takeWhile (· != '\n')).length cs
    else if c == '\\' then .ok [.stray]
    else do
      let (t, size) ← tokenAt c cs
      let opened ← nested opened c
      return t :: (← tokensFrom opened (size - 1) cs)

end Concierge.Console.Handler
