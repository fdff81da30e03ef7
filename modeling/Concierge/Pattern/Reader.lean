import Concierge.Json.Reader
import Concierge.Pattern.Engine
import Concierge.Text.Replace

/-!
# Reading command patterns

The text of a pattern is first cut into tokens, single characters and characters behind a backslash,
and then read by recursive descent. A backslash at the very end is an error as soon as the token
before it has been read. Every error has a kind and a position, counted in characters.

The reader knows the expressions of `Node` only. It refuses constructs beyond them by a fault of their own:
lookaround, references to groups, named and atomic groups, conditions, flags within a pattern, possessive
repetitions, and the marks of the ends of a text. A pattern with such a construct comes from another
reader, and definitions, search and display take it as they take any pattern.
-/

namespace Concierge

/-- What is wrong with the text of a pattern. -/
inductive PatternFault where
  | danglingBackslash
  | badEscape (escape : String)
  | incompleteEscape (escape : String)
  | octalOutOfRange (escape : String)
  | unknownGroup (number : Nat)
  | unterminatedClass
  | badRange (low high : String)
  | nothingToRepeat
  | doubleRepeat
  | reversedBounds
  | hugeBound
  | unterminatedGroup
  | unterminatedComment
  | unbalancedParenthesis
  | unexpectedEnd
  | unknownExtension (mark : String)
  /-- A construct that command patterns do not have. -/
  | unsupported
  deriving DecidableEq, Repr

/-- A fault, and where it is. -/
structure PatternError where
  fault : PatternFault
  position : Nat
  deriving DecidableEq, Repr

/-- The wording of a fault. -/
def PatternFault.message : PatternFault → String
  | danglingBackslash => "bad escape (end of pattern)"
  | badEscape escape => "bad escape " ++ escape
  | incompleteEscape escape => "incomplete escape " ++ escape
  | octalOutOfRange escape => "octal escape value " ++ escape ++ " outside of range 0-0o377"
  | unknownGroup number => "invalid group reference " ++ toString number
  | unterminatedClass => "unterminated character set"
  | badRange low high => "bad character range " ++ low ++ "-" ++ high
  | nothingToRepeat => "nothing to repeat"
  | doubleRepeat => "multiple repeat"
  | reversedBounds => "min repeat greater than max repeat"
  | hugeBound => "the repetition number is too large"
  | unterminatedGroup => "missing ), unterminated subpattern"
  | unterminatedComment => "missing ), unterminated comment"
  | unbalancedParenthesis => "unbalanced parenthesis"
  | unexpectedEnd => "unexpected end of pattern"
  | unknownExtension mark => "unknown extension " ++ mark
  | unsupported => "unsupported construct"

/-- The wording of an error in a pattern. A pattern of several lines has line and column named. -/
def PatternError.message (e : PatternError) (source : String) : String :=
  let base := e.fault.message ++ " at position " ++ toString e.position
  if source.toList.contains '\n' then
    let before := source.toList.take e.position
    let line := before.count '\n' + 1
    let column := (before.reverse.takeWhile (· != '\n')).length + 1
    base ++ " (line " ++ toString line ++ ", column " ++ toString column ++ ")"
  else base

namespace Pattern

/-- A character of a pattern, or a character behind a backslash. -/
inductive Token where
  | plain (c : Char)
  | escaped (c : Char)
  | dangling
  deriving DecidableEq, Repr

/-- The number of characters of a token. -/
def Token.length : Token → Nat
  | escaped _ => 2
  | _ => 1

/-- The characters of a token. -/
def Token.text : Token → List Char
  | plain c => [c]
  | escaped c => ['\\', c]
  | dangling => ['\\']

/-- Cuts the text of a pattern into tokens. -/
def tokens : List Char → List Token
  | [] => []
  | ['\\'] => [.dangling]
  | '\\' :: c :: cs => .escaped c :: tokens cs
  | c :: cs => .plain c :: tokens cs

/-- The unread part of a pattern and where it begins. -/
structure Source where
  tokens : List Token
  position : Nat

namespace Source

/-- Refuses a source whose next token is a backslash with nothing behind it. -/
def settled (s : Source) : Except PatternError Source :=
  match s.tokens with
  | .dangling :: _ => .error ⟨.danglingBackslash, s.position⟩
  | _ => .ok s

/-- The source behind its next token. -/
def advance (s : Source) : Except PatternError Source :=
  match s.tokens with
  | [] => .ok s
  | t :: ts => settled ⟨ts, s.position + t.length⟩

/-- The next token is the given character. -/
def nextIs (s : Source) (c : Char) : Bool := s.tokens.head? == some (.plain c)

/-- The source behind the given character, if that comes next. -/
def skip? (s : Source) (c : Char) : Except PatternError (Option Source) :=
  if s.nextIs c then some <$> s.advance else .ok none

/-- An error at the current position, or some characters before it. -/
def fail {α : Type} (s : Source) (fault : PatternFault) (back : Nat := 0) :
    Except PatternError α :=
  .error ⟨fault, s.position - back⟩

/-- Up to `n` characters of a class, and the source behind them. -/
def takeUpTo (p : Char → Bool) : Nat → Source → Except PatternError (List Char × Source)
  | 0, s => .ok ([], s)
  | n + 1, s =>
    match s.tokens with
    | .plain c :: _ =>
      if p c then do
        let (cs, rest) ← takeUpTo p n (← s.advance)
        return (c :: cs, rest)
      else .ok ([], s)
    | _ => .ok ([], s)

end Source

/-- An ASCII digit. -/
def isAsciiDigit (c : Char) : Bool := '0' ≤ c && c ≤ '9'

/-- An octal digit. -/
def isOctal (c : Char) : Bool := '0' ≤ c && c ≤ '7'

/-- A hexadecimal digit. -/
def isHex (c : Char) : Bool := (Json.hexValue? c).isSome

/-- The number that digits stand for in a base. -/
def numeral (base : Nat) (cs : List Char) : Nat :=
  cs.foldl (fun n c => n * base + (Json.hexValue? c).getD 0) 0

/-- The classes that have an escape of their own. -/
def classEscape? : Char → Option ClassItem
  | 'd' => some .digit
  | 'D' => some .notDigit
  | 's' => some .blank
  | 'S' => some .notBlank
  | 'w' => some .word
  | 'W' => some .notWord
  | _ => none

/-- The control characters that have an escape of their own. -/
def controlEscape? : Char → Option Char
  | 'a' => some '\x07'
  | 'f' => some '\x0c'
  | 'n' => some '\n'
  | 'r' => some '\r'
  | 't' => some '\t'
  | 'v' => some '\x0b'
  | '\\' => some '\\'
  | _ => none

/-- The character with a code given by exactly `width` hexadecimal digits behind the escape
`\x`, `\u` or `\U`, which has been read. -/
def hexEscape (mark : Char) (width : Nat) (s : Source) : Except PatternError (Char × Source) := do
  let (digits, s) ← s.takeUpTo isHex width
  let text := '\\' :: mark :: digits
  if digits.length ≠ width then s.fail (.incompleteEscape (String.ofList text)) text.length
  let code := numeral 16 digits
  if 0x10ffff < code then s.fail (.badEscape (String.ofList text)) text.length
  return (Char.ofNat code, s)

/-- The number of hexadecimal digits of an escape. -/
def hexWidth? : Char → Option Nat
  | 'x' => some 2
  | 'u' => some 4
  | 'U' => some 8
  | _ => none

/-- An escape that stands for one character: by its code in hexadecimal, or for itself unless it is
a letter. -/
def charEscape (c : Char) (s : Source) : Except PatternError (Char × Source) :=
  match hexWidth? c with
  | some width => hexEscape c width s
  | none =>
    if c.isAlpha || isAsciiDigit c then s.fail (.badEscape (String.ofList ['\\', c])) 2
    else .ok (c, s)

/-- A character with an octal code. -/
def octalChar (digits : List Char) (s : Source) : Except PatternError (Char × Source) :=
  let code := numeral 8 digits
  if 0o377 < code then
    s.fail (.octalOutOfRange (String.ofList ('\\' :: digits))) (digits.length + 1)
  else .ok (Char.ofNat code, s)

/-- An escape inside a class; its token has been read. -/
def classEscape (c : Char) (s : Source) : Except PatternError (ClassItem × Source) := do
  if c == 'b' then return (.char '\x08', s)
  match controlEscape? c, classEscape? c with
  | some x, _ => return (.char x, s)
  | none, some item => return (item, s)
  | none, none =>
    if isOctal c then
      let (more, s) ← s.takeUpTo isOctal 2
      let (x, s) ← octalChar (c :: more) s
      return (.char x, s)
    else
      let (x, s) ← charEscape c s
      return (.char x, s)

/-- A number behind a backslash outside a class: a character by its octal code, or a group, of which there are
`groups` so far. -/
def numberEscape (groups : Nat) (c : Char) (s : Source) : Except PatternError (Node × Source) := do
  if c == '0' then
    let (more, s) ← s.takeUpTo isOctal 2
    let (x, s) ← octalChar (c :: more) s
    return (.char x, s)
  let (second, s) ← s.takeUpTo isAsciiDigit 1
  let digits := c :: second
  if digits.length = 2 && digits.all isOctal then
    let (third, s) ← s.takeUpTo isOctal 1
    if third.length = 1 then
      let (x, s) ← octalChar (digits ++ third) s
      return (.char x, s)
  if numeral 10 digits ≤ groups then s.fail .unsupported
  s.fail (.unknownGroup (numeral 10 digits)) digits.length

/-- An escape outside a class; its token has been read. -/
def escape (groups : Nat) (c : Char) (s : Source) : Except PatternError (Node × Source) := do
  if c == 'b' then return (.edge, s)
  if c == 'B' then return (.notEdge, s)
  if c == 'A' || c == 'Z' then s.fail .unsupported
  match classEscape? c, controlEscape? c with
  | some item, _ => return (.oneOf ⟨false, [item]⟩, s)
  | none, some x => return (.char x, s)
  | none, none =>
    if isAsciiDigit c then numberEscape groups c s
    else
      let (x, s) ← charEscape c s
      return (.char x, s)

/-- One member of a class, whose token has been read. -/
def classMember (t : Token) (s : Source) : Except PatternError (ClassItem × Source) :=
  match t with
  | .escaped c => classEscape c s
  | .plain c => .ok (.char c, s)
  | .dangling => s.fail .danglingBackslash

/-- The members of a class up to its closing bracket, which closes it only behind a member.
`opened` is the position of the opening bracket. -/
def classItems (opened : Nat) : Nat → List ClassItem → Source →
    Except PatternError (List ClassItem × Source)
  | 0, _, s => s.fail .unterminatedClass (s.position - opened)
  | fuel + 1, items, s => do
    let unterminated {α : Type} (s : Source) : Except PatternError α :=
      s.fail .unterminatedClass (s.position - opened)
    match s.tokens with
    | [] => unterminated s
    | t :: _ =>
      let s ← s.advance
      if t == .plain ']' && !items.isEmpty then return (items, s)
      let (low, s) ← classMember t s
      match ← s.skip? '-' with
      | none => classItems opened fuel (items ++ [low]) s
      | some s =>
        match s.tokens with
        | [] => unterminated s
        | t' :: _ =>
          let s ← s.advance
          if t' == .plain ']' then return (items ++ [low, .char '-'], s)
          let (high, s) ← classMember t' s
          let bad {α : Type} : Except PatternError α :=
            s.fail (.badRange (String.ofList t.text) (String.ofList t'.text))
              (t.length + 1 + t'.length)
          match low, high with
          | .char a, .char b =>
            if b < a then bad
            else classItems opened fuel (items ++ [.range a b]) s
          | _, _ => bad

/-- A class whose opening bracket has been read. -/
def charClass (fuel : Nat) (s : Source) : Except PatternError (Node × Source) := do
  let opened := s.position - 1
  let negated := s.nextIs '^'
  let s ← if negated then s.advance else pure s
  let (items, s) ← classItems opened fuel [] s
  return (.oneOf ⟨negated, items⟩, s)

/-- The bounds of a repetition in braces, whose opening brace has been read; `none` when the braces
do not enclose bounds and stand for themselves. -/
def bounds (fuel : Nat) (s : Source) :
    Except PatternError (Option ((Nat × Option Nat) × Source)) := do
  let opened := s.position
  if s.nextIs '\x7d' then return none
  let (low, s) ← s.takeUpTo isAsciiDigit fuel
  let (high, s) ← match ← s.skip? ',' with
    | some s => s.takeUpTo isAsciiDigit fuel
    | none => pure (low, s)
  match ← s.skip? '\x7d' with
  | none => return none
  | some s =>
    let least := numeral 10 low
    let most := if high.isEmpty then none else some (numeral 10 high)
    if 4294967295 ≤ least ∨ 4294967295 ≤ most.getD 0 then s.fail .hugeBound
    if most.getD least < least then s.fail .reversedBounds (s.position - opened)
    return some ((least, most), s)

/-- What the last item of a sequence is, as far as it decides whether it can be repeated. -/
inductive ItemKind where
  | anchor
  | repetition
  | other
  deriving DecidableEq

/-- The kind of an expression that has just been read. -/
def itemKind : Node → ItemKind
  | .start | .finish | .edge | .notEdge => .anchor
  | _ => .other

/-- An item of a sequence and its kind. -/
abbrev Item := Node × ItemKind

/-- The expression of the items of a sequence, the last of them first. -/
def sequence (items : List Item) : Node := Node.sequence (items.reverse.map (·.1))

/-- Repeats the last item of a sequence. The source stands behind the mark of the repetition, which
began at a position. -/
def repeatLast (position : Nat) (least : Nat) (most : Option Nat) (items : List Item) (s : Source) :
    Except PatternError (List Item × Source) := do
  match items with
  | [] | (_, .anchor) :: _ => .error ⟨.nothingToRepeat, position⟩
  | (_, .repetition) :: _ => .error ⟨.doubleRepeat, position⟩
  | (node, .other) :: before =>
    if s.nextIs '+' then s.fail .unsupported
    match ← s.skip? '?' with
    | some s => return ((.loop least most false node, .repetition) :: before, s)
    | none => return ((.loop least most true node, .repetition) :: before, s)

/-- The marks behind `(?` that open a construct which command patterns do not have. -/
def isForeignMark (c : Char) : Bool := "P=!<>(-aiLmsux".toList.contains c

mutual

/-- A choice: sequences between bars. `groups` is the number of groups opened before. -/
def choice : Nat → Nat → Source → Except PatternError (Node × Nat × Source)
  | 0, _, s => s.fail .unexpectedEnd
  | fuel + 1, groups, s => do
    let (first, groups, s) ← items fuel groups [] s
    match ← s.skip? '|' with
    | none => return (first, groups, s)
    | some s =>
      let (second, groups, s) ← choice fuel groups s
      return (.alt first second, groups, s)

/-- The items of a sequence, the last of them first. -/
def items : Nat → Nat → List Item → Source → Except PatternError (Node × Nat × Source)
  | 0, _, _, s => s.fail .unexpectedEnd
  | fuel + 1, groups, done, s => do
    match s.tokens with
    | [] | .plain '|' :: _ | .plain ')' :: _ => return (sequence done, groups, s)
    | t :: _ =>
      let position := s.position
      let s ← s.advance
      let push (node : Node) (s : Source) : Except PatternError (Node × Nat × Source) :=
        items fuel groups ((node, itemKind node) :: done) s
      match t with
      | .dangling => s.fail .danglingBackslash
      | .escaped c =>
        let (node, s) ← escape groups c s
        push node s
      | .plain '[' =>
        let (node, s) ← charClass fuel s
        push node s
      | .plain '.' => push .any s
      | .plain '^' => push .start s
      | .plain '$' => push .finish s
      | .plain '(' =>
        let (node, groups, s) ← group fuel groups position s
        match node with
        | none => items fuel groups done s
        | some node => items fuel groups ((node, .other) :: done) s
      | .plain '?' =>
        let (done, s) ← repeatLast position 0 (some 1) done s
        items fuel groups done s
      | .plain '*' =>
        let (done, s) ← repeatLast position 0 none done s
        items fuel groups done s
      | .plain '+' =>
        let (done, s) ← repeatLast position 1 none done s
        items fuel groups done s
      | .plain '\x7b' =>
        match ← bounds fuel s with
        | none => push (.char '\x7b') s
        | some ((least, most), s) =>
          let (done, s) ← repeatLast position least most done s
          items fuel groups done s
      | .plain c => push (.char c) s

/-- What a parenthesis at a position, which has been read, opens: a group that records, a group that
does not, or a comment. -/
def group : Nat → Nat → Nat → Source → Except PatternError (Option Node × Nat × Source)
  | 0, _, _, s => s.fail .unexpectedEnd
  | fuel + 1, groups, opened, s => do
    let close (node : Node) (groups : Nat) (s : Source) :
        Except PatternError (Option Node × Nat × Source) := do
      match ← s.skip? ')' with
      | some s => return (some node, groups, s)
      | none => s.fail .unterminatedGroup (s.position - opened)
    match ← s.skip? '?' with
    | none =>
      let (body, inner, s) ← choice fuel (groups + 1) s
      close (.group groups body) inner s
    | some s =>
      match s.tokens with
      | [] => s.fail .unexpectedEnd
      | .plain ':' :: _ =>
        let (body, inner, s) ← choice fuel groups (← s.advance)
        close body inner s
      | .plain '#' :: _ => comment fuel groups opened (← s.advance)
      | t :: _ =>
        let s ← s.advance
        match t with
        | .plain c =>
          if isForeignMark c then s.fail .unsupported
          else s.fail (.unknownExtension (String.ofList ['?', c])) 2
        | t => s.fail (.unknownExtension (String.ofList ('?' :: t.text))) (t.length + 1)

/-- The rest of a comment. -/
def comment : Nat → Nat → Nat → Source → Except PatternError (Option Node × Nat × Source)
  | 0, _, _, s => s.fail .unexpectedEnd
  | fuel + 1, groups, opened, s => do
    match s.tokens with
    | [] => s.fail .unterminatedComment (s.position - opened)
    | .plain ')' :: _ => return (none, groups, ← s.advance)
    | _ => comment fuel groups opened (← s.advance)

end

/-- Reads the text of a pattern as an expression with a number of groups. Every step of the reader passes
over a token, so that twice their number bounds its recursion. -/
def parse (source : String) : Except PatternError (Node × Nat) := do
  let ts := tokens source.toList
  let s ← Source.settled ⟨ts, 0⟩
  let (node, groups, s) ← choice (3 * ts.length + 3) 0 s
  match s.tokens with
  | [] => return (node, groups)
  | _ => s.fail .unbalancedParenthesis

/-- The pattern of the expression that a text stands for. -/
def ofSource (source : String) : Except PatternError Pattern := do
  let (node, groups) ← parse source
  return ofNode source node groups

end Pattern

end Concierge
