import Concierge.Console.Handler.Token

/-!
# Expressions

The tokens of an expression are read one by one: each has a place where it may stand. Where an operand
follows another one, or an equals sign follows an operand, what is told depends on whether the tokens
behind it begin with an expression as well.
-/

namespace Concierge.Console.Handler

/-- What may come next in an expression. -/
inductive Place where
  /-- An operand. -/
  | operand
  /-- An operand, or the end of a group. -/
  | operandOrEnd
  /-- The value of an entry. -/
  | entry
  /-- What follows an operand. -/
  | follow
  /-- The name of a part. -/
  | part
  /-- The second word of an operator. -/
  | second
  deriving DecidableEq, Repr

/-- What the expression at hand is so far. -/
inductive Shape where
  /-- Nothing yet. -/
  | fresh
  | name
  | constant (word : List Char)
  | literal
  | member
  | call
  /-- Operands with operators that are no comparisons. -/
  | compound
  /-- Anything else. -/
  | other
  deriving DecidableEq, Repr

/-- What a group holds. -/
inductive Content where
  /-- An operand, or several. -/
  | plain
  | arguments
  /-- Members of a set or entries: the first of them has not ended. -/
  | first
  | members
  | key
  | value
  deriving DecidableEq, Repr

/-- An open group: its bracket, what it holds, and what the expression around it is so far. -/
structure Group where
  opening : Char
  content : Content
  shape : Shape
  deriving DecidableEq, Repr

/-- How far the tokens of an expression have been read. -/
structure State where
  place : Place := .operand
  shape : Shape := .fresh
  /-- The name that the expression at hand begins with. -/
  head : Option (List Char) := none
  previous : Option Token := none
  groups : List Group := []

/-- Why a token cannot be read. -/
inductive Stop where
  | fault (f : SyntaxFault)
  /-- An operand follows another one. -/
  | juxtaposed
  /-- An equals sign follows an operand. -/
  | assigned

/-- Words that stand between operands. -/
def betweenWords : List (List Char) := ["and", "or", "in", "is"].map String.toList

/-- Words that no operand begins with. -/
def reservedWords : List (List Char) :=
  betweenWords ++ ["if", "else", "for", "as", "assert", "async", "await", "break", "class",
    "continue", "def", "del", "elif", "except", "finally", "from", "global", "import", "lambda",
    "nonlocal", "pass", "raise", "return", "try", "while", "with", "yield"].map String.toList

/-- Words that stand for a constant. -/
def constantWords : List (List Char) := ["True", "False", "None"].map String.toList

/-- Operators that may stand in front of an operand. -/
def frontMarks : List (List Char) := ["+", "-", "~"].map String.toList

/-- Operators that stand between operands. -/
def betweenMarks : List (List Char) :=
  ["+", "-", "*", "/", "//", "%", "@", "&", "|", "^", "**", ">>", "<<"].map String.toList

/-- Operators that compare operands. -/
def comparingMarks : List (List Char) := ["<", ">", "<=", ">=", "==", "!="].map String.toList

/-- A token that an operand begins with. -/
def beginsOperand : Token → Bool
  | .name cs => !reservedWords.contains cs
  | .number _ | .text _ => true
  | .mark cs => cs == ['('] || cs == ['{'] || frontMarks.contains cs
  | .stray => false

/-- What an expression is behind an operand of a shape. -/
def Shape.joined (old new : Shape) : Shape := if old = .fresh then new else old

/-- What an expression is behind an operator that is no comparison. -/
def Shape.extended (s : Shape) : Shape := if s = .other then .other else .compound

/-- What an expression is behind a part or a call of its last operand. -/
def Shape.applied (s new : Shape) : Shape := if s = .other ∨ s = .compound then s else new

/-- The state behind an operand of a shape. -/
def State.operand (s : State) (shape : Shape) : State :=
  { s with place := .follow, shape := s.shape.joined shape }

/-- The state behind an opening bracket. -/
def State.enter (s : State) (opening : Char) (content : Content) (shape : Shape) : State :=
  { s with
    place := .operandOrEnd, shape := .fresh, groups := ⟨opening, content, shape⟩ :: s.groups }

/-- The state behind a closing bracket. -/
def State.leave (s : State) : State :=
  match s.groups with
  | [] => s
  | g :: groups => { s with place := .follow, shape := g.shape, groups }

/-- The state with a new expression in the innermost group, which holds something from now on. -/
def State.renew (s : State) (place : Place) (content : Content) : State :=
  let groups := match s.groups with
    | [] => []
    | g :: rest => { g with content } :: rest
  { s with place, shape := .fresh, groups }

/-- What the innermost group holds. -/
def State.content (s : State) : Content := (s.groups.head?.map Group.content).getD .plain

/-- The state behind a token where an operand is expected. -/
def atOperand (s : State) : Token → Except Stop State
  | .name cs =>
    if cs == "not".toList then .ok { s with place := .operand, shape := s.shape.joined .other }
    else if reservedWords.contains cs then .error (.fault .invalid)
    else .ok (s.operand (if constantWords.contains cs then .constant cs else .name))
  | .number _ => .ok (s.operand .literal)
  | .text kind => if kind = .wideBytes then .error (.fault .wideBytes) else .ok (s.operand .literal)
  | .mark cs =>
    if frontMarks.contains cs then
      .ok { s with place := .operand, shape := s.shape.joined .compound }
    else if cs == ['('] then .ok (s.enter '(' .plain (s.shape.joined .other))
    else if cs == ['{'] then .ok (s.enter '{' .first (s.shape.joined .other))
    else if cs == "...".toList then .ok (s.operand .other)
    else .error (.fault .invalid)
  | .stray => .error (.fault .strayBackslash)

/-- The state behind a comma. -/
def atComma (s : State) : Except Stop State :=
  match s.content with
  | .first | .members => .ok (s.renew .operandOrEnd .members)
  | .value => .ok (s.renew .operandOrEnd .key)
  | .key => .error (.fault .invalid)
  | content => .ok (s.renew .operandOrEnd content)

/-- The state behind a colon. -/
def atColon (s : State) : Except Stop State :=
  match s.content with
  | .first | .key => .ok (s.renew .entry .value)
  | _ => .error (.fault .invalid)

/-- The state behind an equals sign. -/
def atEquals (s : State) : Except Stop State :=
  match s.content, s.shape with
  | .arguments, .name => .ok (s.renew .operand .arguments)
  | .arguments, .constant word => .error (.fault (.assignedConstant (String.ofList word)))
  | .arguments, _ => .error (.fault .assignedOperand)
  | _, _ => .error .assigned

/-- The state behind a token that follows an operand. -/
def atFollow (s : State) (t : Token) : Except Stop State :=
  match t with
  | .mark cs =>
    if betweenMarks.contains cs then .ok { s with place := .operand, shape := s.shape.extended }
    else if comparingMarks.contains cs then .ok { s with place := .operand, shape := .other }
    else if cs == [','] then atComma s
    else if cs == ['.'] then .ok { s with place := .part }
    else if cs == ['('] then .ok (s.enter '(' .arguments (s.shape.applied .call))
    else if cs == ['}'] && s.content = .key then .error (.fault .invalid)
    else if cs == [')'] || cs == ['}'] then .ok s.leave
    else if cs == ['='] then atEquals s
    else if cs == [':'] then atColon s
    else if cs == ['{'] then .error .juxtaposed
    else .error (.fault .invalid)
  | .name cs =>
    if cs == "not".toList then .ok { s with place := .second, shape := .other }
    else if betweenWords.contains cs then .ok { s with place := .operand, shape := .other }
    else if beginsOperand t then .error .juxtaposed
    else .error (.fault .invalid)
  | .text kind =>
    match s.previous with
    | some (.text previous) =>
      if kind = .wideBytes then .error (.fault .wideBytes)
      else if (kind = .bytes) = (previous = .bytes) then .ok s
      else .error (.fault .mixedTexts)
    | _ => .error .juxtaposed
  | .number _ => .error .juxtaposed
  | .stray => .error (.fault .strayBackslash)

/-- The state behind a token. -/
def step (s : State) (t : Token) : Except Stop State :=
  match s.place with
  | .operand => atOperand s t
  | .entry =>
    if t == .mark ['}'] || t == .mark [','] then .error (.fault .missingEntry) else atOperand s t
  | .operandOrEnd =>
    if (t == .mark [')'] || t == .mark ['}']) && !s.groups.isEmpty then .ok s.leave
    else atOperand s t
  | .follow => atFollow s t
  | .part =>
    match t with
    | .name _ => .ok { s with place := .follow, shape := s.shape.applied .member }
    | .stray => .error (.fault .strayBackslash)
    | _ => .error (.fault .invalid)
  | .second =>
    if t == .name "in".toList then .ok { s with place := .operand }
    else if t == .stray then .error (.fault .strayBackslash)
    else .error (.fault .invalid)

/-- The state behind a token that has been read. -/
def advance (s : State) (t : Token) : Except Stop State := do
  let head := match s.shape, t with
    | .fresh, .name cs => some cs
    | .fresh, _ => none
    | _, _ => s.head
  return { ← step { s with head } t with previous := some t }

/-- What reading an expression within other tokens comes to. -/
inductive Reach where
  /-- It has ended, and these tokens follow. -/
  | ended (rest : List Token)
  | failed
  | fault (f : SyntaxFault)

/-- The token is a quoted text. -/
def Token.isText : Token → Bool
  | .text _ => true
  | _ => false

/-- The token ends an expression that it follows. -/
def endsOperand : Token → Bool
  | .mark cs =>
    !(betweenMarks.contains cs || comparingMarks.contains cs || cs == ['.'] || cs == ['('])
  | .name cs => !(betweenWords.contains cs || cs == "not".toList)
  | .stray => false
  | _ => true

/-- Reads an expression behind the groups that are open, of which there are so many. -/
def reach (depth : Nat) (s : State) : List Token → Reach
  | [] =>
    match s.groups with
    | g :: _ => .fault (.neverClosed g.opening)
    | [] => if s.place = .follow then .ended [] else .failed
  | t :: ts =>
    if s.place = .follow && s.groups.length = depth && endsOperand t &&
        !(t.isText && (s.previous.map Token.isText).getD false) then .ended (t :: ts)
    else
      match advance s t with
      | .ok s => reach depth s ts
      | .error (.fault .strayBackslash) => .fault .strayBackslash
      | .error _ => .failed

/-- Reads an expression that begins where a state has come to. -/
def reachFrom (s : State) (ts : List Token) : Reach :=
  reach s.groups.length { groups := s.groups } ts

/-- Words that are reserved only where a statement begins. A name that one of them begins with counts
as the word. -/
def softWords : List (List Char) := ["_", "case", "match"].map String.toList

/-- Words that had operands without parentheses once. -/
def formerWords : List (List Char) := ["print", "exec"].map String.toList

/-- The fault of an operand that follows another one, when the tokens from it on are known. -/
def juxtaposition (s : State) (ts : List Token) : SyntaxFault :=
  match reachFrom s ts with
  | .fault f => f
  | .failed => .invalid
  | .ended _ =>
    match s.shape, s.head with
    | .name, some word =>
      if formerWords.contains word then .missingParentheses (String.ofList word)
      else if (ts.head?.map Token.isText).getD false then .invalid
      else blamed word
    | _, some word => blamed word
    | _, none => if s.groups.isEmpty then .invalid else .missingComma
where
  /-- The fault when the expression begins with a name. -/
  blamed (word : List Char) : SyntaxFault :=
    if s.groups.isEmpty || softWords.any (word.isPrefixOf ·) then .invalid else .missingComma

/-- The name of a shape that cannot be assigned to. -/
def Shape.title? : Shape → Option String
  | literal => some "literal"
  | member => some "attribute"
  | call => some "function call"
  | compound => some "expression"
  | _ => none

/-- The fault of an equals sign that follows an operand, when the tokens behind it are known. -/
def assignment (s : State) (ts : List Token) : SyntaxFault :=
  if s.groups.isEmpty || s.content = .key || s.content = .value then .invalid
  else
    match reachFrom s ts with
    | .fault f => f
    | .failed => .invalid
    | .ended rest =>
      if rest.head? == some (.mark ['=']) || rest.head? == some (.mark [':', '=']) then .invalid
      else if s.shape = .name then .strayAssignment
      else (s.shape.title?.map .comparedOperand).getD .invalid

/-- A part of a key after the first one has been read, so that a colon is missing where it ends. -/
def State.isKeyed (s : State) : Bool :=
  let inner := s.groups.takeWhile (·.content ≠ .key)
  inner.length < s.groups.length &&
    match inner.getLast? with
    | some g => g.content = .arguments
    | none => s.place = .follow || s.place = .second || s.place = .part

/-- The fault of a token that cannot be read, when the tokens behind it are known. -/
def State.fault (s : State) (stop : Stop) (t : Token) (ts : List Token) : SyntaxFault :=
  match stop with
  | .fault .strayBackslash => .strayBackslash
  | .fault .mixedTexts => .mixedTexts
  | .fault .wideBytes => .wideBytes
  | stop =>
    if s.isKeyed then .missingColon
    else
      match stop with
      | .fault f => f
      | .juxtaposed => juxtaposition s (t :: ts)
      | .assigned => assignment s ts

/-- Reads the tokens of an expression. -/
def readFrom (s : State) : List Token → Except SyntaxFault Unit
  | [] =>
    match s.groups, s.place, s.previous with
    | g :: _, _, _ => .error (.neverClosed g.opening)
    | [], .follow, _ => .ok ()
    | [], .operandOrEnd, some _ => .ok ()
    | [], _, _ => .error .invalid
  | t :: ts =>
    match advance s t with
    | .ok s => readFrom s ts
    | .error stop => .error (s.fault stop t ts)

/-- The tokens of an expression. -/
def readExpression (cs : List Char) : Except SyntaxFault (List Token) := do
  let ts ← tokensFrom [] 0 cs
  readFrom {} ts
  return ts

end Concierge.Console.Handler
