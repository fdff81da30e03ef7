import Concierge.Console.Handler.Expression

/-!
# Literals

An expression that is a literal says outright what it stands for: numbers, which may have a sign,
quoted texts, constants, and groups of literals. Nothing in it has to be computed, except that an
imaginary number may be added to a real one. Members of a set and keys of a table have to be literals
that no later change can reach.
-/

namespace Concierge.Console.Handler

/-- Why an expression is no literal that can be used. -/
inductive LiteralFault where
  /-- A part of it would have to be computed. -/
  | computed
  /-- A group of this kind is a member of a set, or a key. -/
  | unhashable (kind : String)
  deriving DecidableEq, Repr

/-- The wording of a fault in a literal. -/
def LiteralFault.message : LiteralFault → String
  | computed => "malformed node or string on line 1"
  | unhashable kind => "unhashable type: '" ++ kind ++ "'"

/-- What a literal is. -/
inductive Literal where
  | number (isImaginary isSigned : Bool)
  /-- Anything else: the kind of the first part that keeps it from being a key, if there is one. -/
  | other (unkeyed : Option String)
  deriving DecidableEq, Repr

/-- The kind of the first part that keeps a literal from being a key. -/
def Literal.unkeyed? : Literal → Option String
  | number _ _ => none
  | other unkeyed => unkeyed

/-- Checks that a literal can be a key. -/
def Literal.checkKey (l : Literal) : Except LiteralFault Unit :=
  match l.unkeyed? with
  | some kind => .error (.unhashable kind)
  | none => .ok ()

/-- A real number and an imaginary one without a sign can be added. -/
def Literal.addsTo : Literal → Literal → Bool
  | number true false, number false _ => true
  | _, _ => false

/-- A token that is a sign of a number. -/
def isSign (t : Token) : Bool := t == .mark ['+'] || t == .mark ['-']

/-- The literal of a run of quoted texts, and the rest. -/
def textLiteral (ts : List Token) : Except LiteralFault (Literal × List Token) :=
  if (ts.takeWhile Token.isText).contains (.text .formatted) then .error .computed
  else .ok (.other none, ts.dropWhile Token.isText)

/-- The members of a group up to its closing bracket, each read by `read`, whether they are more than
one operand in parentheses, and the rest. -/
def membersAt (read : List Token → Except LiteralFault (Literal × List Token)) (closing : Char) :
    Nat → List Token → Except LiteralFault (List Literal × Bool × List Token)
  | 0, _ => .error .computed
  | fuel + 1, ts => do
    if ts.head? == some (.mark [closing]) then return ([], true, ts.drop 1)
    let (member, rest) ← read ts
    let rest ← match rest with
      | .mark [':'] :: rest => (read rest).map (·.2)
      | _ => pure rest
    if closing = '}' then member.checkKey
    match rest with
    | .mark [','] :: rest =>
      let (members, _, rest) ← membersAt read closing fuel rest
      return (member :: members, true, rest)
    | t :: rest =>
      if t == .mark [closing] then return ([member], false, rest)
      throw .computed
    | [] => throw .computed

/-- The literal that is no sum and has no sign at the front of tokens, and the rest. Groups in it are
read by `read`. -/
def atomAt (read : List Token → Except LiteralFault (Literal × List Token)) :
    List Token → Except LiteralFault (Literal × List Token)
  | .number isImaginary :: rest => .ok (.number isImaginary false, rest)
  | .text kind :: rest => textLiteral (.text kind :: rest)
  | .name word :: rest =>
    if constantWords.contains word then .ok (.other none, rest)
    else if word == "set".toList && rest.take 2 == [.mark ['('], .mark [')']] then
      .ok (.other (some "set"), rest.drop 2)
    else .error .computed
  | .mark ['('] :: rest => do
    let (members, isTuple, rest) ← membersAt read ')' (rest.length + 1) rest
    match members, isTuple with
    | [member], false => return (member, rest)
    | _, _ => return (.other (members.findSome? Literal.unkeyed?), rest)
  | .mark ['{'] :: rest => do
    if rest.head? == some (.mark ['}']) then return (.other (some "dict"), rest.drop 1)
    let hasEntries := (← read rest).2.head? == some (.mark [':'])
    let (_, _, rest) ← membersAt read '}' (rest.length + 1) rest
    return (.other (some (if hasEntries then "dict" else "set")), rest)
  | .mark mark :: rest => if mark == "...".toList then .ok (.other none, rest) else .error .computed
  | _ => .error .computed

/-- The literal at the front of tokens, and the rest. Groups are nested no deeper than the fuel. -/
def literalAt : Nat → List Token → Except LiteralFault (Literal × List Token)
  | 0, _ => .error .computed
  | fuel + 1, ts => do
    let isSigned := (ts.head?.map isSign).getD false
    let (first, rest) ← atomAt (literalAt fuel) (if isSigned then ts.drop 1 else ts)
    let left ← match first, isSigned with
      | .number isImaginary false, true => pure (Literal.number isImaginary true)
      | _, true => throw .computed
      | _, false => pure first
    if (rest.head?.map isSign).getD false then
      let (right, rest) ← atomAt (literalAt fuel) (rest.drop 1)
      if right.addsTo left then return (.other none, rest) else throw .computed
    return (left, rest)

/-- Checks that the tokens of an expression are those of a literal, or of several ones between
commas. -/
def checkLiteral (ts : List Token) : Except LiteralFault Unit :=
  (literalAt (ts.length + 2) ([.mark ['(']] ++ ts ++ [.mark [')']])).map fun _ => ()

end Concierge.Console.Handler
