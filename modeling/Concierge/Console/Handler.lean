import Concierge.Console.Handler.Literal

/-!
# Handlers in tags

A tag that begins with `@` may name a handler, and may give arguments to it in parentheses: `f(1, 'a')`.
A name alone is called without arguments. Everything else has to be an expression of its own. What is
given has to be a literal.
-/

namespace Concierge.Console.Handler

/-- A character of the name of a handler. -/
def isHandlerChar (c : Char) : Bool := Text.isWordChar c || c == '.'

/-- The arguments that a text gives to a handler; a text that names none is its own expression. -/
def arguments (cs : List Char) : List Char :=
  match cs.dropWhile isHandlerChar with
  | [] => ['(', ')']
  | '(' :: rest =>
    if rest.getLast? == some ')' && !rest.contains '\n' then '(' :: rest else cs
  | _ => cs

/-- Why a handler cannot be given what its tag holds. -/
inductive ArgumentFault where
  | syntactic (fault : SyntaxFault)
  | literal (fault : LiteralFault)
  deriving DecidableEq, Repr

/-- Checks what is given to a handler. -/
def checkArguments (cs : List Char) : Except ArgumentFault Unit := do
  let ts ← (readExpression cs).mapError .syntactic
  (checkLiteral ts).mapError .literal

end Concierge.Console.Handler
