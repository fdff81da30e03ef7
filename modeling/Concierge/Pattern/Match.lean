import Concierge.Pattern.Syntax

/-!
# Matching

Matching tries the ways in which an expression can match in order of preference, and takes the
first after which the rest of the pattern matches too. The rest is a continuation, so that the
matcher is a recursion on the expression alone. A repetition does not start a round where the round
before it started; since rounds never go back, a text with `n` characters left admits at most `n + 1`
rounds beyond the least number.
-/

namespace Concierge.Pattern

/-- A stretch of a text, from one offset to another. -/
structure Span where
  start : Nat
  stop : Nat
  deriving DecidableEq, Repr

/-- A place in a text: what stands before it, backwards, what follows it, and its offset. -/
structure Place where
  before : List Char
  after : List Char
  offset : Nat
  deriving DecidableEq, Repr

/-- How far a match has come, and what its groups have recorded. -/
structure Progress where
  place : Place
  groups : List (Option Span)
  deriving DecidableEq, Repr

namespace Place

/-- The start of a text. -/
def atStart (cs : List Char) : Place := ⟨[], cs, 0⟩

/-- The place after the next character. -/
def next (p : Place) : Place :=
  match p.after with
  | [] => p
  | c :: cs => ⟨c :: p.before, cs, p.offset + 1⟩

/-- The place is the end of the text, or stands before a line feed that ends it. -/
def isFinish (p : Place) : Bool := p.after == [] || p.after == ['\n']

/-- Just one of the two characters around the place belongs to a word. -/
def isEdge (p : Place) : Bool :=
  (p.before.head?.map Text.isWordChar).getD false != (p.after.head?.map Text.isWordChar).getD false

/-- The text around the place is not empty. -/
def hasText (p : Place) : Bool := !p.before.isEmpty || !p.after.isEmpty

end Place

/-- What is still to be matched. -/
abbrev Rest := Progress → Option Progress

/-- Passes over one character of a class. -/
def Progress.step (holds : Char → Bool) (k : Rest) (s : Progress) : Option Progress :=
  match s.place.after with
  | [] => none
  | c :: _ => if holds c then k { s with place := s.place.next } else none

/-- Goes on if a condition holds. -/
def Progress.check (holds : Bool) (k : Rest) (s : Progress) : Option Progress :=
  if holds then k s else none

/-- Records a group that began at an offset and ends here. -/
def Progress.record (s : Progress) (index start : Nat) : Progress :=
  { s with groups := s.groups.set index (some ⟨start, s.place.offset⟩) }

/-- A number of rounds of a body, and then the rest. -/
def times (body : Rest → Rest) (k : Rest) : Nat → Rest
  | 0 => k
  | n + 1 => body (times body k n)

/-- Up to a number of further rounds of a body, and then the rest. `last` is the offset at which
the round before began. -/
def upTo (greedy : Bool) (body : Rest → Rest) (k : Rest) : Nat → Option Nat → Rest
  | 0, _, s => k s
  | n + 1, last, s =>
    let again (_ : Unit) : Option Progress :=
      if last = some s.place.offset then none
      else body (upTo greedy body k n (some s.place.offset)) s
    if greedy then (again ()).or (k s) else (k s).or (again ())

/-- The number of rounds beyond the least number that are worth trying. -/
def furtherRounds (least : Nat) (most : Option Nat) (s : Progress) : Nat :=
  let possible := s.place.after.length + 1
  match most with
  | none => possible
  | some n => min (n - least) possible

/-- The first way to match an expression after which the rest matches. -/
def run : Node → Rest → Rest
  | .empty, k, s => k s
  | .char c, k, s => s.step (Text.sameLetter c) k
  | .any, k, s => s.step (· != '\n') k
  | .oneOf c, k, s => s.step c.holds k
  | .start, k, s => s.check s.place.before.isEmpty k
  | .finish, k, s => s.check s.place.isFinish k
  | .edge, k, s => s.check (s.place.hasText && s.place.isEdge) k
  | .notEdge, k, s => s.check (s.place.hasText && !s.place.isEdge) k
  | .seq a b, k, s => run a (run b k) s
  | .alt a b, k, s => (run a k s).or (run b k s)
  | .group i body, k, s => run body (fun t => k (t.record i s.place.offset)) s
  | .loop least most greedy body, k, s =>
    times (run body)
      (fun t => upTo greedy (run body) k (furtherRounds least most t) none t) least s

end Concierge.Pattern
