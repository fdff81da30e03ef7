import Concierge.Sequence
import Concierge.Text.Excerpt
import Concierge.Value.Access
import Concierge.Value.Amount

/-!
# Values as limits

A limit on the members of a list is an integer or a truth value, which is zero or one; null sets none.
What is no such value is not refused before the limit is applied.
-/

namespace Concierge.Value

/-- The number of members that a value limits a list to, if it limits it at all. -/
def limit? : Value → Except ShapeError (Option Int)
  | null => .ok none
  | bool b => .ok (some (if b then 1 else 0))
  | int n => .ok (some n)
  | _ => .error .notIndex

/-- The first members of a list up to a limit. -/
def front {α : Type} (limit : Value) (items : List α) : Except ShapeError (List α) := do
  return ((← limit.limit?).map (Concierge.front · items)).getD items

/-- The words of a text up to a limit. A text with no more words than the limit is not cut, whatever
number the limit is. -/
def excerpt (limit text : Value) : Except ShapeError String :=
  match text with
  | .text s =>
    let count := (Text.words s.toList).length
    match limit.amount? with
    | none => .error (.incomparable "<=" "int" limit.kind)
    | some most =>
      if (Amount.ratio count 1).le most then .ok (Text.excerpt count s)
      else do return Text.excerpt ((← limit.limit?).getD count) s
  | v => .error (.noWords v.kind)

end Concierge.Value
