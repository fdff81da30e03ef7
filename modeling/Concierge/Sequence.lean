/-!
# Fronts of lists

The front of a list up to a limit, where a negative limit counts from the end.
-/

namespace Concierge

/-- The first `limit` members; a negative limit leaves out so many members at the end. -/
def front {α : Type} (limit : Int) (items : List α) : List α :=
  match limit with
  | .ofNat n => items.take n
  | .negSucc n => items.take (items.length - (n + 1))

end Concierge
