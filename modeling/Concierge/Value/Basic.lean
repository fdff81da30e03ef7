import Concierge.Dict
import Concierge.Number.Double
import Concierge.Text.Blank

/-!
# Dynamic values

Stored settings, directive arguments, trigger answers and model completions are dynamic: a value is
absent, a truth value, an integer of any size, a double, a text, a list or a dictionary.
-/

namespace Concierge

/-- A dynamic value. -/
inductive Value where
  | null
  | bool (b : Bool)
  | int (n : Int)
  | double (d : Double)
  | text (s : String)
  | list (items : List Value)
  | dict (entries : List (String × Value))
  deriving Inhabited

namespace Value

mutual

/-- Equality of values is decidable. -/
def decEq : (a b : Value) → Decidable (a = b)
  | null, null => isTrue rfl
  | bool a, bool b => decidable_of_iff (a = b) (by simp)
  | int a, int b => decidable_of_iff (a = b) (by simp)
  | double a, double b => decidable_of_iff (a = b) (by simp)
  | text a, text b => decidable_of_iff (a = b) (by simp)
  | list a, list b =>
    match decEqItems a b with
    | isTrue h => isTrue (by rw [h])
    | isFalse h => isFalse (by simpa using h)
  | dict a, dict b =>
    match decEqEntries a b with
    | isTrue h => isTrue (by rw [h])
    | isFalse h => isFalse (by simpa using h)
  | null, bool _ | null, int _ | null, double _ | null, text _ | null, list _ | null, dict _
  | bool _, null | bool _, int _ | bool _, double _ | bool _, text _ | bool _, list _
  | bool _, dict _ | int _, null | int _, bool _ | int _, double _ | int _, text _ | int _, list _
  | int _, dict _ | double _, null | double _, bool _ | double _, int _ | double _, text _
  | double _, list _ | double _, dict _ | text _, null | text _, bool _ | text _, int _
  | text _, double _ | text _, list _ | text _, dict _ | list _, null | list _, bool _
  | list _, int _ | list _, double _ | list _, text _ | list _, dict _ | dict _, null
  | dict _, bool _ | dict _, int _ | dict _, double _ | dict _, text _ | dict _, list _ =>
    isFalse (by simp)

/-- Equality of lists of values is decidable. -/
def decEqItems : (a b : List Value) → Decidable (a = b)
  | [], [] => isTrue rfl
  | [], _ :: _ | _ :: _, [] => isFalse (by simp)
  | x :: xs, y :: ys =>
    match decEq x y, decEqItems xs ys with
    | isTrue h, isTrue t => isTrue (by rw [h, t])
    | isFalse h, _ => isFalse (by simp [h])
    | _, isFalse t => isFalse (by simp [t])

/-- Equality of dictionaries of values, entry by entry and in order, is decidable. -/
def decEqEntries : (a b : List (String × Value)) → Decidable (a = b)
  | [], [] => isTrue rfl
  | [], _ :: _ | _ :: _, [] => isFalse (by simp)
  | (k, x) :: xs, (l, y) :: ys =>
    if hk : k = l then
      match decEq x y, decEqEntries xs ys with
      | isTrue h, isTrue t => isTrue (by rw [hk, h, t])
      | isFalse h, _ => isFalse (by simp [h])
      | _, isFalse t => isFalse (by simp [t])
    else isFalse (by simp [hk])

end

instance : DecidableEq Value := decEq

/-- The name of the kind of a value, as messages show it. -/
def kind : Value → String
  | null => "NoneType"
  | bool _ => "bool"
  | int _ => "int"
  | double _ => "float"
  | text _ => "str"
  | list _ => "list"
  | dict _ => "dict"

/-- A value counts as true unless it is absent, false, zero or empty. -/
def truthy : Value → Bool
  | null => false
  | bool b => b
  | int n => n != 0
  | double d => !d.isZero
  | text s => s != ""
  | list items => !items.isEmpty
  | dict entries => !entries.isEmpty

/-- The value is a text. -/
def isText : Value → Bool
  | text _ => true
  | _ => false

/-- The value is absent, or a text of blanks only. -/
def isBlank : Value → Bool
  | null => true
  | text s => Text.isBlankText s
  | _ => false

end Value

/-- Argument names and their values. -/
abbrev Params := Dict Value

end Concierge
