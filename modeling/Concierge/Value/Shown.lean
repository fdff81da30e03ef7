import Concierge.Number.Reading
import Concierge.Number.Shortest
import Concierge.Value.Basic

/-!
# Values as text and as numbers

A value on its own is shown plainly; inside a list or a dictionary its literal form is shown, with
texts quoted. A value that holds an integer of too many digits cannot be shown. A value becomes an integer
by its own rules: a text is read, a double loses its fraction, and a collection has no number.
-/

namespace Concierge.Value

mutual

/-- The literal form of a value. -/
def literal : Value → Except NumberError String
  | null => .ok "None"
  | bool true => .ok "True"
  | bool false => .ok "False"
  | int n => decimalText n
  | double d => .ok d.text
  | text s => .ok (Text.quoted s)
  | list items => do return "[" ++ String.intercalate ", " (← literals items) ++ "]"
  | dict entries => do
    return "\x7b" ++ String.intercalate ", " (← entryLiterals entries) ++ "\x7d"

/-- The literal forms of the items of a list. -/
def literals : List Value → Except NumberError (List String)
  | [] => .ok []
  | v :: vs => do
    let first ← literal v
    return first :: (← literals vs)

/-- The literal forms of the entries of a dictionary. -/
def entryLiterals : List (String × Value) → Except NumberError (List String)
  | [] => .ok []
  | (k, v) :: rest => do
    let first ← literal v
    return (Text.quoted k ++ ": " ++ first) :: (← entryLiterals rest)

end

/-- A value as plain text. -/
def shown : Value → Except NumberError String
  | text s => .ok s
  | v => literal v

/-- A value as plain text, where an absent value is the empty text. -/
def asText : Value → Except NumberError String
  | null => .ok ""
  | v => shown v

/-- The word that a value is. A value that is declared to be a text is one; another value is its text, and
the empty word if it has none. -/
def word (v : Value) : String := v.shown.toOption.getD ""

/-- A text is the word itself. -/
@[simp] theorem word_text (s : String) : (text s).word = s := rfl

mutual

/-- All integers in a value are short, so that the value can be shown and written. -/
def isShort : Value → Bool
  | int n => Concierge.isShort n
  | list items => areShort items
  | dict entries => areShortEntries entries
  | _ => true

/-- All integers in some values are short. -/
def areShort : List Value → Bool
  | [] => true
  | v :: vs => isShort v && areShort vs

/-- All integers in some entries are short. -/
def areShortEntries : List (String × Value) → Bool
  | [] => true
  | (_, v) :: rest => isShort v && areShortEntries rest

end

/-- Just the integers of each of some values have to be short. -/
theorem areShort_iff {vs : List Value} : areShort vs = true ↔ ∀ v ∈ vs, v.isShort = true := by
  induction vs with
  | nil => simp [areShort]
  | cons v vs ih => rw [areShort, Bool.and_eq_true, ih, List.forall_mem_cons]

/-- Just the integers of the value of each of some entries have to be short. -/
theorem areShortEntries_iff {es : List (String × Value)} :
    areShortEntries es = true ↔ ∀ e ∈ es, e.2.isShort = true := by
  induction es with
  | nil => simp [areShortEntries]
  | cons e es ih => rw [areShortEntries, Bool.and_eq_true, ih, List.forall_mem_cons]

/-- The integers of a dictionary are short if those of its values are. -/
theorem isShort_dict_iff {d : Dict Value} : (dict d).isShort = true ↔ ∀ e ∈ d, e.2.isShort = true :=
  areShortEntries_iff

/-- The integers of a list are short if those of its items are. -/
theorem isShort_list_iff {vs : List Value} : (list vs).isShort = true ↔ ∀ v ∈ vs, v.isShort = true :=
  areShort_iff

/-- The integers of a dictionary stay short when a key is set to a value whose integers are. -/
theorem isShort_dict_set {d : Dict Value} {v : Value} (h : (dict d).isShort = true)
    (hv : v.isShort = true) (key : String) : (dict (Dict.set key v d)).isShort = true := by
  rw [isShort_dict_iff] at h ⊢
  intro e he
  exact (Dict.mem_set he).elim (fun hset => hset ▸ hv) (h e)

/-- What showing something comes to: there is a result, or one of its integers is too long. -/
def ShowsIf {α : Type} (short : Bool) (shown : Except NumberError α) : Prop :=
  (short = true ∧ ∃ a, shown = .ok a) ∨ (short = false ∧ shown = .error .tooLong)

/-- Just the short integers have a decimal text. -/
theorem showsIf_decimalText (n : Int) : ShowsIf (Concierge.isShort n) (decimalText n) := by
  rw [decimalText]
  cases Concierge.isShort n
  · exact .inr ⟨rfl, rfl⟩
  · exact .inl ⟨rfl, _, rfl⟩

mutual

/-- Just the values whose integers are short have a literal form. -/
theorem showsIf_literal : ∀ v : Value, ShowsIf v.isShort (literal v)
  | null | bool true | bool false | double _ | text _ => .inl ⟨rfl, _, rfl⟩
  | int n => by
    rw [isShort, literal]
    exact showsIf_decimalText n
  | list items => by
    rw [isShort, literal]
    rcases showsIf_literals items with ⟨hshort, _, hshown⟩ | ⟨hlong, hshown⟩
    · exact .inl ⟨hshort, _, by rw [hshown]; rfl⟩
    · exact .inr ⟨hlong, by rw [hshown]; rfl⟩
  | dict entries => by
    rw [isShort, literal]
    rcases showsIf_entryLiterals entries with ⟨hshort, _, hshown⟩ | ⟨hlong, hshown⟩
    · exact .inl ⟨hshort, _, by rw [hshown]; rfl⟩
    · exact .inr ⟨hlong, by rw [hshown]; rfl⟩

/-- Just the lists whose integers are short have literal forms. -/
theorem showsIf_literals : ∀ vs : List Value, ShowsIf (areShort vs) (literals vs)
  | [] => .inl ⟨rfl, _, rfl⟩
  | v :: vs => by
    rw [areShort, literals]
    rcases showsIf_literal v with ⟨hshort, _, hshown⟩ | ⟨hlong, hshown⟩
    · rw [hshort, hshown, Bool.true_and]
      rcases showsIf_literals vs with ⟨hrest, _, hrest'⟩ | ⟨hrest, hrest'⟩
      · exact .inl ⟨hrest, _, by rw [hrest']; rfl⟩
      · exact .inr ⟨hrest, by rw [hrest']; rfl⟩
    · rw [hlong, hshown]
      exact .inr ⟨rfl, rfl⟩

/-- Just the entries whose integers are short have literal forms. -/
theorem showsIf_entryLiterals : ∀ es : List (String × Value),
    ShowsIf (areShortEntries es) (entryLiterals es)
  | [] => .inl ⟨rfl, _, rfl⟩
  | (_, v) :: rest => by
    rw [areShortEntries, entryLiterals]
    rcases showsIf_literal v with ⟨hshort, _, hshown⟩ | ⟨hlong, hshown⟩
    · rw [hshort, hshown, Bool.true_and]
      rcases showsIf_entryLiterals rest with ⟨hrest, _, hrest'⟩ | ⟨hrest, hrest'⟩
      · exact .inl ⟨hrest, _, by rw [hrest']; rfl⟩
      · exact .inr ⟨hrest, by rw [hrest']; rfl⟩
    · rw [hlong, hshown]
      exact .inr ⟨rfl, rfl⟩

end

/-- Just the values whose integers are short can be shown. -/
theorem showsIf_shown (v : Value) : ShowsIf v.isShort v.shown := by
  cases v with
  | text s => exact .inl ⟨rfl, s, rfl⟩
  | _ => exact showsIf_literal _

/-- Just the values whose integers are short have a text. -/
theorem showsIf_asText (v : Value) : ShowsIf v.isShort v.asText := by
  cases v with
  | null => exact .inl ⟨rfl, "", rfl⟩
  | _ => exact showsIf_shown _

/-- A value as an integer. -/
def toInteger : Value → Except NumberError Int
  | bool b => .ok (if b then 1 else 0)
  | int n => .ok n
  | double d => Reading.integerOfDouble d
  | text s => Reading.integer s
  | v => .error (.notNumeric v.kind)

/-- A value as a double. -/
def toDouble : Value → Except NumberError Double
  | bool b => .ok (Double.ofInt (if b then 1 else 0))
  | int n =>
    let d := Double.ofInt n
    if d.truncated?.isSome then .ok d else .error .tooGreat
  | double d => .ok d
  | text s =>
    match Reading.double? s with
    | some d => .ok d
    | none => .error (.notDouble s)
  | v => .error (.notReal v.kind)

end Concierge.Value
