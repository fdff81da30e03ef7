import Concierge.Value.Amount
import Concierge.Value.Shown

/-!
# Access to parts of a value

A value whose shape is not known is taken apart step by step, and each step that does not fit the
shape has its own error.
-/

namespace Concierge

/-- A part of a value that is not there. -/
inductive ShapeError where
  /-- No entry has the key, shown in its literal form. -/
  | missingKey (key : String)
  /-- A value of this kind has no parts. -/
  | notSubscriptable (kind : String)
  /-- A list has no part with a name. -/
  | namedListItem
  /-- A text has no part with a name. -/
  | namedCharacter
  /-- A list or text is too short; the word says which of them. -/
  | beyondEnd (word : String)
  /-- A value of this kind has no look-up of entries. -/
  | noEntries (kind : String)
  /-- A value of this kind has no list of entries. -/
  | noItems (kind : String)
  /-- A value of this kind has no placeholders to replace. -/
  | noPlaceholders (kind : String)
  /-- A value of this kind has no members. -/
  | notIterable (kind : String)
  /-- A member of a list that should be a pair has no members itself. -/
  | notPair (position : Nat)
  /-- A member of a list that should be a pair has another number of members. -/
  | pairLength (position count : Nat)
  /-- A value of this kind cannot be a key. -/
  | notKey (kind : String)
  /-- A value of this kind has no words. -/
  | noWords (kind : String)
  /-- A value of this kind has no small letters. -/
  | noLetters (kind : String)
  /-- A value of this kind cannot be put in place of a placeholder. -/
  | notReplacement (kind : String)
  /-- A value of this kind is no name of a placeholder. -/
  | notName (kind : String)
  /-- A value is no place in a list. -/
  | notIndex
  /-- Values of two kinds are in no order that the operator tells. -/
  | incomparable (operator left right : String)
  deriving DecidableEq, Repr

namespace ShapeError

/-- The wording of a shape error. -/
def message : ShapeError → String
  | missingKey key => key
  | notSubscriptable kind => "'" ++ kind ++ "' object is not subscriptable"
  | namedListItem => "list indices must be integers or slices, not str"
  | namedCharacter => "string indices must be integers, not 'str'"
  | beyondEnd word => word ++ " index out of range"
  | noEntries kind => "'" ++ kind ++ "' object has no attribute 'get'"
  | noItems kind => "'" ++ kind ++ "' object has no attribute 'items'"
  | noPlaceholders kind => "'" ++ kind ++ "' object has no attribute 'replace'"
  | notIterable kind => "'" ++ kind ++ "' object is not iterable"
  | notPair position =>
    "cannot convert dictionary update sequence element #" ++ toString position ++ " to a sequence"
  | pairLength position count =>
    "dictionary update sequence element #" ++ toString position ++ " has length " ++
      toString count ++ "; 2 is required"
  | notKey kind => "unhashable type: '" ++ kind ++ "'"
  | noWords kind => "'" ++ kind ++ "' object has no attribute 'split'"
  | noLetters kind => "'" ++ kind ++ "' object has no attribute 'lower'"
  | notReplacement kind =>
    "replace() argument 2 must be str, not " ++ (if kind = "NoneType" then "None" else kind)
  | notName kind => "can only concatenate str (not \"" ++ kind ++ "\") to str"
  | notIndex => "slice indices must be integers or None or have an __index__ method"
  | incomparable operator left right =>
    "'" ++ operator ++ "' not supported between instances of '" ++ left ++ "' and '" ++ right ++ "'"

/-- The class that a shape error is reported under. -/
def label : ShapeError → String
  | missingKey _ => "KeyError"
  | beyondEnd _ => "IndexError"
  | noEntries _ | noItems _ | noPlaceholders _ | noWords _ | noLetters _ =>
    "AttributeError"
  | pairLength _ _ => "ValueError"
  | _ => "TypeError"

/-- A shape error as it is shown inside the message of another error. -/
def literal (e : ShapeError) : String :=
  let argument := match e with
    | missingKey key => key
    | e => Text.quoted e.message
  e.label ++ "(" ++ argument ++ ")"

end ShapeError

namespace Value

/-- The part of a value under a name. -/
def field (name : String) : Value → Except ShapeError Value
  | dict entries =>
    match Dict.find? name entries with
    | some v => .ok v
    | none => .error (.missingKey (Text.quoted name))
  | list _ => .error .namedListItem
  | text _ => .error .namedCharacter
  | v => .error (.notSubscriptable v.kind)

/-- The first part of a value. -/
def first : Value → Except ShapeError Value
  | dict _ => .error (.missingKey "0")
  | list (v :: _) => .ok v
  | list [] => .error (.beyondEnd "list")
  | text s =>
    match s.toList with
    | c :: _ => .ok (text (String.singleton c))
    | [] => .error (.beyondEnd "string")
  | v => .error (.notSubscriptable v.kind)

/-- The entry of a dictionary, absent when there is none; only a dictionary can be asked. -/
def entry (name : String) : Value → Except ShapeError Value
  | dict entries => .ok ((Dict.find? name entries).getD null)
  | v => .error (.noEntries v.kind)

/-- The part of a value under a name, or another value when there is none. -/
def fieldOr (name : String) (v other : Value) : Value :=
  match v with
  | dict entries => (Dict.find? name entries).getD other
  | _ => other

/-- The entries of a dictionary; nothing else has any. -/
def entries : Value → Except ShapeError (Dict Value)
  | dict entries => .ok entries
  | v => .error (.noItems v.kind)

/-- The members of a value: the items of a list, the characters of a text, the keys of a
dictionary. -/
def members : Value → Except ShapeError (List Value)
  | list items => .ok items
  | text s => .ok (s.toList.map fun c => text (String.singleton c))
  | dict entries => .ok (entries.map fun e => text e.1)
  | v => .error (.notIterable v.kind)

/-- The name under which a store keeps a key. -/
def storedName : Value → String
  | null => "null"
  | bool b => if b then "true" else "false"
  | double d =>
    match d.form with
    | .nan => "NaN"
    | .infinite negative => if negative then "-Infinity" else "Infinity"
    | .finite .. => d.text
  | v => v.word

/-- A value can be a key. -/
def isKey : Value → Bool
  | list _ | dict _ => false
  | _ => true

/-- The pairs that a list of members stands for; the position is that of the first of them. -/
def pairs : Nat → List Value → Except ShapeError (List (Value × Value))
  | _, [] => .ok []
  | position, v :: vs => do
    let parts ← match v.members with
      | .ok parts => pure parts
      | .error _ => throw (.notPair position)
    match parts with
    | [key, value] =>
      if !key.isKey then throw (.notKey key.kind)
      let rest ← pairs (position + 1) vs
      return (key, value) :: rest
    | parts => throw (.pairLength position parts.length)

/-- Sets a key of any kind: in place when it is present, at the end otherwise. -/
def setKey (key value : Value) : List (Value × Value) → List (Value × Value)
  | [] => [(key, value)]
  | (k, v) :: rest =>
    if k.isSameKey key then (k, value) :: rest else (k, v) :: setKey key value rest

/-- A value as a dictionary: a dictionary itself, or the pairs among the members of another value. The
keys get names. -/
def toDict (name : Value → String := word) : Value → Except ShapeError (Dict Value)
  | dict entries => .ok entries
  | v => do
    let ps ← pairs 0 (← v.members)
    let keyed := ps.foldl (fun es (key, value) => setKey key value es) []
    return Dict.ofEntries (keyed.map fun (key, value) => (name key, value))

end Value

end Concierge
