import Concierge.Value.Access

/-!
# Records

A record is a dictionary whose names are known. It is read leniently: a part that is missing or null
has a default, and so has one of the wrong kind, except that any value can be read as a text or as a
truth value. A record that is checked has no other parts than it may have, and all that it must have.
-/

namespace Concierge

/-- Why a record is refused. -/
inductive RecordError where
  /-- A record of this name has no such part. -/
  | unknownPart (record part : String)
  /-- A record of this name must have these parts. -/
  | missingParts (record : String) (parts : List String)
  /-- An operation of this name has the part already. -/
  | givenTwice (operation part : String)
  deriving DecidableEq, Repr

/-- Names in quotes, with a word in front of the last one. -/
def RecordError.listed (names : List String) : String :=
  match (names.map fun n => "'" ++ n ++ "'").reverse with
  | [] => ""
  | [only] => only
  | [last, first] => first ++ " and " ++ last
  | last :: rest => String.intercalate ", " rest.reverse ++ ", and " ++ last

/-- The wording of a record error. -/
def RecordError.message : RecordError → String
  | unknownPart record part =>
    record ++ ".__init__() got an unexpected keyword argument '" ++ part ++ "'"
  | missingParts record parts =>
    record ++ ".__init__() missing " ++ toString parts.length ++ " required positional argument" ++
      (if parts.length = 1 then "" else "s") ++ ": " ++ RecordError.listed parts
  | givenTwice operation part =>
    operation ++ "() got multiple values for argument '" ++ part ++ "'"

end Concierge

namespace Concierge.Value

/-- Checks the parts of a record of a name. -/
def checkParts (name : String) (required optional : List String) (v : Value) :
    Except RecordError Unit :=
  let given := match v with
    | dict entries => Dict.keys entries
    | _ => []
  match given.find? fun part => !(required ++ optional).contains part with
  | some part => .error (.unknownPart name part)
  | none =>
    match required.filter fun part => !given.contains part with
    | [] => .ok ()
    | parts => .error (.missingParts name parts)

/-- Checks that an operation does not have one of some parts already. -/
def checkFresh (operation : String) (taken : List String) (given : Dict Value) :
    Except RecordError Unit :=
  match (Dict.keys given).find? taken.contains with
  | some part => .error (.givenTwice operation part)
  | none => .ok ()

/-- The text under a name; what is there is read as a word. -/
def textAt (name : String) (v : Value) (other : String := "") : String :=
  match v.fieldOr name .null with
  | null => other
  | found => found.word

/-- The integer under a name. -/
def integerAt (name : String) (v : Value) (other : Int := 0) : Int :=
  match v.fieldOr name .null with
  | int n => n
  | bool b => if b then 1 else 0
  | _ => other

/-- The truth value under a name; what is there counts by its truth. -/
def flagAt (name : String) (v : Value) (other : Bool := false) : Bool :=
  (v.fieldOr name (.bool other)).truthy

/-- The items of the list under a name. -/
def itemsAt (name : String) (v : Value) : List Value :=
  match v.fieldOr name .null with
  | list items => items
  | _ => []

/-- The texts of the list under a name. -/
def textsAt (name : String) (v : Value) : List String := (v.itemsAt name).map word

/-- The entries of the dictionary under a name. -/
def entriesAt (name : String) (v : Value) : Dict Value :=
  match v.fieldOr name .null with
  | dict entries => entries
  | _ => []

end Concierge.Value
