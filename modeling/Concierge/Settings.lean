import Concierge.World

/-!
# Settings

The settings of a trigger are a dictionary that is stored without expiry. Where a setting is not
stored, the definition's value for it counts. What an administrator enters is cleaned by the name of
the setting before it is stored.
-/

namespace Concierge.Settings

/-- The texts that count as true, in small letters. -/
def trueWords : List (List Char) := ["1".toList, "true".toList, "yes".toList, "on".toList]

/-- A stored value as a switch: a text is on if it is one of the words for true, and any other value
is on if it counts as true. -/
def isOn : Value → Bool
  | .text s => trueWords.contains (Text.lowered (Text.strip s.toList))
  | v => v.truthy

/-- A value as the text of a single line. -/
def lineOf (v : Value) : Except CleanError Value := ((Clean.line v).map Value.text).mapError .number

/-- Cleans one setting by its name. -/
def cleanSetting (name : String) (v : Value) : Except CleanError Value :=
  if name = "enabled" then .ok (.bool (isOn v))
  else if Text.contains "email" name then ((Clean.email v).map Value.text).mapError .number
  else if Text.contains "url" name then (Clean.url v).map Value.text
  else
    match v with
    | .list items => do return .list (← items.mapM lineOf)
    | v => lineOf v

/-- Cleans the settings that an administrator enters. -/
def clean (values : Dict Value) : Except CleanError (Dict Value) :=
  values.mapM fun (name, v) => do return (name, ← cleanSetting name v)

/-- The key of the settings of a trigger. -/
def keyOf (id : String) : String := "trigger_settings:" ++ id

/-- The settings that a stored value holds. -/
def ofStored (id : String) : Value → Except StorageError (Dict Value)
  | .null => .ok []
  | .dict d => .ok d
  | v => .error (.notSettings id v.kind)

/-- The stored settings of a trigger. -/
def get (now : Instant) (id : String) (s : Store) : Except Fault (Dict Value) × Store :=
  let (stored, s) := s.get now (keyOf id)
  ((ofStored id stored).mapError .storage, s)

/-- Replaces the stored settings of a trigger. -/
def set (now : Instant) (id : String) (values : Dict Value) (s : Store) : Except Fault Unit × Store :=
  let (written, s) := s.set now (keyOf id) (.dict values)
  (written.mapError Fault.ofSet, s)

/-- Changes some of the stored settings of a trigger, and gives all of them. -/
def update (now : Instant) (id : String) (changes : Dict Value) (s : Store) :
    Except Fault (Dict Value) × Store :=
  match get now id s with
  | (.ok stored, s) =>
    let merged := Dict.merge stored changes
    let (written, s) := set now id merged s
    (written.map fun _ => merged, s)
  | (.error f, s) => (.error f, s)

/-- The settings of a trigger with the definition's values where nothing is stored. -/
def resolve (now : Instant) (d : Definition) (s : Store) : Except Fault (Dict Value) × Store :=
  let (stored, s) := get now d.id s
  (stored.map fun values => Dict.merge d.defaults values, s)

/-- The trigger is switched on. -/
def isEnabled (now : Instant) (d : Definition) (s : Store) : Except Fault Bool × Store :=
  let (values, s) := resolve now d s
  (values.map fun values => isOn ((Dict.find? "enabled" values).getD (.bool true)), s)

/-- Switches a trigger on or off. -/
def setEnabled (now : Instant) (d : Definition) (on : Value) (s : Store) :
    Except Fault (Dict Value) × Store :=
  update now d.id [("enabled", on)] s

end Concierge.Settings
