import Concierge.Pattern.Reader
import Concierge.Value.Basic

/-!
# Trigger definitions

A definition describes a kind of directive: its identifier and name, the pattern of its text, the
names of its arguments, its settings and its budget. A draft becomes a definition when it has an
identifier, its pattern can be read, and the pattern has one group for each argument. Every
definition has a setting that enables it.
-/

namespace Concierge

/-- One setting of a trigger, as an administrator sees it. -/
structure SettingField where
  name : String
  kind : String := "text"
  label : String := ""
  fallback : Value := .null
  description : String := ""
  deriving DecidableEq

/-- The setting that every trigger has. -/
def SettingField.enabled : SettingField :=
  { name := "enabled", kind := "checkbox", label := "Enable this trigger", fallback := .bool true }

/-- How many executions a window of time admits. -/
structure RateRule where
  /-- The length of a window in seconds. -/
  window : Value := .int 60
  limit : Value := .int 10
  deriving DecidableEq

/-- Why a draft is no definition. -/
inductive DefinitionError where
  | emptyId
  | badPattern (id : String) (error : PatternError) (source : String)
  | groupMismatch (id : String) (groups params : Nat)
  deriving DecidableEq, Repr

namespace DefinitionError

/-- The wording of an error in a definition. -/
def message : DefinitionError → String
  | emptyId => "Trigger id must be a non-empty string"
  | badPattern _ ⟨.hugeBound, _⟩ _ => PatternFault.hugeBound.message
  | badPattern id error source =>
    "Trigger '" ++ id ++ "' has an invalid command pattern: " ++ error.message source
  | groupMismatch id groups params =>
    "Trigger '" ++ id ++ "' pattern has " ++ toString groups ++ " capturing group(s) but " ++
      toString params ++ " required param(s)"

/-- The class that an error in a definition is reported under. -/
def label : DefinitionError → String
  | badPattern _ ⟨.hugeBound, _⟩ _ => "OverflowError"
  | _ => "TriggerConfigError"

end DefinitionError

/-- A definition before it has been checked. -/
structure Draft where
  id : String
  name : String
  source : String
  required : List String := []
  description : String := ""
  settings : List SettingField := []
  budget : Option RateRule := none

/-- The description of a kind of directive. -/
structure Definition where
  id : String
  name : String
  pattern : Pattern
  /-- The names of the arguments, in the order of the groups of the pattern. -/
  required : List String
  description : String
  settings : List SettingField
  /-- The budget of each session; absent when the common one applies. -/
  budget : Option RateRule
  arity : pattern.groupCount = required.length

namespace Draft

/-- The settings of a draft, with the enabling one in front if it is not among them. -/
def allSettings (d : Draft) : List SettingField :=
  if d.settings.any (·.name == "enabled") then d.settings else .enabled :: d.settings

/-- Completes a draft whose pattern has been read. -/
def withPattern (d : Draft) (pattern : Pattern) : Except DefinitionError Definition :=
  if h : pattern.groupCount = d.required.length then
    .ok
      { id := d.id, name := d.name, pattern, required := d.required
        description := d.description, settings := d.allSettings, budget := d.budget, arity := h }
  else .error (.groupMismatch d.id pattern.groupCount d.required.length)

/-- Checks a draft, whose pattern is read by a reader of patterns. -/
def define (d : Draft) (read : String → Except PatternError Pattern := Pattern.ofSource) :
    Except DefinitionError Definition :=
  if d.id = "" then .error .emptyId
  else
    match read d.source with
    | .error e => .error (.badPattern d.id e d.source)
    | .ok pattern => d.withPattern pattern

end Draft

/-- The values of the settings of a definition when nothing is stored. -/
def Definition.defaults (d : Definition) : Dict Value :=
  Dict.ofEntries (d.settings.map fun f => (f.name, f.fallback))

end Concierge
