import Concierge.Number.Reading
import Concierge.Text.Replace
import Concierge.Value.Basic

/-!
# Command-line arguments

Arguments are options and plain arguments. A long option may have its value behind an equals sign, a
short one directly behind its letter, and either in the argument that follows. Two dashes alone end
the options.
-/

namespace Concierge.Console

/-- Why the arguments of a command are refused. -/
inductive UsageError where
  | unknownOption (name : String)
  /-- An option that takes a value stands last. -/
  | missingValue (name : String)
  /-- An option that takes no value has one. -/
  | unexpectedValue (name : String)
  | missingArgument (name : String)
  | extraArgument (text : String)
  | notInteger (text : String)
  | unknownCommand (name : String)
  | noCommand
  /-- An argument is not of the form `key=value`. -/
  | notAssignment (text : String)
  deriving DecidableEq, Repr

/-- The wording of a usage error. -/
def UsageError.message : UsageError → String
  | unknownOption name => "no such option: " ++ name
  | missingValue name => "option " ++ name ++ " requires an argument"
  | unexpectedValue name => "option " ++ name ++ " does not take a value"
  | missingArgument name => "missing argument " ++ name
  | extraArgument text => "unexpected extra argument " ++ text
  | notInteger text => Text.quoted text ++ " is not a valid integer"
  | unknownCommand name => "no such command: " ++ name
  | noCommand => "missing command"
  | notAssignment text => "expected KEY=VALUE, got " ++ Text.quoted text

/-- An option: its names with their dashes, and whether it takes a value. -/
structure OptionSpec where
  name : String
  spellings : List String
  takesValue : Bool
  deriving DecidableEq, Repr

/-- The options that were given, in order, and the plain arguments. -/
structure Given where
  options : List (String × String) := []
  arguments : List String := []
  deriving DecidableEq, Repr

namespace Given

/-- The last value of an option. -/
def last? (g : Given) (name : String) : Option String :=
  (g.options.reverse.find? (·.1 == name)).map Prod.snd

/-- All values of an option. -/
def all (g : Given) (name : String) : List String :=
  (g.options.filter (·.1 == name)).map Prod.snd

/-- An option was given. -/
def has (g : Given) (name : String) : Bool := (g.last? name).isSome

end Given

/-- The option with a spelling. -/
def spelled (specs : List OptionSpec) (spelling : String) : Except UsageError OptionSpec :=
  match specs.find? (·.spellings.contains spelling) with
  | some spec => .ok spec
  | none => .error (.unknownOption spelling)

/-- A long option and what is left of the arguments behind it. -/
def longOption (specs : List OptionSpec) (text : List Char) (rest : List String) :
    Except UsageError (List (String × String) × List String) := do
  let (name, value?) := match Text.cutAt? '=' text with
    | some (name, value) => (name, some (String.ofList value))
    | none => (text, none)
  let name := String.ofList name
  let spec ← spelled specs name
  match spec.takesValue, value?, rest with
  | true, some value, rest => return ([(spec.name, value)], rest)
  | true, none, value :: rest => return ([(spec.name, value)], rest)
  | true, none, [] => throw (.missingValue name)
  | false, some _, _ => throw (.unexpectedValue name)
  | false, none, rest => return ([(spec.name, "")], rest)

/-- The short options behind one dash, and what is left of the arguments behind them. -/
def shortOptions (specs : List OptionSpec) (rest : List String) :
    List Char → Except UsageError (List (String × String) × List String)
  | [] => .ok ([], rest)
  | c :: cs => do
    let name := String.ofList ['-', c]
    let spec ← spelled specs name
    if spec.takesValue then
      match cs, rest with
      | [], value :: rest => return ([(spec.name, value)], rest)
      | [], [] => throw (.missingValue name)
      | cs, rest => return ([(spec.name, String.ofList cs)], rest)
    else
      let (more, rest) ← shortOptions specs rest cs
      return ((spec.name, "") :: more, rest)

/-- Parses arguments. With `interspersed`, options may follow plain arguments; otherwise the first
plain argument ends the options. Every round takes at least one argument. -/
def parseFrom (specs : List OptionSpec) (interspersed : Bool) : Nat → List String →
    Except UsageError Given
  | 0, args => .ok { arguments := args }
  | _ + 1, [] => .ok {}
  | fuel + 1, arg :: rest =>
    match arg.toList with
    | ['-', '-'] => .ok { arguments := rest }
    | '-' :: '-' :: _ => do
      let (options, rest) ← longOption specs arg.toList rest
      let g ← parseFrom specs interspersed fuel rest
      return { g with options := options ++ g.options }
    | '-' :: c :: cs => do
      let (options, rest) ← shortOptions specs rest (c :: cs)
      let g ← parseFrom specs interspersed fuel rest
      return { g with options := options ++ g.options }
    | _ =>
      if interspersed then do
        let g ← parseFrom specs interspersed fuel rest
        return { g with arguments := arg :: g.arguments }
      else .ok { arguments := arg :: rest }

/-- Parses arguments. -/
def parse (specs : List OptionSpec) (interspersed : Bool) (args : List String) :
    Except UsageError Given := parseFrom specs interspersed args.length args

/-- An assignment `key=value`; blanks around the key do not count. -/
def assignment (text : String) : Except UsageError (String × Value) :=
  match Text.cutAt? '=' text.toList with
  | some (c :: cs, value) =>
    .ok (String.ofList (Text.strip (c :: cs)), .text (String.ofList value))
  | _ => .error (.notAssignment text)

/-- Assignments as a dictionary. -/
def assignments (texts : List String) : Except UsageError (Dict Value) := do
  return Dict.ofEntries (← texts.mapM assignment)

end Concierge.Console
