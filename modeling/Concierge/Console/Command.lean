import Concierge.Assistant
import Concierge.Console.Arguments
import Concierge.Console.Report
import Concierge.Site.Sample
import Concierge.Trigger.Builtin

/-!
# Commands

The commands of an administrator: listing triggers, switching them on and off, showing and changing
settings, showing and clearing the audit log, firing a trigger, and dispatching the directives of a
text. Each command runs on the sample site with the store of a path.
-/

namespace Concierge.Console

/-- A command with its arguments. -/
inductive Command where
  | triggers
  | toggle (id : String) (on : Bool)
  | settings (id : String) (changes : Dict Value)
  | showLog (limit : Int)
  | clearLog
  | fire (id : String) (params : Params) (userId : Int) (session : String)
      (capabilities : List String)
  | dispatch (text : String) (userId : Int) (session : String) (capabilities : List String)
  | dryRun (text : String)

/-- A command, with the store that it uses and how much it tells. -/
structure Invocation where
  path : String
  isVerbose : Bool
  command : Command

namespace Command

/-- The text of an integer option. -/
def integerOf (text : String) : Except UsageError Int :=
  match Reading.integer text with
  | .ok n => .ok n
  | .error _ => .error (.notInteger text)

/-- The value of an integer option. -/
def integerOption (g : Given) (name : String) (fallback : Int) : Except UsageError Int :=
  match g.last? name with
  | some text => integerOf text
  | none => .ok fallback

/-- The one argument of a command. -/
def oneArgument (name : String) : List String → Except UsageError String
  | [] => .error (.missingArgument name)
  | [text] => .ok text
  | _ :: extra :: _ => .error (.extraArgument extra)

/-- The options that say on whose behalf a command acts. -/
def actorOptions : List OptionSpec :=
  [⟨"user", ["--user-id"], true⟩, ⟨"session", ["--session"], true⟩,
   ⟨"capability", ["--capability"], true⟩]

/-- The command with an identifier as its one argument. -/
def ofToggle (on : Bool) (args : List String) : Except UsageError Command := do
  let g ← parse [] true args
  return toggle (← oneArgument "TRIGGER_ID" g.arguments) on

/-- The command that lists triggers. -/
def ofTriggers (args : List String) : Except UsageError Command := do
  let g ← parse [] true args
  match g.arguments with
  | [] => return triggers
  | extra :: _ => throw (.extraArgument extra)

/-- The command that shows or changes settings. -/
def ofSettings (args : List String) : Except UsageError Command := do
  let g ← parse [] true args
  match g.arguments with
  | [] => throw (.missingArgument "TRIGGER_ID")
  | id :: changes => return settings id (← assignments changes)

/-- The command that shows or clears the log. -/
def ofLogs (args : List String) : Except UsageError Command := do
  let g ← parse [⟨"limit", ["-n", "--limit"], true⟩, ⟨"clear", ["--clear"], false⟩] true args
  let limit ← integerOption g "limit" 20
  match g.arguments with
  | [] => return if g.has "clear" then clearLog else showLog limit
  | extra :: _ => throw (.extraArgument extra)

/-- The command that fires a trigger. -/
def ofFire (args : List String) : Except UsageError Command := do
  let g ← parse actorOptions true args
  let userId ← integerOption g "user" 0
  match g.arguments with
  | [] => throw (.missingArgument "TRIGGER_ID")
  | id :: params =>
    return fire id (← assignments params) userId ((g.last? "session").getD "") (g.all "capability")

/-- The command that dispatches the directives of a text. -/
def ofDispatch (args : List String) : Except UsageError Command := do
  let g ← parse (⟨"dry", ["--dry-run"], false⟩ :: actorOptions) true args
  let userId ← integerOption g "user" 0
  let text ← oneArgument "TEXT" g.arguments
  if g.has "dry" then return dryRun text
  return dispatch text userId ((g.last? "session").getD "cli") (g.all "capability")

/-- The command with a name. -/
def ofName (name : String) (args : List String) : Except UsageError Command :=
  match name with
  | "triggers" => ofTriggers args
  | "enable" => ofToggle true args
  | "disable" => ofToggle false args
  | "settings" => ofSettings args
  | "logs" => ofLogs args
  | "fire" => ofFire args
  | "dispatch" => ofDispatch args
  | _ => .error (.unknownCommand name)

/-- The context of an actor on the console. -/
def actor (now : Instant) (userId : Int) (session : String) (capabilities : List String)
    (userMessage : String := "") : Context where
  userId := .int userId
  session := .text session
  timestamp := Timestamp.universal now
  userMessage := .text userMessage
  capabilities := sortedSet capabilities

/-- The names among some changes that are no settings of a definition. -/
def unknownSettings (d : Definition) (changes : Dict Value) : List String :=
  sortedSet ((Dict.keys changes).filter fun name => !Dict.has name d.defaults)

/-- The fault of settings that a trigger does not have. -/
def unknownSettingsFault (id : String) (names : List String) : Fault :=
  .raised
    { label := "BadParameter"
      message := "unknown setting(s) for " ++ id ++ ": " ++ String.intercalate ", " names }

open Assistant

/-- Changes settings, which have to be known, after cleaning them. -/
def change (d : Definition) (changes : Dict Value) : Run Site Unit := do
  let unknown := unknownSettings d changes
  if !unknown.isEmpty then throw (unknownSettingsFault d.id unknown)
  match Settings.clean changes with
  | .error e => throw (Fault.ofClean e)
  | .ok cleaned =>
    let _ ← act (Action.tryStore (Settings.keyOf d.id) fun now s =>
      Settings.update now d.id cleaned s)

/-- Which of some triggers are switched on. -/
def enabledOf : List (Trigger Site) → Run Site (Dict Bool)
  | [] => pure []
  | t :: rest => do
    let on ← act (Action.tryStore (Settings.keyOf t.id) fun now s =>
      Settings.isEnabled now t.definition s)
    return (t.id, on) :: (← enabledOf rest)

/-- Carries out a command, and gives what it prints. -/
def perform : Command → Run Site Lines
  | triggers => do
    let ts ← use Registry.all
    return triggerTable ts (← enabledOf ts)
  | toggle id on => do
    let _ ← setEnabled id (.bool on)
    let state := if on then "[green]enabled[/green]" else "[red]disabled[/red]"
    return printed ("Trigger [cyan]" ++ id ++ "[/cyan] " ++ state)
  | settings id changes => do
    let t ← use (Registry.lookUp id)
    if !changes.isEmpty then change t.definition changes
    let values ← act (Action.tryStore (Settings.keyOf t.id) fun now s =>
      Settings.resolve now t.definition s)
    return settingLines (.text id) (values.map fun e => (.text e.1, e.2))
  | showLog limit => do
    let log := (← get).executor.log
    let entries ← act (Action.tryStore log.key fun now s => log.recent now (some limit) s)
    return logTable entries
  | clearLog => do
    let log := (← get).executor.log
    act (Action.onStore log.key fun now s => ((), log.clear now s))
    return printed "Audit log cleared."
  | fire id params userId session capabilities => do
    let now := (← get).world.now
    let session := if session = "" then trialSession (Timestamp.universal now) else session
    let r ← execute id (.dict params) (actor now userId session capabilities "Test message")
    return resultLines (.text id) (.bool r.success) (.text r.message) (.dict r.data)
  | dispatch text userId session capabilities => do
    let clean ← strip (.text text)
    let now := (← get).world.now
    let reports ← Assistant.dispatch (.text text) (actor now userId session capabilities)
    return dispatchLines reports clean
  | dryRun text => do
    let clean ← strip (.text text)
    return directiveLines (← find (.text text)) clean

end Command

namespace Invocation

/-- The path of the store when no other one is given. -/
def defaultPath : String := ".smartassist.db"

/-- The environment variable that holds the path. -/
def pathVariable : String := "SMARTASSIST_DB"

/-- The path that the options or the environment give. -/
def pathOf (g : Given) (environment : Dict String) : String :=
  let configured := ((Dict.find? pathVariable environment).filter (· != "")).getD defaultPath
  (g.last? "db").getD configured

/-- Parses the arguments of the program. -/
def ofArguments (environment : Dict String) (args : List String) :
    Except UsageError Invocation := do
  let g ← parse [⟨"db", ["--db"], true⟩, ⟨"verbose", ["-v", "--verbose"], false⟩] false args
  match g.arguments with
  | [] => throw .noCommand
  | name :: rest =>
    let command ← Command.ofName name rest
    return ⟨pathOf g environment, g.has "verbose", command⟩

/-- The configuration of an invocation. -/
def config (i : Invocation) (environment : Dict String) :
    Except (List Config.Problem) Config :=
  Config.ofEnvironment environment
    [("db_path", .text i.path), ("verbose", .bool i.isVerbose)]

/-- What an invocation prints, and how it ends. -/
structure Ending where
  exitCode : Nat
  lines : List String
  /-- An error message that could not be shown. -/
  unshown : Option Unshown := none

/-- The ending with an error. -/
def failed (message : String) : Ending :=
  match errorLines message with
  | .ok lines => ⟨1, lines, none⟩
  | .error e => ⟨1, [], some e⟩

/-- The ending of a command. -/
def ended : Except Fault Lines → Ending
  | .ok (.ok lines) => ⟨0, lines, none⟩
  | .ok (.error e) => failed e.message
  | .error f => failed f.message

/-- The address that mail is sent from. -/
def adminEmail : String := "admin@example.com"

/-- The assistant of a configuration on the sample site. -/
def assistant (c : Config) (now : Instant) (store : Store) : Except Fault (Assistant Site) := do
  let executor ← Assistant.executorOf c
  return {
    world := { now, store, site := Site.sample }
    registry := { builtins := builtinTriggers ⟨c.siteName, adminEmail⟩ true }
    executor
    order := c.order
    config := c }

/-- Runs an invocation on a store. -/
def run (i : Invocation) (c : Config) (now : Instant) (store : Store) : Ending × Store :=
  match assistant c now store with
  | .error f => (failed f.message, store)
  | .ok a =>
    let (result, a) := i.command.perform a
    (ended result, a.world.store)

end Invocation

end Concierge.Console
