import Concierge.Console.Command
import Concierge.Store.Saved
import Std.Time.DateTime

/-!
# The program

The outer layer: it reads the arguments, the environment, the clock and the saved store, runs one
command, saves the store and prints.
-/

namespace Concierge.Program

/-- The environment variables that count. -/
def variableNames : List String :=
  Console.Invocation.pathVariable :: Config.fields.map fun f => Config.variableOf f.name

/-- The values of the environment variables that count. -/
def environment : IO (Dict String) := do
  let found ← variableNames.mapM fun name => do
    return (← IO.getEnv name).map fun value => (name, value)
  return found.filterMap fun e => e

/-- The reading of the clock. -/
def now : IO Instant := do
  let t ← Std.Time.Timestamp.now
  let micros := t.toNanosecondsSinceUnixEpoch.val / 1000
  return (719162 * (Instant.day : Int) + micros).toNat

/-- Saves a store at a place. -/
def save (place : Place) (store : Store) : IO Unit :=
  match place, store.saved with
  | .memory, _ => return
  | .file path, .ok text => IO.FS.writeFile path text
  | .file _, .error e => throw (IO.userError e.message)

/-- The saved store of a place; a file without one gets an empty store. -/
def load : Place → IO (Except PlaceError Store)
  | .memory => return .ok {}
  | .file path => do
    try
      match Store.ofSaved? (← IO.FS.readFile path) with
      | some store => return .ok store
      | none => return .error .notStore
    catch
      | .noFileOrDirectory .. =>
        try
          save (.file path) {}
          return .ok {}
        catch _ => return .error .unopenable
      | _ => return .error .unopenable

/-- Prints the lines of an ending, and gives its exit code. -/
def finish (e : Console.Invocation.Ending) : IO UInt32 := do
  let out ← IO.getStdout
  for line in e.lines do
    out.putStrLn line
  return UInt32.ofNat e.exitCode

end Concierge.Program

open Concierge in
/-- Runs the command that the arguments name. -/
def main (args : List String) : IO UInt32 := do
  let environment ← Program.environment
  match Console.Invocation.ofArguments environment args with
  | .error e =>
    IO.eprintln ("Error: " ++ e.message)
    return 2
  | .ok invocation =>
    match invocation.config environment with
    | .error problems =>
      Program.finish (Console.Invocation.failed (Config.Problem.message problems))
    | .ok config =>
      match config.place with
      | .error e => Program.finish (Console.Invocation.failed e.message)
      | .ok place =>
        match ← Program.load place with
        | .error e => Program.finish (Console.Invocation.failed e.message)
        | .ok store =>
          let (ending, store) := invocation.run config (← Program.now) store
          Program.save place store
          Program.finish ending
