import Concierge.Fault

/-!
# Faults by name

What an application raises is known by the name of its class and by its arguments: the faults of the
library itself, those of the system, which are told apart by their numbers, and any other.
-/

namespace Concierge.Fault

/-- The classes of which no part of the library may recover. -/
def interrupts : List String := ["KeyboardInterrupt", "SystemExit", "GeneratorExit"]

/-- The classes of system errors by their numbers. -/
def systemErrors : List (Int × String) :=
  [(1, "PermissionError"), (2, "FileNotFoundError"), (3, "ProcessLookupError"),
   (4, "InterruptedError"), (10, "ChildProcessError"), (11, "BlockingIOError"),
   (13, "PermissionError"), (17, "FileExistsError"), (20, "NotADirectoryError"),
   (21, "IsADirectoryError"), (32, "BrokenPipeError"), (103, "ConnectionAbortedError"),
   (104, "ConnectionResetError"), (110, "TimeoutError"), (111, "ConnectionRefusedError")]

/-- The name is that of a system error. -/
def isSystemError (name : String) : Bool :=
  name == "OSError" || (systemErrors.map Prod.snd).contains name

/-- The kind of a completion error by the name of its class. -/
def completionKind? : String → Option CompletionKind
  | "LLMConfigError" => some .unconfigured
  | "LLMAuthError" => some .unauthorized
  | "LLMUnavailableError" => some .unavailable
  | "LLMResponseError" => some .malformed
  | _ => none

/-- The literal form of an argument; the arguments of an error can be shown. -/
def argument (v : Value) : String := v.literal.toOption.getD ""

/-- The wording of an error that is made of some arguments. -/
def wording : List Value → String
  | [] => ""
  | [v] => v.word
  | vs => "(" ++ String.intercalate ", " (vs.map argument) ++ ")"

/-- A file in the wording of a system error. -/
def fileText (lead : String) : Value → String
  | .null => ""
  | v => lead ++ argument v

/-- The wording of a system error: its number, what happened, and the files that are concerned. -/
def systemWording : List Value → String
  | [code, m] => "[Errno " ++ code.word ++ "] " ++ m.word
  | [code, m, file] | [code, m, file, _] =>
    "[Errno " ++ code.word ++ "] " ++ m.word ++ fileText ": " file
  | [code, m, file, _, other] =>
    "[Errno " ++ code.word ++ "] " ++ m.word ++ fileText ": " file ++ fileText " -> " other
  | args => wording args

/-- The class of a system error with some arguments. -/
def systemLabel (name : String) : List Value → String
  | .int n :: _ :: rest =>
    if name == "OSError" && rest.length ≤ 3 then (systemErrors.lookup n).getD name else name
  | _ => name

/-- The fault of a class with some arguments. -/
def named (name : String) (args : List Value) : Fault :=
  match name, args with
  | "LLMRateLimitError", [] => .completion (.rateLimited "Rate limited" none)
  | "LLMRateLimitError", [m] | "LLMRateLimitError", [m, .null] =>
    .completion (.rateLimited m.word none)
  | "LLMRateLimitError", [m, .double d] => .completion (.rateLimited m.word (some d))
  | "LLMRateLimitError", [m, v] =>
    .raised
      { label := name, message := m.word ++ " (retry after " ++ v.word ++ "s)"
        details := [("retry_after", v)] }
  | "LLMRequestError", [m, .int n] => .completion ⟨.refused, m.word, none, some n⟩
  | "ChatRateLimitedError", [session, window] => .chat (.limited session window)
  | "TriggerNotFoundError", [v] => .unknownTrigger v
  | "KeyError", [v] => .raised { label := name, message := argument v }
  | name, args =>
    match completionKind? name with
    | some kind => .completion ⟨kind, wording args, none, none⟩
    | none =>
      if isSystemError name then
        .raised { label := systemLabel name args, message := systemWording args }
      else
        .raised { label := name, message := wording args, isInterrupt := interrupts.contains name }

/-- The fault that a list of a name and arguments stands for. -/
def ofList (vs : List Value) : Fault :=
  match vs with
  | name :: args => named name.word args
  | [] => named "Exception" []

end Concierge.Fault
