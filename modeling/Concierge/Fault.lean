import Concierge.Address.Basic
import Concierge.Clean.Argument
import Concierge.Completion.Error
import Concierge.Definition
import Concierge.Store.Basic
import Concierge.Store.Place
import Concierge.Text.Ascii
import Concierge.Time.Reading
import Concierge.Value.Record

/-!
# Faults

A fault is any cause for which an operation gives no result: an error of one of the parts of the
library, or something that a trigger, an extension or a listener raised. Faults are ordinary, except
for interrupts, which no part of the library may recover from.
-/

namespace Concierge

/-- What was raised outside the library. -/
structure Raised where
  label : String
  message : String
  /-- Facts that are reported beside the message. -/
  details : Dict Value := []
  isInterrupt : Bool := false
  deriving DecidableEq

/-- A stored value of the wrong kind. -/
inductive StorageError where
  | notLog (key kind : String)
  | notSettings (id kind : String)
  deriving DecidableEq, Repr

/-- The wording of an error in a stored value. -/
def StorageError.message : StorageError → String
  | notLog key kind => "Audit log under '" ++ key ++ "' is " ++ kind ++ ", expected list"
  | notSettings id kind => "Settings for trigger '" ++ id ++ "' are " ++ kind ++ ", expected mapping"

/-- A chat turn that is not answered. -/
inductive ChatError where
  /-- The message is empty. -/
  | noMessage
  /-- The session has sent too many messages within a window of so many seconds. -/
  | limited (session window : Value)
  deriving DecidableEq

/-- The wording of a chat error. -/
def ChatError.message : ChatError → String
  | noMessage => "Please enter a message."
  | limited .. => "Please wait a moment before sending another message."

/-- Why an operation gives no result. -/
inductive Fault where
  | number (error : NumberError)
  | time (error : TimeError)
  | timestamp (error : TimestampError)
  | shape (error : ShapeError)
  | record (error : RecordError)
  | url (error : UrlError)
  | address (error : Address.AddressError)
  | ascii (error : Text.AsciiError)
  | definition (error : DefinitionError)
  | storage (error : StorageError)
  | chat (error : ChatError)
  | completion (error : CompletionError)
  /-- No trigger has the identifier. -/
  | unknownTrigger (id : Value)
  /-- Directives cannot be dispatched in this order. -/
  | unknownOrder (order : String)
  /-- An audit log cannot have this capacity. -/
  | badCapacity (capacity : Int)
  /-- What kind the address is cannot be told. -/
  | unknownKind (link : String)
  /-- A value of this kind stands where a text is needed. -/
  | notText (kind : String)
  /-- The store is gone in which the row of a key was looked for. -/
  | storeLost (key : String)
  /-- A value of a kind, `array` or `object`, is nested too deeply to be read. -/
  | tooNested (kind : String)
  /-- A value cannot be written to the store. -/
  | unwritten (error : NumberError)
  | raised (error : Raised)
  deriving DecidableEq

namespace Fault

/-- An error of cleaning as a fault. -/
def ofClean : CleanError → Fault
  | .number e => number e
  | .url e => url e
  | .shape e => shape e

/-- An error of setting a key as a fault. -/
def ofSet : Store.SetError → Fault
  | .time e => time e
  | .unwritten e => unwritten e

/-- The class that a fault is reported under. -/
def label : Fault → String
  | number e => e.label
  | time e => e.label
  | timestamp e => e.label
  | shape e => e.label
  | record _ => "TypeError"
  | url _ => "ValueError"
  | address _ => "InvalidURL"
  | ascii _ => "UnicodeEncodeError"
  | definition e => e.label
  | storage _ => "StorageError"
  | chat .noMessage => "ChatInputError"
  | chat (.limited ..) => "ChatRateLimitedError"
  | completion e => e.kind.label
  | unknownTrigger _ => "TriggerNotFoundError"
  | unknownOrder _ | badCapacity _ | unknownKind _ => "ValueError"
  | notText _ => "TypeError"
  | storeLost _ => "OperationalError"
  | tooNested _ => "RecursionError"
  | unwritten _ => "StatementError"
  | raised e => e.label

/-- The wording of the fault that the row of a key was looked for in a store that is gone. -/
def lostMessage (key : String) : String :=
  "(sqlite3.OperationalError) no such table: kv_store\n" ++
    "[SQL: SELECT kv_store.\"key\" AS kv_store_key, kv_store.value_json AS kv_store_value_json, " ++
    "kv_store.expires_at AS kv_store_expires_at, kv_store.updated_at AS kv_store_updated_at \n" ++
    "FROM kv_store \nWHERE kv_store.\"key\" = ?]\n[parameters: (" ++ Text.quoted key ++
    ",)]\n" ++ explained "e3q8"

/-- The wording of a fault. -/
def message : Fault → String
  | number e => e.message
  | time e => e.message
  | timestamp e => e.message
  | shape e => e.message
  | record e => e.message
  | url e => e.message
  | address e => e.message
  | ascii e => e.message
  | definition e => e.message
  | storage e => e.message
  | chat e => e.message
  | completion e => e.message
  | unknownTrigger id => "Trigger not found: " ++ id.word
  | unknownOrder order => "Unknown dispatch order: " ++ Text.quoted order
  | badCapacity capacity => "Audit log capacity must be >= 1, got " ++ toString capacity
  | unknownKind link => "unknown url type: " ++ Text.quoted link
  | notText kind => "expected string or bytes-like object, got '" ++ kind ++ "'"
  | storeLost key => lostMessage key
  | tooNested kind =>
    "maximum recursion depth exceeded while decoding a JSON " ++ kind ++ " from a unicode string"
  | unwritten e => "(builtins." ++ e.label ++ ") " ++ e.message
  | raised e => e.message

/-- The facts that are reported beside the message of a fault. -/
def details : Fault → Dict Value
  | completion e =>
    match e.kind with
    | .limited => [("retry_after", (e.retryAfter.map Value.double).getD .null)]
    | .refused => [("status_code", (e.status.map Value.int).getD .null)]
    | _ => []
  | chat (.limited session window) =>
    [("session_id", session), ("window_seconds", window)]
  | unknownTrigger id => [("trigger_id", id)]
  | raised e => e.details
  | _ => []

/-- No part of the library may recover from the fault. -/
def isInterrupt : Fault → Bool
  | raised e => e.isInterrupt
  | _ => false

/-- A fault with its class, as a verbose report shows it. -/
def detail (f : Fault) : String := f.label ++ ": " ++ f.message

end Fault

end Concierge
