import Concierge.Json.Reader
import Concierge.Json.Writer
import Concierge.Store.Basic

/-!
# Stores as text

A store is saved as a JSON list of rows. Each row is a list of a key, the text of a value and an
expiry in microseconds, which is null for a row that does not expire. A database also records the
version of its schema.
-/

namespace Concierge.Store

/-- The version of the schema of a new database. -/
def schemaVersion : String := "1"

/-- The version of a database after it has been opened: that which is recorded, or else that of a new
database. -/
def openedVersion (recorded : Option String) : String := recorded.getD schemaVersion

/-- A row as a value. -/
def rowValue (e : String × Row) : Value :=
  .list [.text e.1, e.2.value, (e.2.expiry.map fun t => Value.int t).getD .null]

/-- The row that a value stands for. -/
def rowOf? : Value → Option (String × Row)
  | .list [.text key, v, .null] => if h : v.isShort then some (key, ⟨v, none, h⟩) else none
  | .list [.text key, v, .int (.ofNat t)] => if h : v.isShort then some (key, ⟨v, some t, h⟩) else none
  | _ => none

/-- The text of a store; there is none if a value cannot be written. -/
def saved (s : Store) : Except NumberError String := Json.write Json.compact (.list (s.rows.map rowValue))

/-- Reads the text of a store. -/
def ofSaved? (text : String) : Option Store :=
  match Json.read? text with
  | some (.list rows) => (rows.mapM rowOf?).map Store.mk
  | _ => none

end Concierge.Store
