import Concierge.Audit.Entry
import Concierge.Sequence
import Concierge.Value.Limit
import Concierge.World

/-!
# The audit log

The log is one list in the store, oldest entry first, with a lifetime that starts anew with every
entry. It holds no more entries than its capacity; the oldest ones are dropped.
-/

namespace Concierge.Audit

/-- Where the log is stored and how much it holds. -/
structure Log where
  key : String := "trigger_logs"
  capacity : Nat := 50
  /-- In seconds. -/
  lifetime : Int := 86400
  capacity_pos : 0 < capacity := by decide

namespace Log

/-- A log of a given capacity, which has to be at least one. -/
def ofCapacity (capacity lifetime : Int) : Except Fault Log :=
  if h : 0 < capacity.toNat then
    .ok { capacity := capacity.toNat, lifetime, capacity_pos := h }
  else .error (.badCapacity capacity)

/-- The stored entries, the oldest first. -/
def ofStored (log : Log) : Value → Except StorageError (List Value)
  | .null => .ok []
  | .list items => .ok items
  | v => .error (.notLog log.key v.kind)

/-- The newest entries that a log of this capacity holds. -/
def newest (log : Log) (items : List Value) : List Value := items.drop (items.length - log.capacity)

/-- The stored entries with one more. -/
def extended (log : Log) (entry : Entry) (stored : Value) : Except StorageError (List Value) := do
  return log.newest ((← log.ofStored stored) ++ [.dict entry.toDict])

/-- Reads the stored entries. -/
def load (log : Log) (now : Instant) (s : Store) : Except Fault (List Value) × Store :=
  let (stored, s) := s.get now log.key
  ((log.ofStored stored).mapError .storage, s)

/-- Writes the stored entries. -/
def write (log : Log) (now : Instant) (items : List Value) (s : Store) : Except Fault Unit × Store :=
  let (written, s) := s.set now log.key (.list items) (.int log.lifetime)
  (written.mapError Fault.ofSet, s)

/-- Appends an entry: reads the store and then writes it. -/
def append (log : Log) (now : Instant) (entry : Entry) (s : Store) : Except Fault Unit × Store :=
  let (stored, s) := s.get now log.key
  match log.extended entry stored with
  | .ok items => log.write now items s
  | .error e => (.error (.storage e), s)

/-- The entries, the newest first, up to a limit. -/
def recent (log : Log) (now : Instant) (limit : Option Int) (s : Store) :
    Except Fault (List Entry) × Store :=
  match log.load now s with
  | (.ok items, s) =>
    let entries := items.reverse.mapM Entry.ofValue
    (entries.map fun es => (limit.map (front · es)).getD es, s)
  | (.error f, s) => (.error f, s)

/-- The entries, the newest first, up to a limit that may be any value. -/
def recentUpTo (log : Log) (now : Instant) (limit : Value) (s : Store) :
    Except Fault (List Entry) × Store :=
  let (entries, s) := log.recent now none s
  (entries >>= fun es => (limit.front es).mapError .shape, s)

/-- Forgets all entries. -/
def clear (log : Log) (now : Instant) (s : Store) : Store := (s.delete now log.key).2

/-- The number of entries. -/
def count (log : Log) (now : Instant) (s : Store) : Except Fault Nat × Store :=
  let (items, s) := log.load now s
  (items.map List.length, s)

end Log

end Concierge.Audit
