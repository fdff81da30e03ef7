import Concierge.Store.Column
import Concierge.Time.Instant
import Concierge.Value.Shown

/-!
# The expiring store

A store maps keys to values, each of which may have an expiry. A row lives while its expiry is later
than the reading of the clock; a row that has expired reads as absent, and is removed when it is
touched or when the store is purged. A value is held as the column of values holds it, and one with an
integer of too many digits cannot be written.
-/

namespace Concierge

namespace Store

/-- A stored value, which can be written, and when it expires. -/
structure Row where
  value : Value
  expiry : Option Instant := none
  isShort : value.isShort = true := by rfl
  deriving DecidableEq

/-- A row lives as long as its expiry is still to come. -/
def Row.isLive (now : Instant) (r : Row) : Bool := r.expiry.all (now < ·)

end Store

/-- The rows of a store by their keys. -/
structure Store where
  rows : Dict Store.Row := []

namespace Store

/-- The live row of a key. A row that has expired is removed. -/
def touch (now : Instant) (key : String) (s : Store) : Option Row × Store :=
  match Dict.find? key s.rows with
  | none => (none, s)
  | some r => if r.isLive now then (some r, s) else (none, ⟨Dict.erase key s.rows⟩)

/-- The value of a key, which is null when the key is absent. -/
def get (now : Instant) (key : String) (s : Store) : Value × Store :=
  let (row, s) := s.touch now key
  ((row.map Row.value).getD .null, s)

/-- The expiry of a value that is set: that of the live row when it is to be kept, and otherwise the
end of the lifetime, if one is given in seconds. -/
def expiryFor (now : Instant) (row : Option Row) (lifetime : Value) (keep : Bool) :
    Except TimeError (Option Instant) :=
  match row, keep, lifetime with
  | some r, true, _ => .ok r.expiry
  | _, _, .null => .ok none
  | _, _, seconds => do
    let span ← Span.ofSeconds seconds
    return some (← Instant.shift now span)

/-- Why a key cannot be set. -/
inductive SetError where
  /-- The expiry cannot be computed. -/
  | time (error : TimeError)
  /-- The value cannot be written. -/
  | unwritten (error : NumberError)
  deriving DecidableEq, Repr

/-- The row of a value that is set. -/
def rowFor (now : Instant) (row : Option Row) (value lifetime : Value) (keep : Bool) :
    Except SetError Row := do
  let expiry ← (expiryFor now row lifetime keep).mapError .time
  if hshort : value.isShort then return ⟨Column.held value, expiry, Column.isShort_held hshort⟩
  else throw (.unwritten .tooLong)

/-- Sets a key. A lifetime that is null means no expiry; with `keep`, a live key keeps the expiry it
has. When the expiry cannot be computed or the value cannot be written, no value changes. -/
def set (now : Instant) (key : String) (value : Value) (lifetime : Value := .null)
    (keep : Bool := false) (s : Store) : Except SetError Unit × Store :=
  let (row, s) := s.touch now key
  match rowFor now row value lifetime keep with
  | .ok row => (.ok (), ⟨Dict.set key row s.rows⟩)
  | .error e => (.error e, s)

/-- Deletes a key, and tells whether it was live. -/
def delete (now : Instant) (key : String) (s : Store) : Bool × Store :=
  match s.touch now key with
  | (some _, s) => (true, ⟨Dict.erase key s.rows⟩)
  | (none, s) => (false, s)

/-- The microseconds until a key expires; absent when the key is absent or does not expire. -/
def lifetime (now : Instant) (key : String) (s : Store) : Option Int × Store :=
  let (row, s) := s.touch now key
  ((row.bind Row.expiry).map fun e => (e : Int) - now, s)

/-- Removes all rows that have expired, and tells how many there were. -/
def purge (now : Instant) (s : Store) : Nat × Store :=
  let live := s.rows.filter fun e => e.2.isLive now
  (s.rows.length - live.length, ⟨live⟩)

end Store

end Concierge
