import Concierge.Number.Shortest
import Concierge.Time.Calendar

/-!
# Timestamps

A timestamp is a date and a time of day, with an offset from universal time when it is aware of one.
Its text is that of ISO 8601: the fraction of a second is written with six digits and only when it
is not zero, and so are the seconds of an offset.
-/

namespace Concierge

/-- A date, a time of day and possibly an offset. -/
structure Timestamp where
  year : Nat
  month : Nat
  day : Nat
  hour : Nat := 0
  minute : Nat := 0
  second : Nat := 0
  micro : Nat := 0
  /-- Microseconds ahead of universal time; absent when no offset is known. -/
  offset : Option Int := none
  deriving DecidableEq, Repr, Inhabited

namespace Timestamp

/-- The timestamp is a point of the calendar, and its offset is less than a day. -/
def IsValid (t : Timestamp) : Prop :=
  1 ≤ t.year ∧ t.year ≤ 9999 ∧ 1 ≤ t.month ∧ t.month ≤ 12 ∧
  1 ≤ t.day ∧ t.day ≤ Calendar.monthLength t.year t.month ∧
  t.hour < 24 ∧ t.minute < 60 ∧ t.second < 60 ∧ t.micro < 1000000 ∧
  ∀ o, t.offset = some o → o.natAbs < Instant.day

instance (t : Timestamp) : Decidable t.IsValid :=
  decidable_of_iff
    (1 ≤ t.year ∧ t.year ≤ 9999 ∧ 1 ≤ t.month ∧ t.month ≤ 12 ∧
      1 ≤ t.day ∧ t.day ≤ Calendar.monthLength t.year t.month ∧
      t.hour < 24 ∧ t.minute < 60 ∧ t.second < 60 ∧ t.micro < 1000000 ∧
      t.offset.all (fun o => o.natAbs < Instant.day))
    (by cases h : t.offset <;> simp [IsValid, h])

/-- The timestamp of an instant, with the given offset written beside it. -/
def ofInstant (t : Instant) (offset : Option Int := none) : Timestamp :=
  let (year, month, day) := Calendar.date (t / Instant.day)
  let r := t % Instant.day
  { year, month, day
    hour := r / (3600 * Instant.second)
    minute := r / (60 * Instant.second) % 60
    second := r / Instant.second % 60
    micro := r % Instant.second
    offset }

/-- The instant in universal time. -/
def universal (t : Instant) : Timestamp := ofInstant t (some 0)

/-- The microseconds from the start of year 1 to the date and time of day. -/
def toMicros (t : Timestamp) : Nat :=
  Calendar.dayNumber t.year t.month t.day * Instant.day +
    ((t.hour * 60 + t.minute) * 60 + t.second) * Instant.second + t.micro

/-- The microseconds from the start of 1970 in universal time; a timestamp without an offset counts
as universal time. -/
def unixMicros (t : Timestamp) : Int :=
  (t.toMicros : Int) - 719162 * (Instant.day : Int) - t.offset.getD 0

/-- Whole seconds since the start of 1970, by way of a double and toward zero. -/
def unixSeconds (t : Timestamp) : Int :=
  ((Span.toSeconds t.unixMicros).truncated?).getD 0

/-- A number with at least `width` digits. -/
def padded (width n : Nat) : List Char := Double.paddedNat width n

/-- Hours, minutes and seconds, the last only when told so, with their fraction when it is
not zero. -/
def clockText (hour minute second micro : Nat) (withSeconds : Bool) : List Char :=
  padded 2 hour ++ ':' :: padded 2 minute ++
    (if withSeconds then ':' :: padded 2 second else []) ++
    (if micro ≠ 0 then '.' :: padded 6 micro else [])

/-- An offset: sign, hours and minutes, and whatever of the rest is not zero. -/
def offsetText (offset : Int) : List Char :=
  let n := offset.natAbs
  let seconds := n / Instant.second
  let micro := n % Instant.second
  (if offset < 0 then '-' else '+') ::
    clockText (seconds / 3600) (seconds / 60 % 60) (seconds % 60) micro
      (seconds % 60 ≠ 0 || micro ≠ 0)

/-- The date. -/
def dateText (t : Timestamp) : List Char :=
  padded 4 t.year ++ '-' :: padded 2 t.month ++ '-' :: padded 2 t.day

/-- The characters of the text of a timestamp. -/
def isoChars (t : Timestamp) : List Char :=
  t.dateText ++ 'T' :: clockText t.hour t.minute t.second t.micro true ++
    (match t.offset with
     | some o => offsetText o
     | none => [])

/-- The text of a timestamp. -/
def iso (t : Timestamp) : String := String.ofList t.isoChars

/-- The date and the time of day without fraction and offset; the year is not filled up. -/
def plain (t : Timestamp) : String :=
  String.ofList (padded 1 t.year ++ '-' :: padded 2 t.month ++ '-' :: padded 2 t.day ++
    ' ' :: clockText t.hour t.minute t.second 0 true)

end Timestamp

end Concierge
