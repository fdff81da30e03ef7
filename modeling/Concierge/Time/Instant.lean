import Concierge.Value.Shown

/-!
# Instants and spans

An instant is the number of microseconds since the beginning of year 1, and the calendar ends with
year 9999. A span is a number of microseconds of either sign. A span given in seconds is rounded to
a microsecond, a half to the even neighbour; it must stay within a billion days, and an instant
moved by a span must stay within the calendar.
-/

namespace Concierge

/-- Microseconds since the beginning of year 1. -/
abbrev Instant := Nat

/-- Why a time cannot be computed. -/
inductive TimeError where
  /-- The instant lies outside the calendar. -/
  | outOfCalendar
  /-- The span has too many days. -/
  | tooManyDays (days : Int)
  /-- The span has more days than a machine word counts. -/
  | tooManyDaysToCount
  /-- The number of seconds is no integer. -/
  | seconds (error : NumberError)
  /-- A value of this kind is no number of seconds. -/
  | notSeconds (kind : String)
  deriving DecidableEq, Repr

namespace TimeError

/-- The wording of a time error. -/
def message : TimeError → String
  | outOfCalendar => "date value out of range"
  | tooManyDays days =>
    "days=" ++ toString days ++ "; must have magnitude <= 999999999"
  | tooManyDaysToCount => "Python int too large to convert to C int"
  | seconds error => error.message
  | notSeconds kind => "unsupported type for timedelta seconds component: " ++ kind

/-- The class that a time error is reported under. -/
def label : TimeError → String
  | seconds error => error.label
  | notSeconds _ => "TypeError"
  | _ => "OverflowError"

end TimeError

namespace Instant

/-- Microseconds in a second. -/
def second : Nat := 1000000

/-- Microseconds in a day. -/
def day : Nat := 86400 * second

/-- The number of days of the calendar. -/
def calendarDays : Nat := 3652059

/-- The instants before this one lie within the calendar. -/
def calendarEnd : Instant := calendarDays * day

/-- The instant moved by a span. -/
def shift (t : Instant) (span : Int) : Except TimeError Instant :=
  let moved := (t : Int) + span
  if 0 ≤ moved ∧ moved < calendarEnd then .ok moved.toNat else .error .outOfCalendar

end Instant

namespace Span

/-- A span with a number of microseconds, if its days can be counted. -/
def ofMicros (micros : Int) : Except TimeError Int :=
  let days := Int.fdiv micros Instant.day
  if days < -2147483648 ∨ 2147483647 < days then .error .tooManyDaysToCount
  else if 999999999 < days.natAbs then .error (.tooManyDays days)
  else .ok micros

/-- The microseconds nearest to a finite number of seconds. The fraction is first multiplied as a
double and then rounded. -/
def microsOfDouble (negative : Bool) (mantissa : Nat) (exponent : Int) : Int :=
  let (num, den) := Double.ratio mantissa exponent
  let fraction := Double.ofRatio false (num % den * 1000000) den
  let part := match fraction.form with
    | .finite _ m e => let (n, d) := Double.ratio m e; roundHalfEven n d
    | _ => 0
  let micros : Int := (num / den * 1000000 + part : Nat)
  if negative then -micros else micros

/-- The span of a number of seconds. -/
def ofSeconds : Value → Except TimeError Int
  | .int n => ofMicros (n * 1000000)
  | .bool b => ofMicros (if b then 1000000 else 0)
  | .double d =>
    match d.form with
    | .nan => .error (.seconds .nanToInteger)
    | .infinite _ => .error (.seconds .infinityToInteger)
    | .finite negative m e => ofMicros (microsOfDouble negative m e)
  | v => .error (.notSeconds v.kind)

/-- A span as a number of seconds, rounded once. -/
def toSeconds (micros : Int) : Double := Double.ofRatio (micros < 0) micros.natAbs 1000000

end Span

end Concierge
