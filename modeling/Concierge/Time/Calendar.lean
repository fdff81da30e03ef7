import Concierge.Time.Instant

/-!
# The calendar

Dates of the Gregorian calendar from year 1 to year 9999, counted in days from the first of January
of year 1, which is day 0 and a Monday. A week belongs to the year that its Thursday lies in.
-/

namespace Concierge.Calendar

/-- A year with a 29th of February. -/
def isLeap (year : Nat) : Bool := year % 4 == 0 && (year % 100 != 0 || year % 400 == 0)

/-- The number of days of a month; months run from 1 to 12. -/
def monthLength (year month : Nat) : Nat :=
  match month with
  | 2 => if isLeap year then 29 else 28
  | 4 | 6 | 9 | 11 => 30
  | _ => 31

/-- The days of the years before a year. -/
def daysBeforeYear (year : Nat) : Nat :=
  let y := year - 1
  y * 365 + y / 4 - y / 100 + y / 400

/-- The days of a year before a month. -/
def daysBeforeMonth (year : Nat) : Nat → Nat
  | 0 | 1 => 0
  | month + 1 => daysBeforeMonth year month + monthLength year month

/-- The number of a date. -/
def dayNumber (year month day : Nat) : Nat :=
  daysBeforeYear year + daysBeforeMonth year month + day - 1

/-- The month and the day that follow a number of days from the start of a month on. -/
def monthAndDay (year : Nat) : Nat → Nat → Nat → Nat × Nat
  | 0, month, days => (month, days + 1)
  | fuel + 1, month, days =>
    if days < monthLength year month then (month, days + 1)
    else monthAndDay year fuel (month + 1) (days - monthLength year month)

/-- The date with a number: year, month and day. Four centuries have 146097 days, and the last day
of a leap cycle belongs to its last year. -/
def date (number : Nat) : Nat × Nat × Nat :=
  let era := number / 146097
  let n := number % 146097
  let century := min (n / 36524) 3
  let n := n - century * 36524
  let cycle := n / 1461
  let n := n % 1461
  let part := min (n / 365) 3
  let n := n - part * 365
  let year := era * 400 + century * 100 + cycle * 4 + part + 1
  let (month, day) := monthAndDay year 11 1 n
  (year, month, day)

/-- The day of the week of a date, Monday being 0. -/
def weekday (year month day : Nat) : Nat := dayNumber year month day % 7

/-- The year has 53 weeks. -/
def isLongYear (year : Nat) : Bool :=
  let first := weekday year 1 1
  first == 3 || (first == 2 && isLeap year)

/-- The number of the Monday of the first week of a year; it may lie in the year before. -/
def firstMonday (year : Nat) : Nat :=
  let first := dayNumber year 1 1
  let monday := first - first % 7
  if first % 7 > 3 then monday + 7 else monday

end Concierge.Calendar
