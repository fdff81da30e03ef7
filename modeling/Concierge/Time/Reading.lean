import Concierge.Text.Bytes
import Concierge.Time.Timestamp

/-!
# Reading timestamps

The text of a timestamp is read in any of the forms of ISO 8601 with a complete date: calendar dates
and week dates, with or without separators, followed by one character of any kind and a time of day
to the hour, the minute, the second or a fraction of it, and by an offset. Digits of a fraction
beyond the sixth are dropped. A text is read byte by byte, so that what is not ASCII takes several
places.
-/

namespace Concierge

/-- Why something is no timestamp. -/
inductive TimestampError where
  /-- The value is no text. -/
  | notText
  /-- The text has none of the forms. -/
  | form (text : String)
  /-- The year is not from 1 to 9999. -/
  | year (year : Nat)
  /-- The month is not from 1 to 12. -/
  | month
  /-- The month has no such day. -/
  | day
  /-- The hour is not below 24. -/
  | hour
  /-- The minute is not below 60. -/
  | minute
  /-- The second is not below 60. -/
  | second
  /-- The offset, in microseconds, is a day or more. -/
  | offset (micros : Int)
  deriving DecidableEq, Repr

namespace TimestampError

/-- A span as it is shown: days, seconds and microseconds, none of the last two negative, and those
left out that are zero. -/
def spanText (micros : Int) : String :=
  let days := Int.fdiv micros Instant.day
  let rest := (Int.fmod micros Instant.day).toNat
  let seconds := rest / Instant.second
  let micro := rest % Instant.second
  let parts :=
    (if days = 0 then [] else ["days=" ++ toString days]) ++
    (if seconds = 0 then [] else ["seconds=" ++ toString seconds]) ++
    (if micro = 0 then [] else ["microseconds=" ++ toString micro])
  "datetime.timedelta(" ++
    (if parts.isEmpty then "0" else String.intercalate ", " parts) ++ ")"

/-- The wording of a timestamp error. -/
def message : TimestampError → String
  | notText => "fromisoformat: argument must be str"
  | form text => "Invalid isoformat string: " ++ Text.quoted text
  | year n => "year " ++ toString n ++ " is out of range"
  | month => "month must be in 1..12"
  | day => "day is out of range for month"
  | hour => "hour must be in 0..23"
  | minute => "minute must be in 0..59"
  | second => "second must be in 0..59"
  | offset micros =>
    "offset must be a timedelta strictly between -timedelta(hours=24) and " ++
      "timedelta(hours=24), not " ++ spanText micros ++ "."

/-- The class that a timestamp error is reported under. -/
def label : TimestampError → String
  | notText => "TypeError"
  | _ => "ValueError"

end TimestampError

namespace Timestamp

/-- An ASCII digit. -/
def isAsciiDigit (c : Char) : Bool := '0' ≤ c && c ≤ '9'

/-- Exactly `n` digits at the front of a text, added to a number that has been read so far. -/
def takeDigits : Nat → Nat → List Char → Option (Nat × List Char)
  | 0, read, cs => some (read, cs)
  | n + 1, read, c :: cs =>
    if isAsciiDigit c then takeDigits n (10 * read + (c.toNat - '0'.toNat)) cs else none
  | _ + 1, _, [] => none

/-- What stands at the end of a text. -/
def endMark : Char := '\x00'

/-- How many characters the date takes. Most forms are told apart by the fifth and the sixth
character; after a week, a hyphen opens the day of the week unless a digit two places later shows
that it separates the time, and without hyphens the parity of the number of digits decides. -/
def dateLength (cs : List Char) : Nat :=
  let char (i : Nat) : Char := cs.getD i endMark
  if cs.length = 7 then 7
  else if char 4 = '-' then
    if char 5 = 'W' then
      if char 8 = '-' then if isAsciiDigit (char 10) then 8 else 10
      else 8
    else 10
  else if char 4 = 'W' then
    let digits := 7 + ((cs.drop 7).takeWhile isAsciiDigit).length
    if digits < 9 then digits else if digits % 2 = 0 then 7 else 8
  else 8

/-- There are so many weeks in a year. The year before the calendar counts as a short one. -/
def weeksOf (year : Nat) : Nat := if year ≠ 0 ∧ Calendar.isLongYear year then 53 else 52

/-- The date of a year, a week and a day of the week. A week before the calendar lies in no month. -/
def weekDate? (year week day : Nat) : Option (Nat × Nat × Nat) :=
  if week = 0 ∨ weeksOf year < week ∨ day = 0 ∨ 7 < day then none
  else if year = 0 then some (1, 0, 1)
  else some (Calendar.date (Calendar.firstMonday year + (week - 1) * 7 + day - 1))

/-- The date at the front of a text, when it takes the given number of characters. -/
def readDate (cs : List Char) (length : Nat) : Option (Nat × Nat × Nat) := do
  let (year, rest) ← takeDigits 4 0 cs
  let separated := rest.head? == some '-'
  let rest := if separated then rest.drop 1 else rest
  match rest with
  | 'W' :: rest =>
    let (week, rest) ← takeDigits 2 0 rest
    if cs.length - rest.length < length then
      let rest ← if separated then
        match rest with
        | '-' :: rest => some rest
        | _ => none
      else some rest
      let (day, _) ← takeDigits 1 0 rest
      weekDate? year week day
    else weekDate? year week 1
  | _ =>
    let (month, rest) ← takeDigits 2 0 rest
    let rest ← if separated then
      match rest with
      | '-' :: rest => some rest
      | _ => none
    else some rest
    let (day, rest) ← takeDigits 2 0 rest
    if cs.length - rest.length = length then some (year, month, day) else none

/-- Hours, minutes, seconds and microseconds. -/
structure Clock where
  hour : Nat := 0
  minute : Nat := 0
  second : Nat := 0
  micro : Nat := 0

/-- Sets the first, second or third part of a clock. -/
def Clock.setPart (clock : Clock) (part value : Nat) : Clock :=
  match part with
  | 0 => { clock with hour := value }
  | 1 => { clock with minute := value }
  | _ => { clock with second := value }

/-- The fraction of a second, of which six digits count. The flag says that something other than
the end of the whole text follows. -/
def readFraction (clock : Clock) (cs : List Char) (next : Char) : Option (Clock × Bool) := do
  let n := min 6 cs.length
  let (value, rest) ← takeDigits n 0 cs
  let rest := rest.dropWhile isAsciiDigit
  return ({ clock with micro := value * Nat.pow 10 (6 - n) }, rest.headD next != endMark)

/-- The parts of a clock from the given one on. Parts are separated by colons or by nothing, as the
first of them decides. `next` is the character that follows the given text; the flag of the answer
says that something other than the end of the whole text follows. -/
def readParts (next : Char) : Nat → Nat → Bool → Clock → List Char → Option (Clock × Bool)
  | 0, _, _, clock, cs => readFraction clock cs next
  | count + 1, part, separated, clock, cs => do
    let (value, rest) ← takeDigits 2 0 cs
    let clock := clock.setPart part value
    let mark := rest.headD next
    let separated := if part = 0 then mark == ':' else separated
    if rest.length ≤ 1 then return (clock, mark != endMark)
    else if separated && mark == ':' then
      readParts next count (part + 1) separated clock (rest.drop 1)
    else if mark == '.' || mark == ',' then readFraction clock (rest.drop 1) next
    else if !separated then readParts next count (part + 1) separated clock rest
    else none

/-- A clock before the given character. -/
def readClock (cs : List Char) (next : Char) : Option (Clock × Bool) :=
  readParts next 3 0 true {} cs

/-- A character that opens an offset. -/
def isOffsetMark (c : Char) : Bool := c == '+' || c == '-' || c == 'Z'

/-- A time of day with an optional offset in microseconds. An offset whose whole seconds are zero is
universal time. -/
def readTime (cs : List Char) : Option (Clock × Option Int) := do
  let body := cs.takeWhile fun c => !isOffsetMark c
  match cs.dropWhile fun c => !isOffsetMark c with
  | [] =>
    let (clock, more) ← readClock body endMark
    if more then none else some (clock, none)
  | mark :: rest =>
    let (clock, _) ← readClock body mark
    if mark == 'Z' then
      if rest.headD endMark != endMark then none else some (clock, some 0)
    else
      let (offset, more) ← readClock rest endMark
      if more then none
      else
        let seconds := (offset.hour * 60 + offset.minute) * 60 + offset.second
        let micros : Int := if seconds = 0 then 0 else seconds * 1000000 + offset.micro
        some (clock, some (if mark == '-' then -micros else micros))

/-- Refuses a timestamp with a part out of range. -/
def checked (t : Timestamp) : Except TimestampError Timestamp :=
  if Instant.day ≤ (t.offset.getD 0).natAbs then .error (.offset (t.offset.getD 0))
  else if t.year < 1 ∨ 9999 < t.year then .error (.year t.year)
  else if t.month < 1 ∨ 12 < t.month then .error .month
  else if t.day < 1 ∨ Calendar.monthLength t.year t.month < t.day then .error .day
  else if 24 ≤ t.hour then .error .hour
  else if 60 ≤ t.minute then .error .minute
  else if 60 ≤ t.second then .error .second
  else .ok t

/-- How many bytes the character takes that begins with a byte. -/
def separatorLength (lead : Char) : Nat :=
  if lead.toNat < 0x80 then 1
  else if lead.toNat / 16 = 0xe then 3
  else if lead.toNat / 16 = 0xf then 4
  else 2

/-- The parts of a timestamp, not yet checked. -/
def readChars (cs : List Char) : Option Timestamp := do
  if cs.length < 7 then none
  else
    let length := dateLength cs
    let (year, month, day) ← readDate cs length
    if cs.length ≤ length then return { year, month, day }
    else
      let behind := cs.drop length
      let (clock, offset) ← readTime (behind.drop (separatorLength (behind.headD ' ')))
      return { year, month, day, hour := clock.hour, minute := clock.minute
               second := clock.second, micro := clock.micro, offset }

/-- Reads a text as a timestamp. -/
def ofIso (s : String) : Except TimestampError Timestamp :=
  match readChars ((Text.bytes s.toList).map Char.ofNat) with
  | some t => checked t
  | none => .error (.form s)

/-- Reads a value as a timestamp; it must be a text. -/
def ofValue : Value → Except TimestampError Timestamp
  | .text s => ofIso s
  | _ => .error .notText

end Timestamp

end Concierge
