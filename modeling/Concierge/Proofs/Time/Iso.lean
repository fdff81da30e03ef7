import Concierge.Time.Reading
import Mathlib.Tactic.SplitIfs

/-!
# Timestamps are read as they are written

The text of a timestamp has a fixed number of digits for each of its parts, so that reading the text
finds the parts again. The one thing that a text does not tell is an offset of less than a second.

A timestamp that has been read, from a text of whatever form, lies in the calendar and has an offset that
its own text tells. Six digits of a fraction are read at most, and an offset of less than a second is read
as none. So the timestamps that are read as they are written are just those that can be read at all, and
reading, writing and reading again gives what was read at first.
-/

namespace Concierge

namespace Timestamp

/-! ## Digits -/

/-- A digit is an ASCII digit. -/
theorem isAsciiDigit_of_isDigit {c : Char} (h : c.isDigit = true) : isAsciiDigit c = true := h

/-- Digits at the front of a text are taken, whatever follows them. -/
theorem takeDigits_append {digits : List Char} (h : ∀ c ∈ digits, isAsciiDigit c = true) (read : Nat)
    (rest : List Char) : takeDigits digits.length read (digits ++ rest) =
      some (Nat.ofDigitChars 10 digits read, rest) := by
  induction digits generalizing read with
  | nil => rfl
  | cons c digits ih =>
    rw [List.length_cons, List.cons_append, takeDigits, if_pos (h c List.mem_cons_self),
      ih (fun d hd => h d (List.mem_cons_of_mem c hd)), Nat.ofDigitChars_cons]

/-- A number is filled up with digits only. -/
theorem isAsciiDigit_of_mem_padded {width n : Nat} {c : Char} (h : c ∈ padded width n) :
    isAsciiDigit c = true := by
  rcases List.mem_append.mp h with hzero | hdigit
  · rw [List.eq_of_mem_replicate hzero]
    rfl
  · exact isAsciiDigit_of_isDigit (Nat.isDigit_of_mem_toDigits (by decide) (by decide) hdigit)

/-- A number that is not too great has just so many digits. -/
theorem length_padded (width : Nat) {n : Nat} (hwidth : 0 < width) (hn : n < Nat.pow 10 width) :
    (padded width n).length = width := by
  have hle := (Nat.length_toDigits_le_iff (by decide) hwidth).mpr hn
  rw [padded, Double.paddedNat, List.length_append, List.length_replicate]
  omega

/-- A number is read as it was written, whatever follows it. -/
theorem takeDigits_padded (width : Nat) {n : Nat} (hwidth : 0 < width) (hn : n < Nat.pow 10 width)
    (rest : List Char) : takeDigits width 0 (padded width n ++ rest) = some (n, rest) := by
  have hdigits : ∀ c ∈ padded width n, isAsciiDigit c = true := fun _ => isAsciiDigit_of_mem_padded
  have htaken := takeDigits_append hdigits 0 rest
  rw [length_padded width hwidth hn] at htaken
  rw [htaken, padded, Double.paddedNat, Nat.ofDigitChars_append, Nat.ofDigitChars_replicate_zero,
    Nat.mul_zero, Nat.ofDigitChars_toDigits (by decide) (by decide)]

/-! ## The time of day -/

variable {count part hour minute second micro : Nat} {separated : Bool} {clock : Clock} {next : Char}

/-- A part of a clock with a colon behind it, and more after that. -/
theorem readParts_colon (hvalue : second < 100) (hseparated : part = 0 ∨ separated = true)
    {rest : List Char} (hrest : rest ≠ []) :
    readParts next (count + 1) part separated clock (padded 2 second ++ ':' :: rest) =
      readParts next count (part + 1) true (clock.setPart part second) rest := by
  have hlong : ¬ (':' :: rest).length ≤ 1 := by
    have hpos := List.length_pos_iff.mpr hrest
    rw [List.length_cons]
    omega
  have hmark : (if part = 0 then (':' : Char) == ':' else separated) = true := by
    rcases hseparated with rfl | rfl
    · rfl
    · split <;> rfl
  rw [readParts, takeDigits_padded 2 (by decide) hvalue]
  simp only [Option.bind_eq_bind, Option.bind_some, List.headD_cons, if_neg hlong, hmark,
    List.drop_succ_cons, List.drop_zero]
  rfl

/-- The last part of a clock without a fraction. -/
theorem readParts_last (hvalue : second < 100) :
    readParts next (count + 1) part separated clock (padded 2 second) =
      some (clock.setPart part second, next != endMark) := by
  have htaken := takeDigits_padded 2 (by decide) hvalue []
  rw [List.append_nil] at htaken
  rw [readParts, htaken]
  rfl

/-- Six digits of a fraction are the microseconds. -/
theorem readFraction_padded (hmicro : micro < 1000000) :
    readFraction clock (padded 6 micro) next = some ({ clock with micro }, next != endMark) := by
  have htaken := takeDigits_padded 6 (by decide) hmicro []
  rw [List.append_nil] at htaken
  have hlength : min 6 (padded 6 micro).length = 6 := by rw [length_padded 6 (by decide) hmicro]; rfl
  simp only [readFraction, hlength, htaken, Option.bind_eq_bind, Option.bind_some, List.dropWhile_nil,
    List.headD_nil]
  simp

/-- The last part of a clock with a fraction. -/
theorem readParts_fraction (hvalue : second < 100) (hpart : part ≠ 0) (hmicro : micro < 1000000) :
    readParts next (count + 1) part separated clock (padded 2 second ++ '.' :: padded 6 micro) =
      some ({ clock.setPart part second with micro }, next != endMark) := by
  have hlong : ¬ ('.' :: padded 6 micro).length ≤ 1 := by
    rw [List.length_cons, length_padded 6 (by decide) hmicro]
    decide
  have hdot : (separated && ('.' : Char) == ':') = false := by cases separated <;> rfl
  rw [readParts, takeDigits_padded 2 (by decide) hvalue]
  simp only [Option.bind_eq_bind, Option.bind_some, List.headD_cons, if_neg hlong, if_neg hpart, hdot,
    List.drop_succ_cons, List.drop_zero, readFraction_padded hmicro]
  rfl

/-- A number that is written takes some characters. -/
theorem padded_append_ne_nil (width : Nat) {n : Nat} (hwidth : 0 < width) (hn : n < Nat.pow 10 width)
    (rest : List Char) : padded width n ++ rest ≠ [] := by
  intro hnil
  have hlength := congrArg List.length hnil
  rw [List.length_append, length_padded width hwidth hn, List.length_nil] at hlength
  omega

/-- A clock with seconds is read as it was written. -/
theorem readClock_clockText (hhour : hour < 100) (hminute : minute < 100)
    (hsecond : second < 100) (hmicro : micro < 1000000) :
    readClock (clockText hour minute second micro true) next =
      some (⟨hour, minute, second, micro⟩, next != endMark) := by
  unfold readClock clockText
  by_cases hzero : micro = 0
  · subst hzero
    simp only [ne_eq, not_true_eq_false, if_false, if_true, List.append_nil, List.append_assoc,
      List.cons_append]
    have hlast : padded 2 second ≠ [] := by
      simpa using padded_append_ne_nil 2 (by decide) hsecond []
    rw [readParts_colon hhour (.inl rfl) (padded_append_ne_nil 2 (by decide) hminute _),
      readParts_colon hminute (.inr rfl) hlast, readParts_last hsecond]
    rfl
  · simp only [ne_eq, hzero, not_false_eq_true, if_true, List.append_assoc, List.cons_append]
    rw [readParts_colon hhour (.inl rfl) (padded_append_ne_nil 2 (by decide) hminute _),
      readParts_colon hminute (.inr rfl) (padded_append_ne_nil 2 (by decide) hsecond _),
      readParts_fraction hsecond (by decide) hmicro]
    rfl

/-- A clock without seconds is read as it was written. -/
theorem readClock_clockText_short (hhour : hour < 100) (hminute : minute < 100) :
    readClock (clockText hour minute 0 0 false) next =
      some (⟨hour, minute, 0, 0⟩, next != endMark) := by
  have hlast : padded 2 minute ≠ [] := by
    simpa using padded_append_ne_nil 2 (by decide) hminute []
  unfold readClock clockText
  simp only [ne_eq, not_true_eq_false, Bool.false_eq_true, if_false, List.append_nil]
  rw [readParts_colon hhour (.inl rfl) hlast, readParts_last hminute]
  rfl

/-- Numbers and clocks are written in digits, colons and points. -/
def isClockChar (c : Char) : Bool := isAsciiDigit c || c == ':' || c == '.'

/-- A clock is written in digits, colons and points. -/
theorem isClockChar_of_mem {withSeconds : Bool} {c : Char}
    (h : c ∈ clockText hour minute second micro withSeconds) : isClockChar c = true := by
  have hpadded {width n : Nat} (hc : c ∈ padded width n) : isClockChar c = true := by
    rw [isClockChar, isAsciiDigit_of_mem_padded hc]
    rfl
  have hcons {mark : Char} {width n : Nat} (hmark : isClockChar mark = true)
      (hc : c ∈ mark :: padded width n) : isClockChar c = true := by
    rcases List.mem_cons.mp hc with rfl | hc
    · exact hmark
    · exact hpadded hc
  simp only [clockText, List.mem_append] at h
  rcases h with ((hc | hc) | hc) | hc
  · exact hpadded hc
  · exact hcons rfl hc
  · split at hc
    · exact hcons rfl hc
    · cases hc
  · split at hc
    · exact hcons rfl hc
    · cases hc

/-- No character of a clock opens an offset. -/
theorem not_isOffsetMark_of_isClockChar {c : Char} (h : isClockChar c = true) :
    isOffsetMark c = false := by
  cases hmark : isOffsetMark c with
  | false => rfl
  | true =>
    simp only [isOffsetMark, Bool.or_eq_true, beq_iff_eq] at hmark
    rcases hmark with (rfl | rfl) | rfl <;> exact absurd h (by decide)

/-- The clock before an offset, or before the end, is what stands before the first mark of an offset. -/
theorem span_clockText (hour minute second micro : Nat) (withSeconds : Bool) (rest : List Char)
    (hrest : rest = [] ∨ ∃ mark more, rest = mark :: more ∧ isOffsetMark mark = true) :
    ((clockText hour minute second micro withSeconds ++ rest).takeWhile fun c => !isOffsetMark c) =
        clockText hour minute second micro withSeconds ∧
      ((clockText hour minute second micro withSeconds ++ rest).dropWhile fun c => !isOffsetMark c) =
        rest := by
  have hclock : ∀ c ∈ clockText hour minute second micro withSeconds, (!isOffsetMark c) = true := by
    intro c hc
    rw [not_isOffsetMark_of_isClockChar (isClockChar_of_mem hc)]
    rfl
  rw [List.takeWhile_append_of_pos hclock, List.dropWhile_append_of_pos hclock]
  rcases hrest with rfl | ⟨mark, more, rfl, hmark⟩
  · simp
  · simp [hmark]

/-- A time of day without an offset is read as it was written. -/
theorem readTime_clockText (hhour : hour < 100) (hminute : minute < 100)
    (hsecond : second < 100) (hmicro : micro < 1000000) :
    readTime (clockText hour minute second micro true) =
      some (⟨hour, minute, second, micro⟩, none) := by
  obtain ⟨hbody, hrest⟩ := span_clockText hour minute second micro true [] (.inl rfl)
  rw [List.append_nil] at hbody hrest
  unfold readTime
  rw [hbody, hrest]
  dsimp only
  rw [readClock_clockText hhour hminute hsecond hmicro]
  rfl

/-- The parts of an offset are read as they were written. -/
theorem readClock_offset {n : Nat} (hn : n < Instant.day) :
    readClock (clockText (n / Instant.second / 3600) (n / Instant.second / 60 % 60)
        (n / Instant.second % 60) (n % Instant.second)
        (n / Instant.second % 60 ≠ 0 || n % Instant.second ≠ 0)) endMark =
      some (⟨n / Instant.second / 3600, n / Instant.second / 60 % 60, n / Instant.second % 60,
        n % Instant.second⟩, false) := by
  have hhour : n / Instant.second / 3600 < 100 := by
    unfold Instant.day Instant.second at *
    omega
  have hminute : n / Instant.second / 60 % 60 < 100 := by omega
  have hsecond : n / Instant.second % 60 < 100 := by omega
  have hmicro : n % Instant.second < 1000000 := Nat.mod_lt _ (by decide)
  by_cases hwhole : n / Instant.second % 60 = 0 ∧ n % Instant.second = 0
  · rw [hwhole.1, hwhole.2]
    exact readClock_clockText_short hhour hminute
  · have hwritten : (decide (n / Instant.second % 60 ≠ 0) || decide (n % Instant.second ≠ 0)) = true := by
      simp only [ne_eq, Bool.or_eq_true, decide_eq_true_eq]
      omega
    rw [hwritten]
    exact readClock_clockText hhour hminute hsecond hmicro

/-- An offset that is told by its text: none, universal time, or at least a second. -/
def OffsetIsTold (offset : Option Int) : Prop :=
  ∀ o, offset = some o → o = 0 ∨ Instant.second ≤ o.natAbs

/-- A time of day with an offset is read as it was written. -/
theorem readTime_offsetText (hhour : hour < 100) (hminute : minute < 100)
    (hsecond : second < 100) (hmicro : micro < 1000000) {o : Int} (ho : o.natAbs < Instant.day)
    (htold : o = 0 ∨ Instant.second ≤ o.natAbs) :
    readTime (clockText hour minute second micro true ++ offsetText o) =
      some (⟨hour, minute, second, micro⟩, some o) := by
  obtain ⟨mark, hmark, htext⟩ : ∃ mark, mark = (if o < 0 then '-' else '+') ∧
      offsetText o = mark :: clockText (o.natAbs / Instant.second / 3600)
        (o.natAbs / Instant.second / 60 % 60) (o.natAbs / Instant.second % 60)
        (o.natAbs % Instant.second)
        (o.natAbs / Instant.second % 60 ≠ 0 || o.natAbs % Instant.second ≠ 0) := ⟨_, rfl, rfl⟩
  have hopens : isOffsetMark mark = true ∧ (mark == 'Z') = false ∧ (mark == '-') = decide (o < 0) := by
    rw [hmark]
    by_cases hneg : o < 0 <;> simp [hneg, isOffsetMark]
  obtain ⟨hbody, hrest⟩ := span_clockText hour minute second micro true (offsetText o)
    (.inr ⟨mark, _, htext, hopens.1⟩)
  unfold readTime
  rw [hbody, hrest, htext]
  simp only [readClock_clockText hhour hminute hsecond hmicro, Option.bind_eq_bind, Option.bind_some,
    hopens.2.1, readClock_offset ho, Bool.false_eq_true, if_false, hopens.2.2, decide_eq_true_eq]
  -- The parts of the offset add up to it again.
  have hseconds : (o.natAbs / Instant.second / 3600 * 60 + o.natAbs / Instant.second / 60 % 60) * 60 +
      o.natAbs / Instant.second % 60 = o.natAbs / Instant.second := by omega
  have hmicros : (if o.natAbs / Instant.second = 0 then 0
      else (o.natAbs / Instant.second : Nat) * 1000000 + ((o.natAbs % Instant.second : Nat) : Int)) =
        o.natAbs := by
    unfold Instant.second at *
    split <;> omega
  rw [hseconds, hmicros]
  congr 3
  split <;> omega

/-! ## The date -/

variable {t : Timestamp}

/-- A number of two digits. -/
theorem padded_two {n : Nat} (hn : n < 100) :
    ∃ a b, padded 2 n = [a, b] ∧ isAsciiDigit a = true ∧ isAsciiDigit b = true := by
  have hlength := length_padded 2 (by decide) hn
  match hdigits : padded 2 n, hlength with
  | [a, b], _ =>
    have hmem (c : Char) (hc : c ∈ padded 2 n) : isAsciiDigit c = true := isAsciiDigit_of_mem_padded hc
    rw [hdigits] at hmem
    exact ⟨a, b, rfl, hmem a (by simp), hmem b (by simp)⟩

/-- A digit opens no week. -/
theorem ne_week_of_isAsciiDigit {c : Char} (h : isAsciiDigit c = true) : c ≠ 'W' := by
  rintro rfl
  exact absurd h (by decide)

/-- The numbers of a date have their numbers of digits. -/
theorem IsValid.lt_pow (h : t.IsValid) : t.year < 10000 ∧ t.month < 100 ∧ t.day < 100 := by
  obtain ⟨-, hyear, -, hmonth, -, hday, -⟩ := h
  have hlength : Calendar.monthLength t.year t.month ≤ 31 := by
    unfold Calendar.monthLength
    split
    · split <;> decide
    all_goals decide
  omega

/-- The date takes ten characters. -/
theorem length_dateText (h : t.IsValid) : t.dateText.length = 10 := by
  obtain ⟨hyear, hmonth, hday⟩ := h.lt_pow
  simp only [dateText, List.length_append, List.length_cons, length_padded 4 (by decide) hyear,
    length_padded 2 (by decide) hmonth, length_padded 2 (by decide) hday]

/-- The date is found to take ten characters, whatever follows it. -/
theorem dateLength_dateText (h : t.IsValid) (rest : List Char) :
    dateLength (t.dateText ++ rest) = 10 := by
  obtain ⟨hyear, hmonth, hday⟩ := h.lt_pow
  obtain ⟨a, b, hdigits, ha, -⟩ := padded_two hmonth
  have hlong : (t.dateText ++ rest).length ≠ 7 := by
    rw [List.length_append, length_dateText h]
    omega
  have hyears := length_padded 4 (by decide) hyear
  have hchars : (t.dateText ++ rest).getD 4 endMark = '-' ∧
      (t.dateText ++ rest).getD 5 endMark = a := by
    rw [dateText, hdigits]
    simp [List.getD, List.getElem?_append, hyears]
  simp only [dateLength, if_neg hlong, hchars, if_true, if_neg (ne_week_of_isAsciiDigit ha)]

/-- The date is read as it was written. -/
theorem readDate_dateText (h : t.IsValid) (rest : List Char) :
    readDate (t.dateText ++ rest) 10 = some (t.year, t.month, t.day) := by
  obtain ⟨hyear, hmonth, hday⟩ := h.lt_pow
  obtain ⟨a, b, hdigits, ha, -⟩ := padded_two hmonth
  have hten : (t.dateText ++ rest).length - rest.length = 10 := by
    rw [List.length_append, length_dateText h]
    omega
  have htext : t.dateText ++ rest =
      padded 4 t.year ++ ('-' :: (padded 2 t.month ++ '-' :: (padded 2 t.day ++ rest))) := by
    simp [dateText]
  have hyears : takeDigits 4 0 (t.dateText ++ rest) =
      some (t.year, '-' :: a :: b :: '-' :: (padded 2 t.day ++ rest)) := by
    rw [htext, takeDigits_padded 4 (by decide) hyear, hdigits]
    rfl
  have hmonths : takeDigits 2 0 (a :: b :: '-' :: (padded 2 t.day ++ rest)) =
      some (t.month, '-' :: (padded 2 t.day ++ rest)) := by
    have htaken := takeDigits_padded 2 (by decide) hmonth ('-' :: (padded 2 t.day ++ rest))
    rwa [hdigits] at htaken
  unfold readDate
  simp only [hyears, Option.bind_eq_bind, Option.bind_some, List.head?_cons, beq_self_eq_true, if_true,
    List.drop_succ_cons, List.drop_zero]
  split
  · rename_i hweek
    cases hweek
    exact absurd rfl (ne_week_of_isAsciiDigit ha)
  · simp only [hmonths, Option.bind_some, takeDigits_padded 2 (by decide) hday, hten, if_true]

/-! ## The text -/

/-- The text of a timestamp tells all of it: it lies in the calendar, and its offset is told. -/
structure IsTold (t : Timestamp) : Prop where
  isValid : t.IsValid
  offset : OffsetIsTold t.offset

/-- What is written behind the time of day. -/
def offsetChars (t : Timestamp) : List Char :=
  match t.offset with
  | some o => offsetText o
  | none => []

/-- The characters of a timestamp are the date, a letter, the time of day and the offset. -/
theorem isoChars_eq (t : Timestamp) : t.isoChars = t.dateText ++
    ('T' :: (clockText t.hour t.minute t.second t.micro true ++ t.offsetChars)) := by
  unfold isoChars
  rw [List.append_assoc, List.cons_append]
  rfl

/-- The time of day and the offset are read as they were written. -/
theorem readTime_isoChars (h : t.IsTold) :
    readTime (clockText t.hour t.minute t.second t.micro true ++ t.offsetChars) =
      some (⟨t.hour, t.minute, t.second, t.micro⟩, t.offset) := by
  obtain ⟨-, -, -, -, -, -, hhour, hminute, hsecond, hmicro, hoffset⟩ := h.isValid
  have hhour' : t.hour < 100 := by omega
  have hminute' : t.minute < 100 := by omega
  have hsecond' : t.second < 100 := by omega
  unfold offsetChars
  cases ho : t.offset with
  | none =>
    rw [List.append_nil]
    exact readTime_clockText hhour' hminute' hsecond' hmicro
  | some o => exact readTime_offsetText hhour' hminute' hsecond' hmicro (hoffset o ho) (h.offset o ho)

/-- The characters of a timestamp are read as they were written. -/
theorem readChars_isoChars (h : t.IsTold) : readChars t.isoChars = some t := by
  have hlength : 10 < t.isoChars.length := by
    rw [isoChars_eq, List.length_append, length_dateText h.isValid, List.length_cons]
    omega
  have hbehind : t.isoChars.drop 10 =
      'T' :: (clockText t.hour t.minute t.second t.micro true ++ t.offsetChars) := by
    rw [isoChars_eq, ← length_dateText h.isValid, List.drop_left]
  have hdate : dateLength t.isoChars = 10 := by
    rw [isoChars_eq]
    exact dateLength_dateText h.isValid _
  have hread : readDate t.isoChars 10 = some (t.year, t.month, t.day) := by
    rw [isoChars_eq]
    exact readDate_dateText h.isValid _
  have hone : separatorLength 'T' = 1 := rfl
  unfold readChars
  simp only [if_neg (show ¬ t.isoChars.length < 7 by omega), hdate, hread, Option.bind_eq_bind,
    Option.bind_some, if_neg (show ¬ t.isoChars.length ≤ 10 by omega), hbehind, List.headD_cons, hone,
    List.drop_succ_cons, List.drop_zero, readTime_isoChars h]
  rfl

/-- A character of a clock is an ASCII character. -/
theorem toNat_lt_of_isClockChar {c : Char} (h : isClockChar c = true) : c.toNat < 128 := by
  simp only [isClockChar, Bool.or_eq_true, beq_iff_eq] at h
  rcases h with (hdigit | rfl) | rfl
  · simp only [isAsciiDigit, Bool.and_eq_true, decide_eq_true_eq] at hdigit
    exact Nat.lt_of_le_of_lt hdigit.2 (by decide)
  · decide
  · decide

/-- A timestamp is written in ASCII. -/
theorem toNat_lt_of_mem_isoChars {c : Char} (h : c ∈ t.isoChars) : c.toNat < 128 := by
  have hdigits {width n : Nat} (hc : c ∈ padded width n) : c.toNat < 128 :=
    toNat_lt_of_isClockChar (by rw [isClockChar, isAsciiDigit_of_mem_padded hc]; rfl)
  have hclock {hour minute second micro : Nat} {withSeconds : Bool}
      (hc : c ∈ clockText hour minute second micro withSeconds) : c.toNat < 128 :=
    toNat_lt_of_isClockChar (isClockChar_of_mem hc)
  simp only [isoChars_eq, dateText, List.mem_append, List.mem_cons] at h
  rcases h with ((hc | rfl | hc) | rfl | hc) | rfl | hc | hc
  · exact hdigits hc
  · decide
  · exact hdigits hc
  · decide
  · exact hdigits hc
  · decide
  · exact hclock hc
  · unfold offsetChars at hc
    split at hc
    · rcases List.mem_cons.mp hc with rfl | hc
      · split <;> decide
      · exact hclock hc
    · cases hc

/-- The bytes of an ASCII text are its characters. -/
theorem bytes_of_ascii {cs : List Char} (h : ∀ c ∈ cs, c.toNat < 128) :
    (Text.bytes cs).map Char.ofNat = cs := by
  induction cs with
  | nil => rfl
  | cons c cs ih =>
    have hc : c.toNat < 128 := h c List.mem_cons_self
    have hsize : c.utf8Size = 1 := Char.utf8Size_eq_one_iff.mpr (Nat.le_of_lt_succ hc)
    have hbyte : c.val.toUInt8.toNat = c.toNat := by
      show c.toNat % 256 = c.toNat
      omega
    have hrest := ih fun d hd => h d (List.mem_cons_of_mem c hd)
    rw [Text.bytes] at hrest ⊢
    rw [List.flatMap_cons, List.map_append, hrest, String.utf8EncodeChar_eq_singleton hsize,
      List.map_singleton, List.map_singleton, hbyte, Char.ofNat_toNat]
    rfl

/-- A timestamp in the calendar passes all checks. -/
theorem checked_of_isValid (h : t.IsValid) : checked t = .ok t := by
  obtain ⟨hyear, hyear', hmonth, hmonth', hday, hday', hhour, hminute, hsecond, -, hoffset⟩ := h
  have hday'' : (t.offset.getD 0).natAbs < Instant.day := by
    cases ho : t.offset with
    | none => decide
    | some o => exact hoffset o ho
  unfold checked
  rw [if_neg (by omega), if_neg (by omega), if_neg (by omega), if_neg (by omega), if_neg (by omega),
    if_neg (by omega), if_neg (by omega)]

/-- A timestamp is read as it was written. -/
theorem ofIso_iso (h : t.IsTold) : ofIso t.iso = .ok t := by
  unfold ofIso iso
  rw [String.toList_ofList, bytes_of_ascii fun _ => toNat_lt_of_mem_isoChars, readChars_isoChars h]
  exact checked_of_isValid h.isValid

/-! ## What is read -/

/-- A number that is read behind another one has at most so many more digits. -/
theorem lt_of_takeDigits {n read value : Nat} {cs rest : List Char}
    (h : takeDigits n read cs = some (value, rest)) : value < (read + 1) * Nat.pow 10 n := by
  induction n generalizing read cs with
  | zero =>
    cases h
    calc value < value + 1 := Nat.lt_succ_self value
      _ = (value + 1) * Nat.pow 10 0 := (Nat.mul_one _).symm
  | succ n ih =>
    cases cs with
    | nil => cases h
    | cons c cs =>
      rw [takeDigits] at h
      split at h
      · rename_i hdigit
        have hbound : c.toNat - '0'.toNat ≤ 9 := by
          simp only [isAsciiDigit, Bool.and_eq_true, decide_eq_true_eq] at hdigit
          have hnine : c.toNat ≤ '9'.toNat := hdigit.2
          have hvalues : '9'.toNat = '0'.toNat + 9 := rfl
          omega
        calc value < (10 * read + (c.toNat - '0'.toNat) + 1) * Nat.pow 10 n := ih h
          _ ≤ ((read + 1) * 10) * Nat.pow 10 n := Nat.mul_le_mul_right _ (by omega)
          _ = (read + 1) * Nat.pow 10 (n + 1) := by rw [Nat.mul_assoc, Nat.mul_comm 10]; rfl
      · cases h

variable {clock clock' : Clock} {cs : List Char} {next : Char} {more : Bool}

/-- A fraction has at most six digits that count. -/
theorem micro_of_readFraction (h : readFraction clock cs next = some (clock', more)) :
    clock'.micro < 1000000 := by
  unfold readFraction at h
  obtain ⟨⟨value, rest⟩, htaken, h⟩ := Option.bind_eq_some_iff.mp h
  cases h
  have hvalue := lt_of_takeDigits htaken
  have hsix : min 6 cs.length ≤ 6 := Nat.min_le_left _ _
  rw [Nat.zero_add, Nat.one_mul] at hvalue
  calc value * 10 ^ (6 - min 6 cs.length)
      < 10 ^ min 6 cs.length * 10 ^ (6 - min 6 cs.length) :=
        Nat.mul_lt_mul_of_pos_right hvalue (Nat.pow_pos (by decide))
    _ = 1000000 := by rw [← Nat.pow_add, Nat.add_sub_cancel' hsix]

/-- The parts of a clock leave its fraction, until that is read. -/
theorem micro_of_readParts {count part : Nat} {separated : Bool} (hclock : clock.micro < 1000000)
    (h : readParts next count part separated clock cs = some (clock', more)) :
    clock'.micro < 1000000 := by
  induction count generalizing part separated clock cs with
  | zero => exact micro_of_readFraction h
  | succ count ih =>
    rw [readParts] at h
    obtain ⟨⟨value, rest⟩, -, h⟩ := Option.bind_eq_some_iff.mp h
    have hpart : (clock.setPart part value).micro < 1000000 := by
      unfold Clock.setPart
      split <;> exact hclock
    dsimp only at h
    generalize (if part = 0 then rest.headD next == ':' else separated) = colons at h
    split at h
    · cases h
      exact hpart
    · split at h
      · exact ih hpart h
      · split at h
        · exact micro_of_readFraction h
        · split at h
          · exact ih hpart h
          · cases h

/-- A clock that is read has fewer than a million microseconds. -/
theorem micro_of_readClock (h : readClock cs next = some (clock, more)) : clock.micro < 1000000 :=
  micro_of_readParts (by decide) h

/-- Without an offset there is nothing to tell. -/
theorem offsetIsTold_none : OffsetIsTold none := by
  intro o ho
  cases ho

/-- A time of day that is read has fewer than a million microseconds, and an offset that is told. -/
theorem told_of_readTime {offset : Option Int} (h : readTime cs = some (clock, offset)) :
    clock.micro < 1000000 ∧ OffsetIsTold offset := by
  unfold readTime at h
  dsimp only at h
  split at h
  · obtain ⟨⟨clock₁, more⟩, hclock, h⟩ := Option.bind_eq_some_iff.mp h
    dsimp only at h
    split at h
    · cases h
    · cases h
      exact ⟨micro_of_readClock hclock, offsetIsTold_none⟩
  · obtain ⟨⟨clock₁, _⟩, hclock, h⟩ := Option.bind_eq_some_iff.mp h
    dsimp only at h
    split at h
    · split at h
      · cases h
      · cases h
        refine ⟨micro_of_readClock hclock, fun o ho => .inl ?_⟩
        exact (Option.some.inj ho).symm
    · obtain ⟨⟨ahead, more⟩, -, h⟩ := Option.bind_eq_some_iff.mp h
      dsimp only at h
      split at h
      · cases h
      · cases h
        refine ⟨micro_of_readClock hclock, fun o ho => ?_⟩
        obtain rfl := Option.some.inj ho
        -- Less than a second is read as nothing, on either side of universal time.
        unfold Instant.second
        split <;> split <;> omega

variable {t t' : Timestamp}

/-- The parts of a timestamp that is read have a fraction and an offset that are told. -/
theorem told_of_readChars (h : readChars cs = some t) : t.micro < 1000000 ∧ OffsetIsTold t.offset := by
  unfold readChars at h
  split at h
  · cases h
  · obtain ⟨⟨year, month, day⟩, -, h⟩ := Option.bind_eq_some_iff.mp h
    dsimp only at h
    split at h
    · cases h
      exact ⟨Nat.zero_lt_succ _, offsetIsTold_none⟩
    · obtain ⟨⟨clock, offset⟩, htime, h⟩ := Option.bind_eq_some_iff.mp h
      cases h
      exact told_of_readTime htime

/-- A timestamp that passes all checks lies in the calendar. -/
theorem isValid_of_checked (hmicro : t.micro < 1000000) (h : checked t = .ok t') :
    t' = t ∧ t.IsValid := by
  unfold checked at h
  split_ifs at h with hoffset hyear hmonth hday hhour hminute hsecond
  cases h
  have hbound : ∀ o, t.offset = some o → o.natAbs < Instant.day := by
    intro o ho
    rw [ho, Option.getD_some] at hoffset
    omega
  refine ⟨rfl, ?_, ?_, ?_, ?_, ?_, ?_, ?_, ?_, ?_, hmicro, hbound⟩ <;> omega

/-- A timestamp that is read from a text is told by its own text. -/
theorem isTold_of_ofIso {s : String} (h : ofIso s = .ok t) : t.IsTold := by
  unfold ofIso at h
  split at h
  · rename_i t₁ hread
    obtain ⟨hmicro, hoffset⟩ := told_of_readChars hread
    obtain ⟨rfl, hvalid⟩ := isValid_of_checked hmicro h
    exact ⟨hvalid, hoffset⟩
  · cases h

/-- A timestamp is read as it was written if its text tells all of it, and only then. -/
theorem ofIso_iso_iff : ofIso t.iso = .ok t ↔ t.IsTold := ⟨isTold_of_ofIso, ofIso_iso⟩

/-- A timestamp without an offset, or in universal time, is told by its text. -/
theorem isTold_of_isValid (h : t.IsValid) (hoffset : t.offset = none ∨ t.offset = some 0) : t.IsTold := by
  refine ⟨h, fun o ho => ?_⟩
  rcases hoffset with hnone | hzero
  · rw [hnone] at ho
    cases ho
  · rw [hzero] at ho
    exact .inl (Option.some.inj ho).symm

end Timestamp

end Concierge
