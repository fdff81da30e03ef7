import Concierge.Proofs.Budget.Hit
import Concierge.Proofs.Store.Row

/-!
# The row of a budget

A hit reads the row of its budget at one instant and writes it at the same or a later one. The first hit
stores a count of one that expires with the window; a further hit raises the count and keeps the expiry
of the row that is live when it is written; at the limit nothing is written. Counts are held exactly up
to the first integer beyond 64 bits, and stay there.

A hit at one instant either charges the budget, and then the row of its key holds one hit more until the
window closes, or it leaves all live rows as they are: when the budget is used up, and when what is
stored is no number.
-/

namespace Concierge.Budget

/-- The count that no further hit raises, since it is held as a double. -/
def mostCounted : Int := 9223372036854775808

/-- The microseconds of a window of some seconds. -/
def lengthOf (window : Int) : Nat := window.toNat * Instant.second

/-- The row of a budget with some hits in a window that closes at an instant. -/
def rowOf (close : Instant) (count : Int) : Store.Row := countRow count (some close)

variable {now readAt writeAt close : Instant} {key : String} {window limit count : Int} {s : Store}

/-- The row of a budget lives until its window closes. -/
@[simp] theorem isLive_rowOf : (rowOf close count).isLive now = decide (now < close) := rfl

/-- A stored count is not null. -/
theorem held_int_ne_null (count : Int) : Column.held (.int count) ≠ .null := by
  rw [Column.held]
  split <;> simp

/-- A count up to the greatest one is read back as it was stored. -/
theorem hits_held_of_le (hleast : 0 ≤ count) (hmost : count ≤ mostCounted) :
    hits (Column.held (.int count)) = .ok count := by
  have hzero : Column.leastInteger ≤ 0 := by decide
  by_cases hgreatest : count ≤ Column.greatestInteger
  · exact hits_held (Int.le_trans hzero hleast) hgreatest
  · -- The greatest count is the only one beyond 64 bits; as a double it is still exact.
    have hsucc : mostCounted = Column.greatestInteger + 1 := rfl
    obtain rfl : count = mostCounted := by omega
    rfl

/-- One hit more than the greatest count is held as the greatest count. -/
theorem countRow_succ (hmost : count ≤ mostCounted) (expiry : Option Instant) :
    countRow (count + 1) expiry = countRow (min (count + 1) mostCounted) expiry := by
  by_cases heq : count = mostCounted
  · subst heq
    rfl
  · rw [Int.min_eq_left (by omega)]

/-- One hit more than a count up to the greatest one can be written. -/
theorem isShort_succ (hleast : 0 ≤ count) (hmost : count ≤ mostCounted) : isShort (count + 1) = true := by
  have hpower : Nat.pow 10 19 = 10000000000000000000 := rfl
  have hfew : (count + 1).natAbs < Nat.pow 10 19 := by
    unfold mostCounted at hmost
    omega
  exact isShort_of_lt (by decide) hfew

/-- The microseconds of a window as an integer. -/
theorem lengthOf_eq (hwindow : 1 ≤ window) : (lengthOf window : Int) = window * 1000000 := by
  have hsecond : lengthOf window = window.toNat * 1000000 := rfl
  omega

/-- A window that closes within the calendar has that expiry. -/
theorem expiryFor_window (hwindow : 1 ≤ window)
    (hcloses : now + lengthOf window < Instant.calendarEnd) (row : Option Store.Row) :
    Store.expiryFor now row (.int window) false = .ok (some (now + lengthOf window)) := by
  have hday : (Instant.day : Int) = 86400000000 := rfl
  have hend : (Instant.calendarEnd : Int) = 315537897600000000 := rfl
  have hfits : (now : Int) + lengthOf window < Instant.calendarEnd := by exact_mod_cast hcloses
  have hlength := lengthOf_eq hwindow
  have hdays : Int.fdiv (window * 1000000) Instant.day = window * 1000000 / 86400000000 := by
    rw [hday, Int.fdiv_eq_ediv_of_nonneg _ (by omega)]
  have hspan : Span.ofMicros (window * 1000000) = .ok (window * 1000000) := by
    unfold Span.ofMicros
    rw [hdays]
    dsimp only
    rw [if_neg (by omega), if_neg (by omega)]
  have hshift : Instant.shift now (window * 1000000) = .ok (now + lengthOf window) := by
    unfold Instant.shift
    rw [← hlength]
    dsimp only
    rw [if_pos ⟨by omega, by omega⟩]
    congr 1
  rw [Store.expiryFor_fresh]
  simp only [Store.expiryFor, Span.ofSeconds, hspan, hshift, Bind.bind, Except.bind]
  rfl

/-- A window whose expiry can be computed closes within the calendar. -/
theorem closes_of_expiryFor {expiry : Option Instant} (hwindow : 1 ≤ window)
    (h : Store.expiryFor now none (.int window) false = .ok expiry) :
    now + lengthOf window < Instant.calendarEnd := by
  simp only [Store.expiryFor, Span.ofSeconds, Bind.bind, Except.bind] at h
  cases hspan : Span.ofMicros (window * 1000000) with
  | error e => simp [hspan] at h
  | ok span =>
    obtain rfl := ofMicros_eq hspan
    cases hmoved : Instant.shift now (window * 1000000) with
    | error e => simp [hspan, hmoved] at h
    | ok t =>
      rw [← lengthOf_eq hwindow, Instant.shift] at hmoved
      split at hmoved
      · rename_i hfits
        exact_mod_cast hfits.2
      · cases hmoved

/-! ## One hit with two readings of the clock -/

/-- A hit without a live row opens a window. -/
theorem verdict_of_absent (habsent : s.view readAt key = none) :
    verdict (.int limit) (s.valueAt readAt key) = .ok .opening := by
  rw [Store.valueAt_eq, habsent]
  rfl

/-- A hit with a live row compares its count with the limit. -/
theorem verdict_of_view {row : Store.Row} (hrow : s.view readAt key = some row)
    (hne : row.value ≠ .null) (hcount : hits row.value = .ok count) :
    verdict (.int limit) (s.valueAt readAt key) =
      .ok (if limit ≤ count then .refused else .counted count) := by
  rw [Store.valueAt_eq, hrow]
  exact verdict_int hne hcount

/-- A hit without a live row is admitted, and stores a count of one until the window closes. -/
theorem hit_of_absent (limit : Int) (hwindow : 1 ≤ window) (habsent : s.view readAt key = none)
    (hcloses : writeAt + lengthOf window < Instant.calendarEnd) :
    (hit readAt writeAt key (.int window) (.int limit) s).1 = .ok true ∧
      ∀ k, Dict.find? k (hit readAt writeAt key (.int window) (.int limit) s).2.rows =
        if key = k then some (rowOf (writeAt + lengthOf window) 1) else Dict.find? k s.rows := by
  have hexpiry := expiryFor_window hwindow hcloses ((s.touch readAt key).2.view writeAt key)
  have hrow := rowFor_count (show isShort 1 = true from rfl) hexpiry
  have hset := Store.set_of_ok hrow
  have hrows := Store.find?_set_rows hrow
  have hhit : hit readAt writeAt key (.int window) (.int limit) s =
      (.ok true, ((s.touch readAt key).2.set writeAt key (.int 1) (.int window)).2) := by
    rw [hit_of_verdict (verdict_of_absent habsent)]
    simp only [carryOut, hset]
    rfl
  rw [hhit]
  exact ⟨rfl, fun k => (hrows k).trans (Store.ite_find?_touch ..)⟩

/-- A hit without a live row ends with a fault when its window does not close within the calendar, and
leaves the key without a row. -/
theorem hit_of_endless (limit : Int) {e : TimeError} (habsent : s.view readAt key = none)
    (hendless : Store.expiryFor writeAt none (.int window) false = .error e) :
    (hit readAt writeAt key (.int window) (.int limit) s).1 = .error (.time e) ∧
      ∀ k, Dict.find? k (hit readAt writeAt key (.int window) (.int limit) s).2.rows =
        if key = k then none else Dict.find? k s.rows := by
  have hset := Store.set_of_error (Store.rowFor_of_error (.int 1)
    ((Store.expiryFor_fresh writeAt ((s.touch readAt key).2.view writeAt key) (.int window)).trans
      hendless))
  have hhit : hit readAt writeAt key (.int window) (.int limit) s =
      (.error (.time e), ((s.touch readAt key).2.touch writeAt key).2) := by
    rw [hit_of_verdict (verdict_of_absent habsent)]
    simp only [carryOut, hset]
    rfl
  have hgone : (s.touch readAt key).2.view writeAt key = none := by
    rw [Store.view_eq_filter, Store.find?_touch, if_pos rfl, habsent]
    rfl
  rw [hhit]
  refine ⟨rfl, fun k => ?_⟩
  rw [Store.find?_touch, hgone]
  exact Store.ite_find?_touch ..

/-- A hit at the limit is refused and leaves every row. -/
theorem hit_of_used (writeAt : Instant) (window : Int) {row : Store.Row}
    (hrow : s.view readAt key = some row) (hne : row.value ≠ .null)
    (hcount : hits row.value = .ok count) (hused : limit ≤ count) :
    (hit readAt writeAt key (.int window) (.int limit) s).1 = .ok false ∧
      ∀ k, Dict.find? k (hit readAt writeAt key (.int window) (.int limit) s).2.rows =
        Dict.find? k s.rows := by
  have hhit : hit readAt writeAt key (.int window) (.int limit) s =
      (.ok false, (s.touch readAt key).2) := by
    rw [hit_of_verdict (verdict_of_view hrow hne hcount), if_pos hused]
    rfl
  rw [hhit]
  refine ⟨rfl, fun k => ?_⟩
  rw [Store.find?_touch]
  by_cases hk : key = k
  · subst hk
    rw [if_pos rfl, hrow]
    exact (Store.find?_of_view hrow).symm
  · rw [if_neg hk]

/-- A hit below the limit is admitted, and stores one more with the expiry of the row that is live when it
is written, if there is still one. -/
theorem hit_of_left (window : Int) (hle : readAt ≤ writeAt) {row : Store.Row}
    (hrow : s.view readAt key = some row) (hne : row.value ≠ .null)
    (hcount : hits row.value = .ok count) (hleft : count < limit) (hshort : isShort (count + 1) = true) :
    (hit readAt writeAt key (.int window) (.int limit) s).1 = .ok true ∧
      ∀ k, Dict.find? k (hit readAt writeAt key (.int window) (.int limit) s).2.rows =
        if key = k then
          some (countRow (count + 1) (if row.isLive writeAt then row.expiry else none))
        else Dict.find? k s.rows := by
  have hview : (s.touch readAt key).2.view writeAt key =
      (some row : Option Store.Row).filter (Store.Row.isLive writeAt) := by
    rw [← hrow, ← Store.view_later hle]
    exact congrFun (Store.view_touch_of_le hle key s) key
  have hexpiry : Store.expiryFor writeAt ((s.touch readAt key).2.view writeAt key) .null true =
      .ok (if row.isLive writeAt then row.expiry else none) := by
    rw [hview]
    by_cases hlive : row.isLive writeAt = true
    · rw [Option.filter_some_pos hlive, if_pos hlive]
      rfl
    · simp [Option.filter, hlive, Store.expiryFor]
  have hnext := rowFor_count hshort hexpiry
  have hset := Store.set_of_ok hnext
  have hrows := Store.find?_set_rows hnext
  have hhit : hit readAt writeAt key (.int window) (.int limit) s =
      (.ok true, ((s.touch readAt key).2.set writeAt key (.int (count + 1)) .null true).2) := by
    rw [hit_of_verdict (verdict_of_view hrow hne hcount), if_neg (Int.not_le.mpr hleft)]
    simp only [carryOut, hset]
    rfl
  rw [hhit]
  exact ⟨rfl, fun k => (hrows k).trans (Store.ite_find?_touch ..)⟩

/-! ## What a budget is charged -/

variable {s' : Store}

/-- The row of a budget holds one hit more than a count, and no other live row has changed. The window
closes when it would have closed before; the first hit opens one. -/
structure Charged (now : Instant) (key : String) (window count : Int) (s s' : Store) : Prop where
  view_key : s'.view now key = some (countRow (count + 1)
    (if s.valueAt now key = .null then some (now + lengthOf window)
    else (s.view now key).bind Store.Row.expiry))
  view_others : ∀ k ≠ key, s'.view now k = s.view now k

/-- A hit that cannot be counted, since what is stored is no number. -/
theorem allow_unreadable {e : NumberError} (window limit : Value)
    (he : hits (s.valueAt now key) = .error e) :
    allow now key window limit s = (.error (.number e), (s.get now key).2) := by
  have hverdict : verdict limit (s.valueAt now key) = .error (.number e) := by
    cases hstored : s.valueAt now key with
    | null =>
      rw [hstored] at he
      cases he
    | _ =>
      rw [hstored, hits_of_ne_null (by simp)] at he
      unfold verdict
      dsimp only
      rw [he]
      rfl
  have hget : s.get now key = (s.valueAt now key, (s.get now key).2) := rfl
  unfold allow hit
  rw [hget]
  simp only [hverdict]
  rfl

/-- A hit below the limit charges the budget. -/
theorem allow_charged (hwindow : 1 ≤ window)
    (hcloses : now + lengthOf window < Instant.calendarEnd)
    (hcount : hits (s.valueAt now key) = .ok count) (hleft : count < limit)
    (hshort : isShort (count + 1) = true) :
    ∃ s', allow now key (.int window) (.int limit) s = (.ok true, s') ∧
      Charged now key window count s s' := by
  by_cases hnull : s.valueAt now key = .null
  · obtain rfl : count = 0 := by
      rw [hnull] at hcount
      exact (Except.ok.inj hcount).symm
    have hexpiry := expiryFor_window hwindow hcloses none
    obtain ⟨s', hallow, hrow, hothers⟩ := allow_opening limit hexpiry hnull
    refine ⟨s', hallow, ?_, hothers⟩
    rw [Store.view_eq_filter, hrow, Option.filter_some_pos (isLive_of_expiryFor hwindow hexpiry 1),
      if_pos hnull]
    rfl
  · obtain ⟨row, hrow, -⟩ := Store.exists_view_of_valueAt hnull
    obtain ⟨s', hallow, hstored, hothers⟩ := allow_further window hrow hnull hcount hleft hshort
    refine ⟨s', hallow, ?_, hothers⟩
    have hlive : (countRow (count + 1) row.expiry).isLive now = true :=
      show row.isLive now = true from Store.isLive_of_view hrow
    rw [Store.view_eq_filter, hstored, Option.filter_some_pos hlive, if_neg hnull, hrow]
    rfl

end Concierge.Budget
