import Concierge.Proofs.Budget.Count

/-!
# What a budget has left

What a budget has left is the limit less the count, and nothing below zero; a hit is admitted by comparing
the two. As long as there is a count, both come to the same: a hit is admitted just when something is
left, and takes one of it. The first hit of a window is compared with nothing, so that a budget that never
has anything left admits it all the same.
-/

namespace Concierge.Budget

variable {now : Instant} {key : String} {window limit used : Int} {s : Store}

/-- What is left is the limit less the count, and nothing below zero. -/
theorem remaining_fst (limit : Int) (hused : hits (s.valueAt now key) = .ok used) :
    (remaining now key (.int limit) s).1 = .ok (.int (max (limit - used) 0)) := by
  show (((hits (s.valueAt now key)).mapError BudgetError.number >>= left (.int limit)).mapError
    BudgetError.fault) = _
  rw [hused]
  rfl

/-- What is left depends on the live rows. -/
theorem remaining_congr {s' : Store} (limit : Value) (h : s'.view now = s.view now) :
    (remaining now key limit s').1 = (remaining now key limit s).1 := by
  show (((hits (s'.valueAt now key)).mapError _ >>= _).mapError _) = _
  rw [Store.valueAt_congr h]
  rfl

/-- The first hit of a window that does not close within the calendar ends with a fault, and changes no
live row. -/
theorem allow_endless (hwindow : 1 ≤ window) (limit : Int) (hnull : s.valueAt now key = .null)
    (hendless : Instant.calendarEnd ≤ now + lengthOf window) :
    ∃ e s', allow now key (.int window) (.int limit) s = (.error (.time e), s') ∧
      s'.view now = s.view now := by
  cases hexpiry : Store.expiryFor now none (.int window) false with
  | ok expiry => exact absurd (closes_of_expiryFor hwindow hexpiry) (Nat.not_lt.mpr hendless)
  | error e =>
    have hfails := (Store.expiryFor_fresh now ((s.get now key).2.view now key) _).trans hexpiry
    refine ⟨e, ((s.get now key).2.touch now key).2, ?_, ?_⟩
    · rw [allow_of_verdict (v := .opening) (by rw [hnull]; rfl)]
      simp only [carryOut, Store.set_of_error (Store.rowFor_of_error (.int 1) hfails)]
      rfl
    · rw [Store.view_touch, Store.view_get]

/-- A hit below the limit ends with a fault if the raised count has too many digits to be written, and
changes no live row. -/
theorem allow_unwritten (window : Int) (hused : hits (s.valueAt now key) = .ok used)
    (hleft : used < limit) (hlong : isShort (used + 1) = false) :
    ∃ s', allow now key (.int window) (.int limit) s = (.error (.unwritten .tooLong), s') ∧
      s'.view now = s.view now := by
  -- Where nothing is stored, the raised count is one.
  have hnull : s.valueAt now key ≠ .null := by
    intro hnull
    rw [hnull] at hused
    obtain rfl : 0 = used := Except.ok.inj hused
    cases hlong
  obtain ⟨row, hrow, -⟩ := Store.exists_view_of_valueAt hnull
  have hview := s.view_get now key
  have hkept : Store.expiryFor now ((s.get now key).2.view now key) .null true = .ok row.expiry := by
    rw [hview, hrow]
    rfl
  have hset := Store.set_of_error
    (Store.rowFor_of_long (show (Value.int (used + 1)).isShort = false from hlong) hkept)
  refine ⟨((s.get now key).2.touch now key).2, ?_, (Store.view_touch ..).trans hview⟩
  rw [allow_of_verdict (verdict_int hnull hused), if_neg (by omega)]
  simp only [carryOut, hset]
  rfl

/-- A hit is admitted if there is no count yet, or one below the limit, and takes one of what is left as long
as the column holds the count as an integer. -/
theorem allow_takes_one (hwindow : 1 ≤ window) (hused : hits (s.valueAt now key) = .ok used)
    (hleast : 0 ≤ used) (hadmits : s.valueAt now key = .null ∨ used < limit)
    (hcloses : s.valueAt now key = .null → now + lengthOf window < Instant.calendarEnd)
    (hshort : isShort (used + 1) = true) :
    ∃ s', allow now key (.int window) (.int limit) s = (.ok true, s') ∧
      (used < mostCounted →
        (remaining now key (.int limit) s').1 = .ok (.int (max (max (limit - used) 0 - 1) 0))) := by
  obtain ⟨s', hallow, hheld, -⟩ := allow_admitted hwindow hused hadmits
    (fun hnull => ⟨_, expiryFor_window hwindow (hcloses hnull) none⟩) hshort
  refine ⟨s', hallow, fun hmost => ?_⟩
  have hcount : hits (s'.valueAt now key) = .ok (used + 1) := by
    rw [hheld]
    exact hits_held_of_le (by omega) (by omega)
  rw [remaining_fst limit hcount]
  congr 2
  omega

/-- A hit is refused if there is a count that has reached the limit, and changes no live row. -/
theorem allow_takes_none (window : Int) (hnull : s.valueAt now key ≠ .null)
    (hused : hits (s.valueAt now key) = .ok used) (hlimit : limit ≤ used) :
    ∃ s', allow now key (.int window) (.int limit) s = (.ok false, s') ∧ s'.view now = s.view now :=
  ⟨(s.get now key).2, allow_at_limit window hnull hused hlimit, s.view_get now key⟩

/-! ## Hits and what is left -/

/-- A hit is admitted just when something is left or nothing has been counted yet, unless the window that
it would open does not close within the calendar, or the raised count has too many digits to be written. An
admitted hit takes one of what is left, as long as the column holds the count as an integer; any other hit
leaves all live rows as they are. -/
theorem allow_and_remaining (hwindow : 1 ≤ window) (limit : Int)
    (hused : hits (s.valueAt now key) = .ok used) (hleast : 0 ≤ used) :
    let left := max (limit - used) 0
    let hit := allow now key (.int window) (.int limit) s
    (remaining now key (.int limit) s).1 = .ok (.int left) ∧
      if s.valueAt now key = .null ∧ Instant.calendarEnd ≤ now + lengthOf window then
        (∃ e, hit.1 = .error (.time e)) ∧ hit.2.view now = s.view now
      else if s.valueAt now key ≠ .null ∧ used < limit ∧ isShort (used + 1) = false then
        hit.1 = .error (.unwritten .tooLong) ∧ hit.2.view now = s.view now
      else
        ∃ admitted, hit.1 = .ok admitted ∧
          (admitted = true ↔ 0 < left ∨ s.valueAt now key = .null) ∧
          (admitted = true → used < mostCounted →
            (remaining now key (.int limit) hit.2).1 = .ok (.int (max (left - 1) 0))) ∧
          (admitted = false → hit.2.view now = s.view now ∧
            (remaining now key (.int limit) hit.2).1 = .ok (.int left)) := by
  intro left hit
  have hleft := remaining_fst limit hused
  refine ⟨hleft, ?_⟩
  by_cases hendless : s.valueAt now key = .null ∧ Instant.calendarEnd ≤ now + lengthOf window
  · rw [if_pos hendless]
    obtain ⟨e, s', hallow, hview⟩ := allow_endless hwindow limit hendless.1 hendless.2
    have hhit : hit = (.error (.time e), s') := hallow
    rw [hhit]
    exact ⟨⟨e, rfl⟩, hview⟩
  rw [if_neg hendless]
  by_cases hlong : s.valueAt now key ≠ .null ∧ used < limit ∧ isShort (used + 1) = false
  · rw [if_pos hlong]
    obtain ⟨-, hless, hdigits⟩ := hlong
    obtain ⟨s', hallow, hview⟩ := allow_unwritten window hused hless hdigits
    have hhit : hit = (.error (.unwritten .tooLong), s') := hallow
    rw [hhit]
    exact ⟨rfl, hview⟩
  · rw [if_neg hlong]
    have hpositive : 0 < left ↔ used < limit := by omega
    by_cases hadmits : s.valueAt now key = .null ∨ used < limit
    · have hshort : isShort (used + 1) = true := by
        by_cases hnull : s.valueAt now key = .null
        · rw [hnull] at hused
          obtain rfl : 0 = used := Except.ok.inj hused
          rfl
        · exact Bool.of_not_eq_false fun hdigits =>
            hlong ⟨hnull, hadmits.resolve_left hnull, hdigits⟩
      obtain ⟨s', hallow, hless⟩ := allow_takes_one hwindow hused hleast hadmits
        (fun hnull => Nat.lt_of_not_le fun hlate => hendless ⟨hnull, hlate⟩) hshort
      have hhit : hit = (.ok true, s') := hallow
      rw [hhit]
      exact ⟨true, rfl, iff_of_true rfl (hadmits.symm.imp_left hpositive.mpr), fun _ => hless,
        fun h => by cases h⟩
    · have hnone : ¬(0 < left ∨ s.valueAt now key = .null) := by
        rwa [hpositive, or_comm]
      rw [not_or] at hadmits
      obtain ⟨s', hallow, hview⟩ :=
        allow_takes_none window hadmits.1 hused (Int.not_lt.mp hadmits.2)
      have hhit : hit = (.ok false, s') := hallow
      rw [hhit]
      exact ⟨false, rfl, iff_of_false Bool.false_ne_true hnone, fun h => absurd h Bool.false_ne_true,
        fun _ => ⟨hview, (remaining_congr (.int limit) hview).trans hleft⟩⟩

/-- Of five hits in a minute three have been counted a second ago: two are left, and one more hit leaves
one. -/
theorem allow_and_remaining_of_three :
    let s := (({} : Store).set 0 "visits" (.int 3) (.int 60)).2
    let hit := allow 1000000 "visits" (.int 60) (.int 5) s
    (remaining 1000000 "visits" (.int 5) s).1 = .ok (.int 2) ∧ hit.1 = .ok true ∧
      (remaining 1000000 "visits" (.int 5) hit.2).1 = .ok (.int 1) := by
  intro s hit
  have hused : hits (s.valueAt 1000000 "visits") = .ok 3 := rfl
  obtain ⟨hleft, hspec⟩ := allow_and_remaining (show (1 : Int) ≤ 60 by decide) 5 hused (by decide)
  rw [if_neg (by rintro ⟨h, -⟩; cases h), if_neg (by decide)] at hspec
  obtain ⟨admitted, hanswer, hiff, hafter, -⟩ := hspec
  obtain rfl : admitted = true := hiff.mpr (.inl (by decide))
  exact ⟨hleft, hanswer, hafter rfl (by decide)⟩

/-- A budget of no hits at all has nothing left, and admits the first hit. -/
theorem hit_of_nothing :
    (remaining 0 "visits" (.int 0) {}).1 = .ok (.int 0) ∧
      (allow 0 "visits" (.int 60) (.int 0) {}).1 = .ok true :=
  ⟨rfl, rfl⟩

end Concierge.Budget
