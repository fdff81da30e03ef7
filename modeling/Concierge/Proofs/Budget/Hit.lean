import Concierge.Budget
import Concierge.Proofs.Store.View

/-!
# Counting a hit

What one hit against a budget of whole numbers does to the store: below the limit it raises the count
by one, at the limit it changes nothing, and it never touches any other key.
-/

namespace Concierge.Budget

variable {now : Instant} {key : String} {window limit count : Int} {s : Store}

/-- A span has the microseconds that it is made of. -/
theorem ofMicros_eq {micros span : Int} (h : Span.ofMicros micros = .ok span) : span = micros := by
  simp only [Span.ofMicros] at h
  split at h
  · cases h
  · split at h
    · cases h
    · exact (Except.ok.inj h).symm

/-- An instant that is moved forward becomes later. -/
theorem lt_of_shift {span : Int} {t : Instant} (hspan : 0 < span)
    (h : Instant.shift now span = .ok t) : now < t := by
  simp only [Instant.shift] at h
  split at h
  · have ht : ((now : Int) + span).toNat = t := Except.ok.inj h
    have hlt : (now : Int) < t := by omega
    exact Int.ofNat_lt.mp hlt
  · cases h

/-- The row of a count with an expiry. -/
def countRow (count : Int) (expiry : Option Instant) : Store.Row :=
  ⟨Column.held (.int count), expiry, Column.isShort_held_int count⟩

/-- A count that is stored has its row. -/
theorem rowFor_count {row : Option Store.Row} {lifetime : Value} {keep : Bool} {expiry : Option Instant}
    (hshort : isShort count = true) (h : Store.expiryFor now row lifetime keep = .ok expiry) :
    Store.rowFor now row (.int count) lifetime keep = .ok (countRow count expiry) :=
  Store.rowFor_of_expiry (show (Value.int count).isShort = true from hshort) h

/-- The end of a window of whole seconds is still to come. -/
theorem isLive_of_expiryFor {expiry : Option Instant} (hwindow : 1 ≤ window)
    (h : Store.expiryFor now none (.int window) false = .ok expiry) (count : Int) :
    (countRow count expiry).isLive now = true := by
  simp only [Store.expiryFor, Span.ofSeconds, Bind.bind, Except.bind] at h
  cases hspan : Span.ofMicros (window * 1000000) with
  | error e => simp [hspan] at h
  | ok span =>
    obtain rfl := ofMicros_eq hspan
    cases hmoved : Instant.shift now (window * 1000000) with
    | error e => simp [hspan, hmoved] at h
    | ok t =>
      simp only [hspan, hmoved] at h
      cases h
      simpa [Store.Row.isLive, countRow] using lt_of_shift (by omega) hmoved

/-- What is stored counts for the integer that it is. -/
theorem hits_of_ne_null {v : Value} (hne : v ≠ .null) : hits v = v.toInteger := by
  cases v <;> first | rfl | exact absurd rfl hne

/-- A count of 64 bits is read back as it was stored. -/
theorem hits_held (hleast : Column.leastInteger ≤ count) (hgreatest : count ≤ Column.greatestInteger) :
    hits (Column.held (.int count)) = .ok count := by
  rw [Column.held, if_pos ⟨hleast, hgreatest⟩]
  rfl

/-- The verdict on a further hit compares the count with the limit. -/
theorem verdict_int {stored : Value} (hne : stored ≠ .null) (hcount : hits stored = .ok count) :
    verdict (.int limit) stored = .ok (if limit ≤ count then .refused else .counted count) := by
  rw [hits_of_ne_null hne] at hcount
  have hle : (Amount.ratio limit 1).le (.ratio count 1) = decide (limit ≤ count) := by
    simp [Amount.le]
  have hverdict : (if (Amount.ratio limit 1).le (.ratio count 1) then Verdict.refused
      else .counted count) = if limit ≤ count then .refused else .counted count := by
    simp only [hle, decide_eq_true_eq]
  cases stored with
  | null => exact absurd rfl hne
  | _ =>
    unfold verdict
    dsimp only
    rw [hcount]
    exact congrArg Except.ok hverdict

/-- A hit is carried out as its verdict says. -/
theorem hit_of_verdict {readAt writeAt : Instant} {window limit : Value} {v : Verdict}
    (h : verdict limit (s.valueAt readAt key) = .ok v) :
    hit readAt writeAt key window limit s = carryOut writeAt key window v (s.touch readAt key).2 := by
  have hget : s.get readAt key = (s.valueAt readAt key, (s.touch readAt key).2) := rfl
  unfold hit
  rw [hget]
  simp only [h]

/-- A hit at one instant is carried out as its verdict says. -/
theorem allow_of_verdict {window limit : Value} {v : Verdict}
    (h : verdict limit (s.valueAt now key) = .ok v) :
    allow now key window limit s = carryOut now key window v (s.get now key).2 :=
  hit_of_verdict h

/-- A hit is refused if there is a count that has reached the limit, and only looks up its row. -/
theorem allow_at_limit (window : Int) (hne : s.valueAt now key ≠ .null)
    (hcount : hits (s.valueAt now key) = .ok count) (hused : limit ≤ count) :
    allow now key (.int window) (.int limit) s = (.ok false, (s.get now key).2) := by
  rw [allow_of_verdict (verdict_int hne hcount), if_pos hused]
  rfl

/-- A hit at a limit of at least one is refused and leaves the live rows as they are. -/
theorem allow_refused (hlimit : 1 ≤ limit) (hcount : hits (s.valueAt now key) = .ok count)
    (hused : limit ≤ count) :
    allow now key (.int window) (.int limit) s = (.ok false, (s.get now key).2) := by
  refine allow_at_limit window (fun hnull => ?_) hcount hused
  rw [hnull] at hcount
  cases hcount
  omega

/-- The first hit is admitted: it opens a window with a count of one. -/
theorem allow_opening {expiry : Option Instant} (limit : Int)
    (hexpiry : Store.expiryFor now none (.int window) false = .ok expiry)
    (hnull : s.valueAt now key = .null) :
    ∃ s', allow now key (.int window) (.int limit) s = (.ok true, s') ∧
      Dict.find? key s'.rows = some (countRow 1 expiry) ∧
      ∀ k ≠ key, s'.view now k = s.view now k := by
  have hopened := (Store.expiryFor_fresh now ((s.get now key).2.view now key) _).trans hexpiry
  obtain ⟨s', hset, hrow, hothers⟩ := Store.set_of_expiry (show (Value.int 1).isShort = true from rfl) hopened
  refine ⟨s', ?_, hrow, fun k hk => (hothers k hk).trans (congrFun (s.view_get now key) k)⟩
  rw [allow_of_verdict (v := .opening) (by rw [hnull]; rfl)]
  simp only [carryOut, hset]
  rfl

/-- A further hit below the limit is admitted: it raises the count and keeps the window. -/
theorem allow_further {row : Store.Row} (window : Int) (hrow : s.view now key = some row)
    (hnull : s.valueAt now key ≠ .null) (hcount : hits (s.valueAt now key) = .ok count)
    (hleft : count < limit) (hshort : isShort (count + 1) = true) :
    ∃ s', allow now key (.int window) (.int limit) s = (.ok true, s') ∧
      Dict.find? key s'.rows = some (countRow (count + 1) row.expiry) ∧
      ∀ k ≠ key, s'.view now k = s.view now k := by
  have hview := s.view_get now key
  have hkept : Store.expiryFor now ((s.get now key).2.view now key) .null true = .ok row.expiry := by
    rw [hview, hrow]
    rfl
  obtain ⟨s', hset, hstored, hothers⟩ := Store.set_of_expiry
    (show (Value.int (count + 1)).isShort = true from hshort) hkept
  refine ⟨s', ?_, hstored, fun k hk => (hothers k hk).trans (congrFun hview k)⟩
  rw [allow_of_verdict (verdict_int hnull hcount), if_neg (by omega)]
  simp only [carryOut, hset]
  rfl

/-- A hit is admitted if there is no count yet, or one below the limit: the row of the key then holds one
more, and no other live row has changed. Only the first hit needs a window that closes, and only a further
one a count that can be raised. -/
theorem allow_admitted (hwindow : 1 ≤ window) (hcount : hits (s.valueAt now key) = .ok count)
    (hleft : s.valueAt now key = .null ∨ count < limit)
    (hcloses : s.valueAt now key = .null →
      ∃ e, Store.expiryFor now none (.int window) false = .ok e)
    (hshort : isShort (count + 1) = true) :
    ∃ s', allow now key (.int window) (.int limit) s = (.ok true, s') ∧
      s'.valueAt now key = Column.held (.int (count + 1)) ∧
      ∀ k ≠ key, s'.view now k = s.view now k := by
  by_cases hnull : s.valueAt now key = .null
  · obtain rfl : count = 0 := by
      rw [hnull] at hcount
      exact (Except.ok.inj hcount).symm
    obtain ⟨expiry, hexpiry⟩ := hcloses hnull
    obtain ⟨s', hallow, hrow, hothers⟩ := allow_opening limit hexpiry hnull
    exact ⟨s', hallow, Store.valueAt_of_find? hrow (isLive_of_expiryFor hwindow hexpiry 1), hothers⟩
  · obtain ⟨row, hrow, -⟩ := Store.exists_view_of_valueAt hnull
    obtain ⟨s', hallow, hstored, hothers⟩ :=
      allow_further window hrow hnull hcount (hleft.resolve_left hnull) hshort
    have hlive : row.isLive now = true := Store.isLive_of_view hrow
    exact ⟨s', hallow, Store.valueAt_of_find? hstored hlive, hothers⟩

end Concierge.Budget
