import Concierge.Proofs.Budget.Count

/-!
# Hits that slip out of their window

A hit may read the count of its budget while the window is open, and write it when the window has
closed. Such a hit slips: there is no live row whose expiry could be kept, and the count is stored
without one. In a run without slips the count always expires with its window; after a slip it never
does, and once it has reached the limit every hit is refused for good.
-/

namespace Concierge.Budget

/-- The store that hits on one key leave, each with the readings of the clock at which it reads and
writes. -/
def hitAll (key : String) (window limit : Int) : List (Instant × Instant) → Store → Store
  | [], s => s
  | (readAt, writeAt) :: run, s =>
    hitAll key window limit run (hit readAt writeAt key (.int window) (.int limit) s).2

/-- A hit slips: the count that it reads is below the limit, and has expired when it is written. -/
def Slips (key : String) (limit : Int) (readAt writeAt : Instant) (s : Store) : Prop :=
  ∃ row count, s.view readAt key = some row ∧ hits row.value = .ok count ∧ count < limit ∧
    row.isLive writeAt = false

/-- Some hit of a run slips. -/
def SlipsIn (key : String) (window limit : Int) : List (Instant × Instant) → Store → Prop
  | [], _ => False
  | (readAt, writeAt) :: run, s =>
    Slips key limit readAt writeAt s ∨
      SlipsIn key window limit run (hit readAt writeAt key (.int window) (.int limit) s).2

/-- When the last hit was written that found no live row and so opened a window, in a run behind one that
may have opened a window before. -/
def openingOf (key : String) (window limit : Int) :
    List (Instant × Instant) → Option Instant → Store → Option Instant
  | [], before, _ => before
  | (readAt, writeAt) :: run, before, s =>
    openingOf key window limit run (if s.view readAt key = none then some writeAt else before)
      (hit readAt writeAt key (.int window) (.int limit) s).2

/-- The row of a key holds a count that expires with the window that was opened at an instant. -/
def Expires (key : String) (window : Int) (opening : Option Instant) (s : Store) : Prop :=
  ∀ row, Dict.find? key s.rows = some row → ∃ opened count, opening = some opened ∧
    0 ≤ count ∧ count ≤ mostCounted ∧ row = rowOf (opened + lengthOf window) count

/-- The row of a key holds a count that does not expire. -/
def Lasts (key : String) (s : Store) : Prop :=
  ∃ count, 0 ≤ count ∧ count ≤ mostCounted ∧
    Dict.find? key s.rows = some (countRow count none)

variable {key : String} {window limit count : Int} {readAt writeAt : Instant} {s : Store}
  {opening : Option Instant}

/-- One hit more than a count is stored as a count again. -/
theorem exists_countRow_succ (hleast : 0 ≤ count) (hmost : count ≤ mostCounted)
    (expiry : Option Instant) :
    ∃ next, 0 ≤ next ∧ next ≤ mostCounted ∧ countRow (count + 1) expiry = countRow next expiry := by
  have hpositive : 0 ≤ mostCounted := by decide
  exact ⟨min (count + 1) mostCounted, by omega, by omega, countRow_succ hmost expiry⟩

/-- A hit that does not slip leaves a count that expires with the window that it opens, or with the one that
is open. -/
theorem Expires.hit (h : Expires key window opening s) (hwindow : 1 ≤ window)
    (hle : readAt ≤ writeAt) (hkept : ¬Slips key limit readAt writeAt s) :
    Expires key window (if s.view readAt key = none then some writeAt else opening)
      (hit readAt writeAt key (.int window) (.int limit) s).2 := by
  cases hview : s.view readAt key with
  | none =>
    cases hexpiry : Store.expiryFor writeAt none (.int window) false with
    | ok expiry =>
      obtain ⟨-, hrows⟩ := hit_of_absent limit hwindow hview
        (closes_of_expiryFor hwindow hexpiry)
      intro row hrow
      rw [hrows, if_pos rfl] at hrow
      cases hrow
      exact ⟨writeAt, 1, if_pos rfl, by decide, by decide, rfl⟩
    | error e =>
      obtain ⟨-, hrows⟩ := hit_of_endless limit hview hexpiry
      intro row hrow
      rw [hrows, if_pos rfl] at hrow
      cases hrow
  | some row =>
    have hfound := Store.find?_of_view hview
    obtain ⟨opened, count, hopened, hleast, hmost, rfl⟩ := h row hfound
    have hkeeps : (if some (rowOf (opened + lengthOf window) count) = none then some writeAt
        else opening) = some opened := (if_neg (by simp)).trans hopened
    have hcount := hits_held_of_le hleast hmost
    have hne := held_int_ne_null count
    by_cases hused : limit ≤ count
    · obtain ⟨-, hrows⟩ := hit_of_used writeAt window hview hne hcount hused
      intro row hrow
      rw [hrows, hfound] at hrow
      cases hrow
      exact ⟨opened, count, hkeeps, hleast, hmost, rfl⟩
    · have hleft : count < limit := Int.not_le.mp hused
      obtain ⟨-, hrows⟩ := hit_of_left window hle hview hne hcount hleft (isShort_succ hleast hmost)
      have hopen : (rowOf (opened + lengthOf window) count).isLive writeAt = true :=
        Bool.of_not_eq_false fun hclosed => hkept ⟨_, count, hview, hcount, hleft, hclosed⟩
      obtain ⟨next, hleast', hmost', hnext⟩ :=
        exists_countRow_succ hleast hmost (some (opened + lengthOf window))
      intro row hrow
      rw [hrows, if_pos rfl, if_pos hopen] at hrow
      refine ⟨opened, next, hkeeps, hleast', hmost', ?_⟩
      rw [← Option.some.inj hrow]
      exact hnext

/-- A hit that slips leaves a count that does not expire. -/
theorem Expires.hit_of_slips (h : Expires key window opening s) (hle : readAt ≤ writeAt)
    (hslips : Slips key limit readAt writeAt s) :
    Lasts key (Budget.hit readAt writeAt key (.int window) (.int limit) s).2 := by
  obtain ⟨row, count, hview, hcount, hleft, hclosed⟩ := hslips
  obtain ⟨opened, stored, -, hleast, hmost, rfl⟩ := h row (Store.find?_of_view hview)
  obtain rfl : stored = count := Except.ok.inj ((hits_held_of_le hleast hmost).symm.trans hcount)
  obtain ⟨-, hrows⟩ := hit_of_left window hle hview (held_int_ne_null stored) hcount hleft
    (isShort_succ hleast hmost)
  obtain ⟨next, hleast', hmost', hnext⟩ := exists_countRow_succ hleast hmost none
  refine ⟨next, hleast', hmost', ?_⟩
  rw [hrows, if_pos rfl, if_neg (by simp [hclosed]), hnext]

/-- A count that does not expire is live at any time. -/
theorem Lasts.view_eq (h : Lasts key s) (now : Instant) : ∃ count, 0 ≤ count ∧ count ≤ mostCounted ∧
    s.view now key = some (countRow count none) := by
  obtain ⟨count, hleast, hmost, hfound⟩ := h
  exact ⟨count, hleast, hmost, by rw [Store.view_eq_filter, hfound]; rfl⟩

/-- A hit does not make a count expire. -/
theorem Lasts.hit (h : Lasts key s) (hle : readAt ≤ writeAt) :
    Lasts key (Budget.hit readAt writeAt key (.int window) (.int limit) s).2 := by
  obtain ⟨count, hleast, hmost, hview⟩ := h.view_eq readAt
  have hcount := hits_held_of_le hleast hmost
  have hne := held_int_ne_null count
  by_cases hused : limit ≤ count
  · obtain ⟨-, hrows⟩ := hit_of_used writeAt window hview hne hcount hused
    exact ⟨count, hleast, hmost, (hrows key).trans (Store.find?_of_view hview)⟩
  · obtain ⟨-, hrows⟩ := hit_of_left window hle hview hne hcount (Int.not_le.mp hused)
      (isShort_succ hleast hmost)
    obtain ⟨next, hleast', hmost', hnext⟩ := exists_countRow_succ hleast hmost none
    refine ⟨next, hleast', hmost', ?_⟩
    have hlive : (countRow count none).isLive writeAt = true := rfl
    rw [hrows, if_pos rfl, if_pos hlive]
    exact congrArg some hnext

/-! ## A whole run -/

/-- A count that does not expire is left by any run. -/
theorem Lasts.hitAll {run : List (Instant × Instant)} (h : Lasts key s)
    (hordered : ∀ e ∈ run, e.1 ≤ e.2) : Lasts key (hitAll key window limit run s) := by
  induction run generalizing s with
  | nil => exact h
  | cons e run ih =>
    exact ih (h.hit (hordered e List.mem_cons_self)) fun e he => hordered e (List.mem_cons_of_mem _ he)

/-- The count that a run leaves expires with the last window that was opened, before or in the run, unless a
hit has slipped, and then it does not expire. -/
theorem Expires.hitAll {run : List (Instant × Instant)} (h : Expires key window opening s)
    (limit : Int) (hwindow : 1 ≤ window) (hordered : ∀ e ∈ run, e.1 ≤ e.2) :
    (¬SlipsIn key window limit run s →
        Expires key window (openingOf key window limit run opening s)
          (hitAll key window limit run s)) ∧
      (SlipsIn key window limit run s → Lasts key (Budget.hitAll key window limit run s)) := by
  induction run generalizing opening s with
  | nil => exact ⟨fun _ => h, False.elim⟩
  | cons e run ih =>
    obtain ⟨readAt, writeAt⟩ := e
    have hle : readAt ≤ writeAt := hordered _ List.mem_cons_self
    have hrest : ∀ e ∈ run, e.1 ≤ e.2 := fun e he => hordered e (List.mem_cons_of_mem _ he)
    by_cases hslips : Slips key limit readAt writeAt s
    · exact ⟨fun hnone => absurd (.inl hslips) hnone,
        fun _ => (h.hit_of_slips hle hslips).hitAll hrest⟩
    · obtain ⟨hexpires, hlasts⟩ := ih (h.hit hwindow hle hslips) hrest
      exact ⟨fun hnone => hexpires fun hlater => hnone (.inr hlater),
        fun hsome => hlasts (hsome.resolve_left hslips)⟩

/-- A hit at which the window has closed is admitted. -/
theorem Expires.hit_of_closed (h : Expires key window opening s) (hwindow : 1 ≤ window)
    (hclosed : ∀ opened, opening = some opened → opened + lengthOf window ≤ readAt)
    (hcloses : writeAt + lengthOf window < Instant.calendarEnd) :
    (Budget.hit readAt writeAt key (.int window) (.int limit) s).1 = .ok true := by
  refine (hit_of_absent limit hwindow ?_ hcloses).1
  cases hview : s.view readAt key with
  | none => rfl
  | some row =>
    have hlive := Store.isLive_of_view hview
    obtain ⟨opened, count, hopened, -, -, rfl⟩ := h row (Store.find?_of_view hview)
    rw [isLive_rowOf, decide_eq_true_eq] at hlive
    exact absurd hlive (Nat.not_lt.mpr (hclosed opened hopened))

/-- In a run of hits on a key without a row, in which no hit slips, the row of the key always expires, one
window after the last hit that opened a window was written, and a hit is admitted that reads the clock at the
end of that window or later. If a hit slips, the row does not expire, and once its count has reached the
limit every hit is refused, whenever it comes. -/
theorem expires_unless_slipped {run : List (Instant × Instant)}
    (habsent : Dict.find? key s.rows = none) (hwindow : 1 ≤ window)
    (hordered : ∀ e ∈ run, e.1 ≤ e.2) :
    (¬SlipsIn key window limit run s →
      (∀ row, Dict.find? key (hitAll key window limit run s).rows = some row →
        ∃ opened, openingOf key window limit run none s = some opened ∧
          row.expiry = some (opened + lengthOf window)) ∧
      ∀ readAt writeAt,
        (∀ opened, openingOf key window limit run none s = some opened →
          opened + lengthOf window ≤ readAt) →
        writeAt + lengthOf window < Instant.calendarEnd →
        (hit readAt writeAt key (.int window) (.int limit) (hitAll key window limit run s)).1 =
          .ok true) ∧
    (SlipsIn key window limit run s →
      ∃ row count, Dict.find? key (hitAll key window limit run s).rows = some row ∧
        row.expiry = none ∧ hits row.value = .ok count ∧
        (limit ≤ count → ∀ readAt writeAt,
          (hit readAt writeAt key (.int window) (.int limit) (hitAll key window limit run s)).1 =
            .ok false)) := by
  have hfresh : Expires key window none s := fun row hrow => by rw [habsent] at hrow; cases hrow
  obtain ⟨hexpires, hlasts⟩ := hfresh.hitAll limit hwindow hordered
  refine ⟨fun hnone => ⟨?_, ?_⟩, fun hsome => ?_⟩
  · intro row hrow
    obtain ⟨opened, count, hopened, -, -, rfl⟩ := hexpires hnone row hrow
    exact ⟨opened, hopened, rfl⟩
  · intro readAt writeAt hclosed hcloses
    exact (hexpires hnone).hit_of_closed hwindow hclosed hcloses
  · obtain ⟨count, hleast, hmost, hfound⟩ := hlasts hsome
    have hcount := hits_held_of_le hleast hmost
    refine ⟨_, count, hfound, rfl, hcount, fun hused readAt writeAt => ?_⟩
    have hview : (hitAll key window limit run s).view readAt key =
        some (countRow count none) := by
      rw [Store.view_eq_filter, hfound]
      rfl
    exact (hit_of_used writeAt window hview (held_int_ne_null count) hcount hused).1

/-- Two hits in one window leave a count that expires one second after the first of them, and the next hit is
admitted when it reads the clock at the end of the window. -/
theorem expires_after_two_hits :
    (∀ row, Dict.find? "visits" (hitAll "visits" 1 2 [(0, 0), (999998, 999999)] {}).rows = some row →
        row.expiry = some 1000000) ∧
      (hit 1000000 1000001 "visits" (.int 1) (.int 2)
        (hitAll "visits" 1 2 [(0, 0), (999998, 999999)] {})).1 = .ok true := by
  have hkept : ¬SlipsIn "visits" 1 2 [(0, 0), (999998, 999999)] {} := by
    rintro (⟨row, _, hrow, -⟩ | ⟨row, _, hrow, -, -, hclosed⟩ | hnone)
    · cases hrow
    · cases hrow
      cases hclosed
    · exact hnone
  obtain ⟨hexpires, hadmits⟩ := (expires_unless_slipped (by rfl) (by decide) (by decide)).1 hkept
  have hopening : openingOf "visits" 1 2 [(0, 0), (999998, 999999)] none {} = some 0 := rfl
  refine ⟨fun row hrow => ?_, hadmits 1000000 1000001 ?_ (by decide)⟩
  · obtain ⟨opened, hopened, hexpiry⟩ := hexpires row hrow
    obtain rfl : 0 = opened := Option.some.inj (hopening.symm.trans hopened)
    exact hexpiry
  · intro opened hopened
    obtain rfl : 0 = opened := Option.some.inj (hopening.symm.trans hopened)
    decide

/-- A hit that is read in the last microsecond of its window and written at the end of the window leaves a
count that never expires: a thousand years later, hits are still refused. -/
theorem slipped_budget_stays_closed :
    let s := hitAll "visits" 1 2 [(0, 0), (999999, 1000000)] {}
    Dict.find? "visits" s.rows = some { value := .int 2 } ∧
      (hit 31556952000000000 31556952000000000 "visits" (.int 1) (.int 2) s).1 = .ok false :=
  ⟨rfl, rfl⟩

end Concierge.Budget
