import Concierge.Proofs.Budget.Count
import Concierge.Proofs.Store.Use

/-!
# Windows of hits

In any run of uses of a store, the hits on a key fall into windows of one length: a hit outside the
windows before it opens the next one, the first hits of a window are admitted up to the limit, and no
hit moves the end of its window. So no stretch of time as long as a window admits more than twice the
limit. A limit beyond 64 bits is never reached, since the count stays at the first integer beyond them.
-/

namespace Concierge

/-- The outcome of a use that is a hit on a key. -/
def Use.outcomeOn (key : String) (now : Instant) (s : Store) : Use → Option (Except Fault Bool)
  | hit k window limit => if k = key then some (Budget.allow now k window limit s).1 else none
  | _ => none

namespace Budget

/-- The hits on a key in a run of uses of a store, each with its time and its outcome. -/
def hitsOn (key : String) : List (Instant × Use) → Store → List (Instant × Except Fault Bool)
  | [], _ => []
  | (now, u) :: run, s =>
    ((u.outcomeOn key now s).map (now, ·)).toList ++ hitsOn key run (u.after now s)

/-- A hit is admitted when fewer hits than the limit came before it in its window, or when no count
reaches the limit. -/
def admits (limit : Int) (before : Nat) : Bool := decide ((before : Int) < limit ∨ mostCounted < limit)

/-- Hits at some instants, behind a number of others in their window. -/
def verdicts (limit : Int) : Nat → List Instant → List (Instant × Except Fault Bool)
  | _, [] => []
  | before, t :: ts => (t, .ok (admits limit before)) :: verdicts limit (before + 1) ts

/-- A window: the instant of the hit that opens it, and those of the later hits in it. -/
structure Window where
  opening : Instant
  later : List Instant

/-- The hits in a window. -/
def Window.hits (limit : Int) (w : Window) : List (Instant × Except Fault Bool) :=
  verdicts limit 0 (w.opening :: w.later)

/-- Windows of one length that begin at an instant or later: each one opens after the one before it has
closed, and has all its hits before it closes. -/
def Spaced (length : Nat) : Instant → List Window → Prop
  | _, [] => True
  | earliest, w :: ws =>
    earliest ≤ w.opening ∧ (∀ t ∈ w.later, w.opening ≤ t ∧ t < w.opening + length) ∧
      Spaced length (w.opening + length) ws

variable {key : String} {window limit : Int} {now close : Instant} {before : Nat} {s : Store}

/-! ## One use -/

/-- The count that is stored after some hits in a window. -/
def countAfter (limit : Int) (before : Nat) : Int := min before (min limit mostCounted)

/-- A hit is admitted as long as the stored count is below the limit. -/
theorem admits_eq (limit : Int) (before : Nat) :
    admits limit before = decide (countAfter limit before < limit) := by
  rw [admits, countAfter, decide_eq_decide]
  omega

/-- A count between none and the greatest one is stored. -/
theorem countAfter_bounds (hlimit : 1 ≤ limit) (before : Nat) :
    0 ≤ countAfter limit before ∧ countAfter limit before ≤ mostCounted := by
  have hmost : mostCounted = 9223372036854775808 := rfl
  rw [countAfter]
  omega

/-- The first hit in a window stores a count of one. -/
theorem countAfter_one (hlimit : 1 ≤ limit) : countAfter limit 1 = 1 := by
  have hmost : mostCounted = 9223372036854775808 := rfl
  rw [countAfter]
  omega

/-- A hit that is refused is not counted. -/
theorem countAfter_succ_of_used (hused : limit ≤ countAfter limit before) :
    countAfter limit (before + 1) = countAfter limit before := by
  rw [countAfter] at hused ⊢
  rw [countAfter]
  omega

/-- A hit that is admitted is counted, as far as the column of values can count. -/
theorem rowOf_countAfter_succ (hlimit : 1 ≤ limit) (hleft : countAfter limit before < limit)
    (close : Instant) :
    rowOf close (countAfter limit before + 1) = rowOf close (countAfter limit (before + 1)) := by
  rw [rowOf, rowOf, countRow_succ (countAfter_bounds hlimit before).2]
  congr 1
  rw [countAfter] at hleft ⊢
  rw [countAfter]
  omega

/-- The row of a key is that of a budget with some hits in a window, as long as the window is open. -/
structure Tracks (key : String) (limit : Int) (now close : Instant) (before : Nat) (s : Store) :
    Prop where
  isKeyed : s.IsKeyed
  view_eq : s.view now key =
    (some (rowOf close (countAfter limit before)) : Option Store.Row).filter (Store.Row.isLive now)

/-- The row is that of the budget at a later time too. -/
theorem Tracks.later {later : Instant} (h : Tracks key limit now close before s) (hle : now ≤ later) :
    Tracks key limit later close before s where
  isKeyed := h.isKeyed
  view_eq := by rw [Store.view_later hle, h.view_eq, Store.filter_isLive_of_le hle]

/-- While the window is open, the key has the row of the budget. -/
theorem Tracks.view_of_open (h : Tracks key limit now close before s) (hopen : now < close) :
    s.view now key = some (rowOf close (countAfter limit before)) := by
  rw [h.view_eq, Option.filter_some_pos (by simpa using hopen)]

/-- When the window has closed, the key is absent. -/
theorem Tracks.view_of_closed (h : Tracks key limit now close before s) (hclosed : close ≤ now) :
    s.view now key = none := by
  have hexpired : ¬now < close := Nat.not_lt.mpr hclosed
  rw [h.view_eq]
  simp [Option.filter, hexpired]

/-- A use of another key leaves the row of the budget. -/
theorem Tracks.after (h : Tracks key limit now close before s) {u : Use} (hother : u.key? ≠ some key) :
    Tracks key limit now close before (u.after now s) where
  isKeyed := Use.isKeyed_after h.isKeyed
  view_eq := (Use.view_after h.isKeyed hother).trans h.view_eq

/-- A hit that finds its window closed is admitted and opens a window. -/
theorem Tracks.allow_of_closed (h : Tracks key limit now close before s) (hwindow : 1 ≤ window)
    (hlimit : 1 ≤ limit) (hclosed : close ≤ now)
    (hcloses : now + lengthOf window < Instant.calendarEnd) :
    (allow now key (.int window) (.int limit) s).1 = .ok (admits limit 0) ∧
      Tracks key limit now (now + lengthOf window) 1
        (allow now key (.int window) (.int limit) s).2 := by
  have hfirst : admits limit 0 = true := by
    rw [admits, decide_eq_true_eq]
    omega
  obtain ⟨houtcome, hrows⟩ := hit_of_absent limit hwindow (h.view_of_closed hclosed) hcloses
  refine ⟨houtcome.trans (by rw [hfirst]), (keptBut_allow now key _ _ s).isKeyed h.isKeyed, ?_⟩
  rw [Store.view_eq_filter, countAfter_one hlimit]
  exact congrArg _ ((hrows key).trans (if_pos rfl))

/-- A hit in an open window is admitted up to the limit, and does not move the end of the window. -/
theorem Tracks.allow_of_open (h : Tracks key limit now close before s) (window : Int)
    (hlimit : 1 ≤ limit) (hopen : now < close) :
    (allow now key (.int window) (.int limit) s).1 = .ok (admits limit before) ∧
      Tracks key limit now close (before + 1) (allow now key (.int window) (.int limit) s).2 := by
  have hrow := h.view_of_open hopen
  have hkeyed := (keptBut_allow now key (.int window) (.int limit) s).isKeyed h.isKeyed
  obtain ⟨hleast, hmost⟩ := countAfter_bounds hlimit before
  have hcount : hits (rowOf close (countAfter limit before)).value = .ok (countAfter limit before) :=
    hits_held_of_le hleast hmost
  have hne := held_int_ne_null (countAfter limit before)
  rw [admits_eq]
  by_cases hused : limit ≤ countAfter limit before
  · obtain ⟨houtcome, hrows⟩ := hit_of_used now window hrow hne hcount hused
    refine ⟨houtcome.trans ?_, hkeyed, ?_⟩
    · rw [decide_eq_false (Int.not_lt.mpr hused)]
    · rw [countAfter_succ_of_used hused, ← h.view_eq, Store.view_eq_filter, Store.view_eq_filter]
      exact congrArg _ (hrows key)
  · have hleft : countAfter limit before < limit := Int.not_le.mp hused
    obtain ⟨houtcome, hrows⟩ := hit_of_left window (Nat.le_refl now) hrow hne hcount hleft
      (isShort_succ hleast hmost)
    refine ⟨houtcome.trans ?_, hkeyed, ?_⟩
    · rw [decide_eq_true hleft]
    · rw [Store.view_eq_filter]
      refine congrArg _ ((hrows key).trans ?_)
      rw [if_pos rfl, isLive_rowOf, if_pos (by simpa using hopen)]
      exact congrArg some (rowOf_countAfter_succ hlimit hleft close)

/-! ## A whole run -/

/-- The hits of a run, behind some hits in a window, are further hits in that window and then those in
windows that open after it has closed. -/
theorem Tracks.hitsOn_eq {run : List (Instant × Use)} (h : Tracks key limit now close before s)
    (hwindow : 1 ≤ window) (hlimit : 1 ≤ limit)
    (hordered : (now :: run.map (·.1)).Pairwise (· ≤ ·))
    (honly : ∀ e ∈ run, e.2.key? = some key → e.2 = .hit key (.int window) (.int limit))
    (hcloses : ∀ e ∈ run, e.2.key? = some key → e.1 + lengthOf window < Instant.calendarEnd) :
    ∃ ts ws, hitsOn key run s = verdicts limit before ts ++ ws.flatMap (Window.hits limit) ∧
      (∀ t ∈ ts, now ≤ t ∧ t < close) ∧ Spaced (lengthOf window) close ws := by
  induction run generalizing now close before s with
  | nil => exact ⟨[], [], rfl, by simp, trivial⟩
  | cons e run ih =>
    obtain ⟨time, u⟩ := e
    obtain ⟨hnow, hrest⟩ := List.pairwise_cons.mp hordered
    have hle : now ≤ time := hnow time (by simp)
    have htracks := h.later hle
    have honly' := fun e he => honly e (List.mem_cons_of_mem _ he)
    have hcloses' := fun e he => hcloses e (List.mem_cons_of_mem _ he)
    by_cases hkey : u.key? = some key
    · obtain rfl : u = .hit key (.int window) (.int limit) := honly _ List.mem_cons_self hkey
      have hfits : time + lengthOf window < Instant.calendarEnd := hcloses _ List.mem_cons_self hkey
      by_cases hopen : time < close
      · obtain ⟨houtcome, hafter⟩ := htracks.allow_of_open window hlimit hopen
        obtain ⟨ts, ws, hits, hwithin, hspaced⟩ := ih hafter hrest honly' hcloses'
        refine ⟨time :: ts, ws, ?_, ?_, hspaced⟩
        · simp [hitsOn, Use.outcomeOn, Use.after, houtcome, hits, verdicts]
        · intro t ht
          cases ht with
          | head => exact ⟨hle, hopen⟩
          | tail _ ht => exact ⟨Nat.le_trans hle (hwithin t ht).1, (hwithin t ht).2⟩
      · have hclosed : close ≤ time := Nat.not_lt.mp hopen
        obtain ⟨houtcome, hafter⟩ := htracks.allow_of_closed hwindow hlimit hclosed hfits
        obtain ⟨ts, ws, hits, hwithin, hspaced⟩ := ih hafter hrest honly' hcloses'
        refine ⟨[], ⟨time, ts⟩ :: ws, ?_, by simp, hclosed, hwithin, hspaced⟩
        simp [hitsOn, Use.outcomeOn, Use.after, houtcome, hits, verdicts, Window.hits]
    · have hnone : u.outcomeOn key time s = none := by
        cases u with
        | hit k w l => exact if_neg fun hk => hkey (congrArg some hk)
        | _ => rfl
      obtain ⟨ts, ws, hits, hwithin, hspaced⟩ := ih (htracks.after hkey) hrest honly' hcloses'
      refine ⟨ts, ws, ?_, fun t ht => ⟨Nat.le_trans hle (hwithin t ht).1, (hwithin t ht).2⟩, hspaced⟩
      simp [hitsOn, hnone, hits]

/-! ## Any stretch of time -/

/-- A hit that was admitted in a stretch of time. -/
def isAdmittedIn (start length : Nat) : Instant × Except Fault Bool → Bool
  | (t, .ok admitted) => admitted && decide (start ≤ t ∧ t < start + length)
  | (_, .error _) => false

variable {start length : Nat} {ws : List Window} {earliest : Instant}

/-- In one window no more hits are admitted than the limit says. -/
theorem countP_verdicts_le (start length : Nat) (hmost : limit ≤ mostCounted) (before : Nat)
    (ts : List Instant) :
    ((verdicts limit before ts).countP (isAdmittedIn start length) : Int) ≤ max (limit - before) 0 := by
  induction ts generalizing before with
  | nil => exact Int.le_max_right _ _
  | cons t ts ih =>
    have hrest := ih (before + 1)
    rw [verdicts, List.countP_cons]
    by_cases hadmitted : isAdmittedIn start length (t, .ok (admits limit before)) = true
    · have hleft : (before : Int) < limit := by
        simp only [isAdmittedIn, admits, Bool.and_eq_true, decide_eq_true_eq] at hadmitted
        omega
      rw [if_pos hadmitted]
      omega
    · rw [if_neg hadmitted]
      omega

/-- The hits in a window are at the instants of the window. -/
theorem mem_of_mem_verdicts {e : Instant × Except Fault Bool} {before : Nat} {ts : List Instant}
    (h : e ∈ verdicts limit before ts) : e.1 ∈ ts := by
  induction ts generalizing before with
  | nil => cases h
  | cons t ts ih =>
    cases h with
    | head => exact List.mem_cons_self
    | tail _ h => exact List.mem_cons_of_mem _ (ih h)

/-- No hit comes before the windows do. -/
theorem Spaced.le_of_mem (hspaced : Spaced length earliest ws) {e : Instant × Except Fault Bool}
    (h : e ∈ ws.flatMap (Window.hits limit)) : earliest ≤ e.1 := by
  induction ws generalizing earliest with
  | nil => cases h
  | cons w ws ih =>
    obtain ⟨hopening, hlater, hrest⟩ := hspaced
    rw [List.flatMap_cons, List.mem_append] at h
    rcases h with h | h
    · obtain hopens | hmem := List.mem_cons.mp (mem_of_mem_verdicts h)
      · exact hopens ▸ hopening
      · exact Nat.le_trans hopening (hlater _ hmem).1
    · exact Nat.le_trans (Nat.le_trans hopening (Nat.le_add_right _ _)) (ih hrest h)

/-- Windows that open after a stretch of time have no hits in it. -/
theorem Spaced.countP_of_late (hspaced : Spaced length earliest ws) (limit : Int)
    (hlate : start + length ≤ earliest) :
    (ws.flatMap (Window.hits limit)).countP (isAdmittedIn start length) = 0 := by
  refine List.countP_eq_zero.mpr fun e he hadmitted => ?_
  have hle : earliest ≤ e.1 := hspaced.le_of_mem he
  obtain ⟨t, outcome⟩ := e
  cases outcome with
  | error f => cases hadmitted
  | ok admitted =>
    simp only [isAdmittedIn, Bool.and_eq_true, decide_eq_true_eq] at hadmitted
    exact absurd hadmitted.2.2 (Nat.not_lt.mpr (Nat.le_trans hlate hle))

/-- Of the windows that open in a stretch of time or later, only the first one has hits in it. -/
theorem Spaced.countP_of_later (hspaced : Spaced length earliest ws) (hlimit : 1 ≤ limit)
    (hmost : limit ≤ mostCounted) (hlater : start ≤ earliest) :
    ((ws.flatMap (Window.hits limit)).countP (isAdmittedIn start length) : Int) ≤ limit := by
  cases ws with
  | nil =>
    rw [List.flatMap_nil, List.countP_nil]
    omega
  | cons w ws =>
    obtain ⟨hopening, -, hrest⟩ := hspaced
    have hfirst := countP_verdicts_le start length hmost 0 (w.opening :: w.later)
    have hothers := hrest.countP_of_late limit
      (Nat.add_le_add_right (Nat.le_trans hlater hopening) length)
    rw [List.flatMap_cons, List.countP_append, hothers, Window.hits]
    omega

/-- A stretch of time as long as a window has hits in at most two windows. -/
theorem Spaced.countP_le (hspaced : Spaced length earliest ws) (hlimit : 1 ≤ limit)
    (hmost : limit ≤ mostCounted) :
    ((ws.flatMap (Window.hits limit)).countP (isAdmittedIn start length) : Int) ≤ 2 * limit := by
  induction ws generalizing earliest with
  | nil =>
    rw [List.flatMap_nil, List.countP_nil]
    omega
  | cons w ws ih =>
    obtain ⟨-, hlater, hrest⟩ := hspaced
    rw [List.flatMap_cons, List.countP_append]
    by_cases hnone : (Window.hits limit w).countP (isAdmittedIn start length) = 0
    · rw [hnone, Nat.zero_add]
      exact ih hrest
    · obtain ⟨⟨t, outcome⟩, he, hadmitted⟩ := List.countP_pos_iff.mp (Nat.pos_of_ne_zero hnone)
      -- The stretch begins before this window closes, and so no later than the next one opens.
      have hbegins : start ≤ w.opening + length := by
        cases outcome with
        | error f => cases hadmitted
        | ok admitted =>
          simp only [isAdmittedIn, Bool.and_eq_true, decide_eq_true_eq] at hadmitted
          refine Nat.le_trans hadmitted.2.1 ?_
          obtain hopens | hmem := List.mem_cons.mp (mem_of_mem_verdicts he)
          · exact hopens ▸ Nat.le_add_right t length
          · exact Nat.le_of_lt (hlater _ hmem).2
      have hfirst := countP_verdicts_le start length hmost 0
        (w.opening :: w.later)
      have hothers := hrest.countP_of_later hlimit hmost hbegins
      rw [Window.hits]
      omega

/-! ## The main result -/

/-- In a run of uses of a store at instants that do not decrease, in which a key is absent at first and is
touched by hits against one budget only, the hits on the key fall into windows: the first one at or
after the end of a window opens the next one, and of the hits in a window exactly the first ones are
admitted, up to the limit. Within 64 bits, no stretch of time as long as a window admits more than
twice the limit. -/
theorem hits_fall_into_windows {first : Instant} {run : List (Instant × Use)} (hkeyed : s.IsKeyed)
    (habsent : s.view first key = none) (hwindow : 1 ≤ window) (hlimit : 1 ≤ limit)
    (hordered : (first :: run.map (·.1)).Pairwise (· ≤ ·))
    (honly : ∀ e ∈ run, e.2.key? = some key → e.2 = .hit key (.int window) (.int limit))
    (hcloses : ∀ e ∈ run, e.2.key? = some key → e.1 + lengthOf window < Instant.calendarEnd) :
    ∃ ws, hitsOn key run s = ws.flatMap (Window.hits limit) ∧ Spaced (lengthOf window) first ws ∧
      (limit ≤ mostCounted → ∀ start,
        ((hitsOn key run s).countP (isAdmittedIn start (lengthOf window)) : Int) ≤ 2 * limit) := by
  have htracks : Tracks key limit first first 0 s := ⟨hkeyed, by simp [habsent, Option.filter]⟩
  obtain ⟨ts, ws, hits, hwithin, hspaced⟩ :=
    htracks.hitsOn_eq hwindow hlimit hordered honly hcloses
  have hnone : ts = [] := List.eq_nil_iff_forall_not_mem.mpr fun t ht =>
    absurd (hwithin t ht).2 (Nat.not_lt.mpr (hwithin t ht).1)
  subst hnone
  refine ⟨ws, hits, hspaced, fun hmost start => ?_⟩
  rw [hits]
  exact hspaced.countP_le hlimit hmost

/-- Two hits in a second are admitted, and a third one is not; at the end of the second the next window
opens. The purge in between touches no budget. -/
theorem hits_fall_into_two_windows :
    let run : List (Instant × Use) := [(0, .hit "visits" (.int 1) (.int 2)),
      (400000, .hit "visits" (.int 1) (.int 2)), (999999, .hit "visits" (.int 1) (.int 2)),
      (1000000, .call .purge), (1000000, .hit "visits" (.int 1) (.int 2))]
    hitsOn "visits" run {} = [(0, .ok true), (400000, .ok true), (999999, .ok false),
        (1000000, .ok true)] ∧
      ∃ ws, hitsOn "visits" run {} = ws.flatMap (Window.hits 2) ∧ Spaced (lengthOf 1) 0 ws ∧
        (2 ≤ mostCounted → ∀ start,
          ((hitsOn "visits" run {}).countP (isAdmittedIn start (lengthOf 1)) : Int) ≤ 2 * 2) := by
  refine ⟨rfl, hits_fall_into_windows Store.isKeyed_empty rfl (by decide) (by decide) (by decide) ?_ ?_⟩
  · simp [Use.key?, Store.Call.key?]
  · simp only [List.forall_mem_cons]
    decide

/-- Beyond 64 bits the count stays where it is, and all hits at one instant are admitted. -/
theorem Tracks.hitsOn_replicate (h : Tracks key limit now close before s) (window : Int)
    (hlimit : 1 ≤ limit) (hopen : now < close) (hgreat : mostCounted < limit) (n : Nat) :
    hitsOn key (List.replicate n (now, .hit key (.int window) (.int limit))) s =
      List.replicate n (now, .ok true) := by
  induction n generalizing before s with
  | zero => rfl
  | succ n ih =>
    obtain ⟨houtcome, hafter⟩ := h.allow_of_open window hlimit hopen
    have hadmitted : admits limit before = true := decide_eq_true (.inr hgreat)
    rw [List.replicate_succ, List.replicate_succ, hitsOn, Use.outcomeOn, if_pos rfl, houtcome, hadmitted]
    exact congrArg _ (ih hafter)

/-- A limit beyond 64 bits is not observed: in a window that admits one hit more than the greatest count,
the hit behind that is admitted as well. -/
theorem hits_beyond_64_bits :
    let hit : Instant × Use := (0, .hit "visits" (.int 60) (.int 9223372036854775809))
    hitsOn "visits" (List.replicate 9223372036854775810 hit) {} =
      List.replicate 9223372036854775810 (0, .ok true) := by
  have htracks : Tracks "visits" 9223372036854775809 0 0 0 {} := ⟨Store.isKeyed_empty, rfl⟩
  obtain ⟨houtcome, hafter⟩ := htracks.allow_of_closed (show 1 ≤ 60 by decide) (by decide)
    (Nat.le_refl 0) (by decide)
  have hothers := hafter.hitsOn_replicate 60 (by decide) (by decide) (by decide)
    9223372036854775809
  intro hit
  rw [List.replicate_succ, List.replicate_succ, hitsOn, Use.outcomeOn, if_pos rfl, houtcome]
  exact congrArg _ hothers

end Budget

end Concierge
