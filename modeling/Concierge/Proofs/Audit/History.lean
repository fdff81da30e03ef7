import Concierge.Proofs.Audit.Append
import Concierge.Proofs.Audit.Entry
import Concierge.Proofs.Budget.Count
import Concierge.Proofs.Store.Use

/-!
# What a log remembers

The log is one row of a store, and the whole row expires when no entry is appended for as long as its
lifetime. So the log remembers the newest of the entries that came in an unbroken sequence: going back
from now, no two neighbours are a lifetime apart. Clearing the log begins the sequence anew; reading it,
purging the store and using other keys do not matter.
-/

namespace Concierge

namespace Audit

/-- Entries with the instants at which they were appended, the newest one first. -/
abbrev History := List (Instant × Entry)

/-- The entries in the unbroken sequence that lasts until now: going back from now, up to the first
stretch of time without an entry that is as long as a lifetime. -/
def History.lasting (lifetime : Nat) : Instant → History → History
  | _, [] => []
  | now, e :: before =>
    if now < e.1 + lifetime then e :: lasting lifetime e.1 before else []

/-- The history after a use at an instant. An entry that cannot be written does not come into it. -/
def Log.historyAfter (log : Log) (now : Instant) : Use → History → History
  | .append l entry, history =>
    if l.key = log.key ∧ entry.isShort = true then (now, entry) :: history else history
  | .clear l, history => if l.key = log.key then [] else history
  | _, history => history

/-- The entries that were appended in a run of uses since the log was last cleared. -/
def Log.historyOf (log : Log) (run : List (Instant × Use)) : History :=
  run.foldl (fun history e => log.historyAfter e.1 e.2 history) []

/-- The microseconds for which a log lasts after an entry. -/
def Log.lasts (log : Log) : Nat := Budget.lengthOf log.lifetime

/-- What a log shows of its history at an instant. -/
def Log.shown (log : Log) (now : Instant) (history : History) : List Entry :=
  ((history.lasting log.lasts now).take log.capacity).map (·.2)

/-- A use of a log at an instant: to append an entry that can be read again, while the lifetime ends
within the calendar, to clear the log, or to read it. -/
def Log.IsUse (log : Log) (now : Instant) : Use → Prop
  | .append l entry => l = log ∧ entry.IsProper ∧ now + log.lasts < Instant.calendarEnd
  | .clear l | .recent l _ | .count l => l = log
  | _ => False

/-- The store after a run of uses. -/
def storeAfter (run : List (Instant × Use)) (s : Store) : Store :=
  run.foldl (fun s e => e.2.after e.1 s) s

variable {log : Log} {now next : Instant} {history : History} {s : Store}

/-! ## What is stored -/

/-- Entries as they are stored, the oldest one first. -/
def stored (entries : List Entry) : List Value := (entries.map fun e => .dict e.toDict).reverse

/-- The newest items are those at the front, when the newest one comes first. -/
theorem Log.newest_reverse (log : Log) (items : List Value) :
    log.newest items.reverse = (items.take log.capacity).reverse := by
  rw [newest, List.length_reverse, List.reverse_take]

/-- A log shows an entry at the instant at which it is appended, and before it what it showed until
then. -/
theorem Log.shown_cons (hlasts : 0 < log.lasts) (entry : Entry) (history : History) :
    log.shown now ((now, entry) :: history) =
      (entry :: log.shown now history).take log.capacity := by
  obtain ⟨capacity, hcapacity⟩ := Nat.exists_eq_add_one_of_ne_zero (Nat.ne_of_gt log.capacity_pos)
  have hnow : now < now + log.lasts := Nat.lt_add_of_pos_right hlasts
  simp only [shown, History.lasting, if_pos hnow, hcapacity, List.take_succ_cons, List.map_cons,
    List.map_take, List.take_take]
  rw [Nat.min_eq_left (Nat.le_succ capacity)]

/-- With one entry more, the newest of the stored items are those that the log shows then. -/
theorem Log.newest_stored (hlasts : 0 < log.lasts) (entry : Entry) (history : History) :
    log.newest (stored (log.shown now history) ++ [.dict entry.toDict]) =
      stored (log.shown now ((now, entry) :: history)) := by
  have hitems : stored (log.shown now history) ++ [.dict entry.toDict] =
      ((entry :: log.shown now history).map fun e => Value.dict e.toDict).reverse := by
    rw [List.map_cons, List.reverse_cons, stored]
  rw [hitems, log.newest_reverse, shown_cons hlasts, stored, List.map_take]

/-- Before a lifetime has passed, a log shows what it showed when its newest entry was appended. -/
theorem Log.shown_of_lt {e : Instant × Entry} (hlasts : 0 < log.lasts) (hlt : now < e.1 + log.lasts) :
    log.shown now (e :: history) = log.shown e.1 (e :: history) := by
  have hthen : e.1 < e.1 + log.lasts := Nat.lt_add_of_pos_right hlasts
  simp only [shown, History.lasting, if_pos hlt, if_pos hthen]

/-- After a lifetime without an entry, a log shows nothing. -/
theorem Log.shown_of_le {e : Instant × Entry} (hle : e.1 + log.lasts ≤ now) :
    log.shown now (e :: history) = [] := by
  simp only [shown, History.lasting, if_neg (Nat.not_lt.mpr hle), List.take_nil, List.map_nil]

/-- A log shows no more than its capacity. -/
theorem Log.length_shown_le (log : Log) (now : Instant) (history : History) :
    (log.shown now history).length ≤ log.capacity := by
  rw [shown, List.length_map, List.length_take]
  exact Nat.min_le_left _ _

/-- An unbroken sequence ends with the newest entry. -/
theorem History.lasting_isPrefix (lifetime : Nat) (now : Instant) (history : History) :
    history.lasting lifetime now <+: history := by
  induction history generalizing now with
  | nil => exact List.nil_prefix
  | cons e before ih =>
    rw [lasting]
    split
    · exact List.cons_prefix_cons.mpr ⟨rfl, ih e.1⟩
    · exact List.nil_prefix

/-- A log shows the newest entries of its history in their order. -/
theorem Log.shown_isPrefix (log : Log) (now : Instant) (history : History) :
    log.shown now history <+: history.map (·.2) :=
  ((List.take_prefix _ _).trans (History.lasting_isPrefix ..)).map _

/-- Proper entries are read as they were stored. -/
theorem mapM_ofValue_stored {entries : List Entry} (h : ∀ e ∈ entries, e.IsProper) :
    (stored entries).reverse.mapM Entry.ofValue = .ok entries := by
  rw [stored, List.reverse_reverse]
  induction entries with
  | nil => rfl
  | cons e entries ih =>
    have hread := Entry.ofValue_toDict (h e List.mem_cons_self)
    have hrest := ih fun e' he' => h e' (List.mem_cons_of_mem e he')
    rw [List.map_cons, List.mapM_cons, hread, hrest]
    rfl

/-! ## One use -/

/-- The row of a log with a history, as it was written with the newest entry. -/
def Log.IsRowOf (log : Log) (row : Option Store.Row) : History → Prop
  | [] => row = none
  | e :: before => ∃ written, row = some written ∧
      written.value = .list (stored (log.shown e.1 (e :: before))) ∧
      written.expiry = some (e.1 + log.lasts)

/-- A store in which the row of a log is that of a history, as long as it lives. -/
structure Log.Keeps (log : Log) (now : Instant) (history : History) (s : Store) : Prop where
  isKeyed : s.IsKeyed
  view_eq : ∃ row, log.IsRowOf row history ∧ s.view now log.key = row.filter (Store.Row.isLive now)
  isProper : ∀ e ∈ history, e.2.IsProper

namespace Log.Keeps

/-- The row is that of the history at a later instant too. -/
theorem later (h : log.Keeps now history s) (hle : now ≤ next) : log.Keeps next history s where
  isKeyed := h.isKeyed
  view_eq := by
    obtain ⟨row, hrow, hview⟩ := h.view_eq
    exact ⟨row, hrow, by rw [Store.view_later hle, hview, Store.filter_isLive_of_le hle]⟩
  isProper := h.isProper

/-- The stored items are the entries that the log shows. -/
theorem ofStored_valueAt (h : log.Keeps now history s) (hlasts : 0 < log.lasts) :
    log.ofStored (s.valueAt now log.key) = .ok (stored (log.shown now history)) := by
  obtain ⟨row, hrow, hview⟩ := h.view_eq
  rw [Store.valueAt_eq, hview]
  cases history with
  | nil =>
    rw [show row = none from hrow]
    simp [ofStored, shown, History.lasting, stored]
  | cons e before =>
    obtain ⟨written, rfl, hvalue, hexpiry⟩ := hrow
    rw [Option.filter]
    by_cases hlive : now < e.1 + log.lasts
    · rw [Store.Row.isLive_some hexpiry, decide_eq_true hlive, if_pos rfl, Option.map_some, hvalue,
        Option.getD_some, ofStored, shown_of_lt hlasts hlive]
    · rw [Store.Row.isLive_some hexpiry, decide_eq_false hlive, if_neg Bool.false_ne_true,
        Option.map_none, Option.getD_none, ofStored, shown_of_le (Nat.not_lt.mp hlive), stored,
        List.map_nil, List.reverse_nil]

/-- Appending an entry that can be written puts it in front of the history. -/
theorem append (h : log.Keeps now history s) (hlifetime : 1 ≤ log.lifetime) (hlasts : 0 < log.lasts)
    {entry : Entry} (hproper : entry.IsProper) (hshort : entry.isShort = true)
    (hcloses : now + log.lasts < Instant.calendarEnd) :
    log.Keeps now ((now, entry) :: history) (log.append now entry s).2 := by
  have hexpiry := Budget.expiryFor_window hlifetime hcloses none
  obtain ⟨s', happended, ⟨row, hrow, hvalue, hexpiry'⟩, -⟩ :=
    append_of_readable (h.ofStored_valueAt hlasts) ⟨_, hexpiry⟩ hshort
  have hlast : row.expiry = some (now + log.lasts) := Except.ok.inj (hexpiry'.symm.trans hexpiry)
  rw [newest_stored hlasts] at hvalue
  refine ⟨(log.keptBut_append now entry s).isKeyed h.isKeyed, ⟨some row, ⟨row, rfl, hvalue, hlast⟩, ?_⟩,
    List.forall_mem_cons.mpr ⟨hproper, h.isProper⟩⟩
  rw [happended, Store.view_eq_filter, hrow]

/-- Clearing the log begins a new history. -/
theorem clear (h : log.Keeps now history s) : log.Keeps now [] (log.clear now s) where
  isKeyed := h.isKeyed.delete now log.key
  view_eq := by
    refine ⟨none, rfl, ?_⟩
    rw [Log.clear, Store.view_delete, if_pos rfl]
    rfl
  isProper := List.forall_mem_nil _

/-- What reads the log leaves its row. -/
theorem of_view {s' : Store} (h : log.Keeps now history s) (hkept : s.KeptBut log.key now s')
    (hview : s'.view now = s.view now) : log.Keeps now history s' where
  isKeyed := hkept.isKeyed h.isKeyed
  view_eq := by
    rw [congrFun hview log.key]
    exact h.view_eq
  isProper := h.isProper

end Log.Keeps

/-- A use of another key is none of the log. -/
theorem Log.historyAfter_of_ne {u : Use} (hother : u.key? ≠ some log.key) :
    log.historyAfter now u history = history := by
  cases u with
  | append l entry => exact if_neg fun h => hother (congrArg some h.1)
  | clear l => exact if_neg fun hkey => hother (congrArg some hkey)
  | _ => rfl

/-- Reading entries leaves the live rows. -/
theorem Log.view_recent (log : Log) (now : Instant) (limit : Option Int) (s : Store) :
    (log.recent now limit s).2.view now = s.view now := by
  have hread := s.view_get now log.key
  have hload : (log.load now s).2 = (s.get now log.key).2 := rfl
  unfold recent
  cases hloaded : log.load now s with
  | mk items s' =>
    rw [← hload, hloaded] at hread
    cases items with
    | ok items => exact hread
    | error f => exact hread

/-- The entries of a log are read from the stored items. -/
theorem Log.recent_of_ofStored {entries : List Entry} (hproper : ∀ e ∈ entries, e.IsProper)
    (hitems : log.ofStored (s.valueAt now log.key) = .ok (stored entries)) :
    (log.recent now none s).1 = .ok entries ∧ (log.count now s).1 = .ok entries.length := by
  have hload : log.load now s = (.ok (stored entries), (s.get now log.key).2) := by
    rw [load]
    exact congrArg (fun items => (items.mapError Fault.storage, (s.get now log.key).2)) hitems
  constructor
  · simp only [recent, hload, mapM_ofValue_stored hproper]
    rfl
  · rw [count, hload]
    simp [stored, Except.map]

/-- After a use the store has the row of the history with that use. -/
theorem Log.Keeps.after (h : log.Keeps now history s) (hlifetime : 1 ≤ log.lifetime)
    (hlasts : 0 < log.lasts) {u : Use} (huse : u.key? = some log.key → log.IsUse now u) :
    log.Keeps now (log.historyAfter now u history) (u.after now s) := by
  by_cases hkey : u.key? = some log.key
  · have huse := huse hkey
    cases u with
    | append l entry =>
      obtain ⟨rfl, hproper, hcloses⟩ := huse
      cases hshort : entry.isShort with
      | true =>
        rw [historyAfter, if_pos ⟨rfl, hshort⟩]
        exact h.append hlifetime hlasts hproper hshort hcloses
      | false =>
        obtain ⟨e, s', happend, hview⟩ := append_of_long (h.ofStored_valueAt hlasts) hshort
        have hafter : (Use.append l entry).after now s = s' := congrArg Prod.snd happend
        rw [historyAfter, if_neg (by simp [hshort]), hafter]
        exact h.of_view (hafter ▸ l.keptBut_append now entry s) hview
    | clear l =>
      obtain rfl : l = log := huse
      rw [historyAfter, if_pos rfl]
      exact h.clear
    | recent l limit =>
      obtain rfl : l = log := huse
      exact h.of_view (l.keptBut_recent now limit s) (l.view_recent now limit s)
    | count l =>
      obtain rfl : l = log := huse
      exact h.of_view (.get l.key now s) (s.view_get now l.key)
    | _ => cases huse
  · rw [historyAfter_of_ne hkey]
    refine ⟨Use.isKeyed_after h.isKeyed, ?_, h.isProper⟩
    rw [Use.view_after h.isKeyed hkey]
    exact h.view_eq

/-! ## A whole run -/

/-- After a run of uses the store has the row of the history of the run. -/
theorem Log.Keeps.storeAfter {run : List (Instant × Use)} (h : log.Keeps now history s)
    (hlifetime : 1 ≤ log.lifetime) (hlasts : 0 < log.lasts)
    (hordered : (now :: run.map (·.1) ++ [next]).Pairwise (· ≤ ·))
    (honly : ∀ e ∈ run, e.2.key? = some log.key → log.IsUse e.1 e.2) :
    log.Keeps next (run.foldl (fun history e => log.historyAfter e.1 e.2 history) history)
      (storeAfter run s) := by
  induction run generalizing now history s with
  | nil => exact h.later ((List.pairwise_cons.mp hordered).1 next (by simp))
  | cons e run ih =>
    obtain ⟨hnow, hrest⟩ := List.pairwise_cons.mp hordered
    have hstep := (h.later (hnow e.1 (by simp))).after hlifetime hlasts (honly e List.mem_cons_self)
    exact ih hstep hrest fun e' he' => honly e' (List.mem_cons_of_mem e he')

/-- In a run of uses of a store at instants that do not decrease, in which the row of a log is absent at
first and is touched by that log only, the log shows at the end the newest of the entries that came in
an unbroken sequence since it was last cleared, up to its capacity, the newest one first. Each is the
entry that was appended, in its place, and the store holds no more of them than are shown. -/
theorem Log.recent_eq_shown {first now : Instant} {run : List (Instant × Use)} (hkeyed : s.IsKeyed)
    (habsent : s.view first log.key = none) (hlifetime : 1 ≤ log.lifetime)
    (hordered : (first :: run.map (·.1) ++ [now]).Pairwise (· ≤ ·))
    (honly : ∀ e ∈ run, e.2.key? = some log.key → log.IsUse e.1 e.2) :
    let shown := log.shown now (log.historyOf run)
    (log.recent now none (Audit.storeAfter run s)).1 = .ok shown ∧
      (log.count now (Audit.storeAfter run s)).1 = .ok shown.length ∧
      shown.length ≤ log.capacity ∧ shown <+: (log.historyOf run).map (·.2) := by
  have hlasts : 0 < log.lasts := by
    have hlength := Budget.lengthOf_eq hlifetime
    rw [lasts]
    omega
  have hfirst : log.Keeps first [] s := ⟨hkeyed, ⟨none, rfl, habsent⟩, List.forall_mem_nil _⟩
  have hlast := hfirst.storeAfter hlifetime hlasts hordered honly
  have hproper : ∀ e ∈ log.shown now (log.historyOf run), e.IsProper := by
    intro e he
    obtain ⟨entry, hentry, rfl⟩ := List.mem_map.mp ((log.shown_isPrefix ..).mem he)
    exact hlast.isProper entry hentry
  obtain ⟨hrecent, hcount⟩ := recent_of_ofStored hproper (hlast.ofStored_valueAt hlasts)
  exact ⟨hrecent, hcount, log.length_shown_le .., log.shown_isPrefix ..⟩

/-- An entry with a message. -/
def Entry.sample (message : String) : Entry where
  triggerId := .text "greet"
  triggerName := .text "Greet"
  userId := .int 1
  session := .text "s"
  address := .text ""
  timestamp := { year := 2024, month := 2, day := 29, offset := some 0 }
  params := .dict [("name", .text "Ada"), ("count", .int (-3))]
  message := .text message

/-- A sample entry can be read again. -/
theorem Entry.isProper_sample (message : String) : (sample message).IsProper where
  userId := ⟨_, rfl⟩
  params := ⟨_, rfl⟩
  success := ⟨_, rfl⟩
  timestamp := ⟨show Timestamp.IsValid { year := 2024, month := 2, day := 29, offset := some 0 } by decide,
    fun _ ho => .inl (Option.some.inj ho).symm⟩

/-- A second after the first of four entries the sequence begins anew, and of the three entries in it a
log for two shows the last two. -/
theorem Log.recent_eq_last_two :
    let log : Log := { capacity := 2, lifetime := 1 }
    let run : List (Instant × Use) := [(0, .append log (.sample "one")),
      (1000000, .append log (.sample "two")), (1400000, .append log (.sample "three")),
      (1400000, .call .purge), (1900000, .append log (.sample "four")),
      (1900000, .call (.set "other" (.int 7) .null false))]
    (History.lasting log.lasts 2000000 (log.historyOf run)).map (·.2) =
        [.sample "four", .sample "three", .sample "two"] ∧
      (log.recent 2000000 none (Audit.storeAfter run {})).1 =
        .ok [.sample "four", .sample "three"] := by
  intro log run
  have hcapacity : log.capacity = 2 := rfl
  have hlasts : log.lasts = 1000000 := by simp [lasts, log, Budget.lengthOf, Instant.second]
  have happend {now : Instant} (message : String) (hnow : now < 2000000) :
      log.IsUse now (.append log (.sample message)) := by
    have hend : 3000000 ≤ Instant.calendarEnd := by decide
    refine ⟨rfl, Entry.isProper_sample message, ?_⟩
    rw [hlasts]
    exact Nat.lt_of_lt_of_le (Nat.add_lt_add_right hnow _) hend
  have honly : ∀ e ∈ run, e.2.key? = some log.key → log.IsUse e.1 e.2 := by
    simp only [run, List.forall_mem_cons]
    exact ⟨fun _ => happend _ (by decide), fun _ => happend _ (by decide),
      fun _ => happend _ (by decide), nofun, fun _ => happend _ (by decide),
      by simp [Use.key?, Store.Call.key?, log], nofun⟩
  have hhistory : log.historyOf run = [(1900000, .sample "four"), (1400000, .sample "three"),
      (1000000, .sample "two"), (0, .sample "one")] := rfl
  have hordered : ((0 : Instant) :: run.map Prod.fst ++ [2000000]).Pairwise (· ≤ ·) := by decide
  have hshown := (recent_eq_shown Store.isKeyed_empty rfl (by decide) hordered honly).1
  rw [hhistory] at hshown ⊢
  constructor
  · simp [History.lasting, hlasts]
  · simpa [shown, History.lasting, hlasts, hcapacity] using hshown

end Audit

end Concierge
