import Concierge.Audit.Log
import Concierge.Budget
import Concierge.Proofs.Store.Ideal
import Concierge.Settings

/-!
# Uses of a store

Budgets, the audit log and the settings all keep their records in one store, each under a key of its own.
Whatever one of them does, the live rows of all keys but its own remain as they are, now and later.
-/

namespace Concierge

/-- One use of a store: a call on it, or an operation of one of the parts that keep their records in it. -/
inductive Use where
  | call (call : Store.Call)
  /-- A hit against a budget. -/
  | hit (key : String) (window limit : Value)
  | remaining (key : String) (limit : Value)
  | reset (key : String)
  | append (log : Audit.Log) (entry : Audit.Entry)
  | recent (log : Audit.Log) (limit : Option Int)
  | clear (log : Audit.Log)
  | count (log : Audit.Log)
  | settings (id : String)
  | configure (id : String) (values : Dict Value)
  | update (id : String) (changes : Dict Value)
  | resolve (d : Definition)
  | isEnabled (d : Definition)
  | setEnabled (d : Definition) (on : Value)

/-- The key that a call is about; a purge is about none. -/
def Store.Call.key? : Store.Call → Option String
  | set key .. | get key | delete key | lifetime key => some key
  | purge => none

namespace Use

/-- The key that a use is about. -/
def key? : Use → Option String
  | call c => c.key?
  | hit key .. | remaining key _ | reset key => some key
  | append log _ | recent log _ | clear log | count log => some log.key
  | settings id | configure id _ | update id _ => some (Settings.keyOf id)
  | resolve d | isEnabled d | setEnabled d _ => some (Settings.keyOf d.id)

/-- The store that a use leaves. -/
def after (now : Instant) : Use → Store → Store
  | call c, s => (c.run now s).2
  | hit key window limit, s => (Budget.allow now key window limit s).2
  | remaining key limit, s => (Budget.remaining now key limit s).2
  | reset key, s => Budget.reset now key s
  | append log entry, s => (log.append now entry s).2
  | recent log limit, s => (log.recent now limit s).2
  | clear log, s => log.clear now s
  | count log, s => (log.count now s).2
  | settings id, s => (Settings.get now id s).2
  | configure id values, s => (Settings.set now id values s).2
  | update id changes, s => (Settings.update now id changes s).2
  | resolve d, s => (Settings.resolve now d s).2
  | isEnabled d, s => (Settings.isEnabled now d s).2
  | setEnabled d on, s => (Settings.setEnabled now d on s).2

end Use

namespace Store

/-- Every key still has one row, and the live rows of all keys but one are those of before. -/
structure KeptBut (key : String) (now : Instant) (s s' : Store) : Prop where
  isKeyed : s.IsKeyed → s'.IsKeyed
  view_eq : ∀ k ≠ key, s'.view now k = s.view now k

namespace KeptBut

variable {key : String} {now : Instant} {s s' s'' : Store}

/-- Two changes of the row of a key are one. -/
theorem trans (h : KeptBut key now s s') (h' : KeptBut key now s' s'') : KeptBut key now s s'' where
  isKeyed := h'.isKeyed ∘ h.isKeyed
  view_eq k hk := (h'.view_eq k hk).trans (h.view_eq k hk)

/-- Looking up a row. -/
theorem touch (key : String) (now : Instant) (s : Store) : KeptBut key now s (s.touch now key).2 where
  isKeyed h := h.touch now key
  view_eq k _ := congrFun (view_touch now key s) k

/-- Reading a value. -/
theorem get (key : String) (now : Instant) (s : Store) : KeptBut key now s (s.get now key).2 :=
  touch key now s

/-- Setting a key, whether its value has a row or not. -/
theorem set (key : String) (now : Instant) (value seconds : Value) (keep : Bool) (s : Store) :
    KeptBut key now s (s.set now key value seconds keep).2 where
  isKeyed h := h.set now key value seconds keep
  view_eq k hk := by
    cases hrow : rowFor now (s.view now key) value seconds keep with
    | ok row => rw [view_set_of_ok hrow, if_neg (Ne.symm hk)]
    | error e => rw [view_set_of_error hrow (Nat.le_refl now)]

/-- Deleting a key. -/
theorem delete (key : String) (now : Instant) (s : Store) : KeptBut key now s (s.delete now key).2 where
  isKeyed h := h.delete now key
  view_eq k hk := by rw [view_delete, if_neg (Ne.symm hk)]

end KeptBut

end Store

/-! ## The parts that use a store -/

variable {now : Instant} {s : Store}

/-- A hit changes the row of its budget only. -/
theorem Budget.keptBut_allow (now : Instant) (key : String) (window limit : Value) (s : Store) :
    s.KeptBut key now (allow now key window limit s).2 := by
  have hread := Store.KeptBut.get key now s
  unfold allow hit
  dsimp only
  split
  · rename_i v _
    cases v with
    | opening => exact hread.trans (.set key now ..)
    | counted n => exact hread.trans (.set key now ..)
    | refused => exact hread
  · exact hread

/-- Appending an entry changes the row of the log only. -/
theorem Audit.Log.keptBut_append (log : Log) (now : Instant) (entry : Entry) (s : Store) :
    s.KeptBut log.key now (log.append now entry s).2 := by
  have hread := Store.KeptBut.get log.key now s
  unfold append
  dsimp only
  split
  · exact hread.trans (.set log.key now ..)
  · exact hread

/-- Reading entries changes no row but that of the log. -/
theorem Audit.Log.keptBut_recent (log : Log) (now : Instant) (limit : Option Int) (s : Store) :
    s.KeptBut log.key now (log.recent now limit s).2 := by
  have hread : s.KeptBut log.key now (log.load now s).2 := .get log.key now s
  unfold recent
  cases hload : log.load now s with
  | mk items s' =>
    rw [hload] at hread
    cases items with
    | ok items => exact hread
    | error f => exact hread

/-- Changing some settings changes their row only. -/
theorem Settings.keptBut_update (now : Instant) (id : String) (changes : Dict Value) (s : Store) :
    s.KeptBut (keyOf id) now (update now id changes s).2 := by
  have hread : s.KeptBut (keyOf id) now (get now id s).2 := .get (keyOf id) now s
  unfold update
  cases hget : get now id s with
  | mk stored s' =>
    rw [hget] at hread
    cases stored with
    | ok values => exact hread.trans (.set (keyOf id) now ..)
    | error f => exact hread

namespace Use

/-- A use changes the row of its key only. -/
theorem keptBut_after {u : Use} {key : String} (hkey : u.key? = some key) (now : Instant) (s : Store) :
    s.KeptBut key now (u.after now s) := by
  cases u with
  | call c =>
    cases c with
    | set key value seconds keep => cases hkey; exact .set _ now ..
    | get key => cases hkey; exact .get _ now s
    | delete key => cases hkey; exact .delete _ now s
    | lifetime key => cases hkey; exact .touch _ now s
    | purge => cases hkey
  | hit key window limit => cases hkey; exact Budget.keptBut_allow ..
  | remaining key limit => cases hkey; exact .get _ now s
  | reset key => cases hkey; exact .delete _ now s
  | append log entry => cases hkey; exact log.keptBut_append ..
  | recent log limit => cases hkey; exact log.keptBut_recent ..
  | clear log => cases hkey; exact .delete _ now s
  | count log => cases hkey; exact .get _ now s
  | settings id => cases hkey; exact .get _ now s
  | configure id values => cases hkey; exact .set _ now ..
  | update id changes => cases hkey; exact Settings.keptBut_update ..
  | resolve d => cases hkey; exact .get _ now s
  | isEnabled d => cases hkey; exact .get _ now s
  | setEnabled d on => cases hkey; exact Settings.keptBut_update ..

/-- A use that is not about a key leaves the live row of that key, and every key has one row. -/
theorem view_after {u : Use} {key : String} (hkeyed : s.IsKeyed) (hkey : u.key? ≠ some key) :
    (u.after now s).view now key = s.view now key := by
  cases hown : u.key? with
  | some own =>
    have hne : key ≠ own := by
      rintro rfl
      exact hkey hown
    exact (keptBut_after hown now s).view_eq key hne
  | none =>
    cases u with
    | call c =>
      cases c with
      | purge => exact Store.view_purge hkeyed (Nat.le_refl now) key
      | _ => cases hown
    | _ => cases hown

/-- A use keeps every key once. -/
theorem isKeyed_after {u : Use} (hkeyed : s.IsKeyed) : (u.after now s).IsKeyed := by
  cases hown : u.key? with
  | some own => exact (keptBut_after hown now s).isKeyed hkeyed
  | none =>
    cases u with
    | call c =>
      cases c with
      | purge => exact hkeyed.purge now
      | _ => cases hown
    | _ => cases hown

end Use

end Concierge
