import Concierge.Proofs.Audit.Append
import Concierge.Proofs.Store.Use
import Concierge.Proofs.World.Action

/-!
# The entries that are stored

Which entries a store holds for a log, and how that changes: appending an entry adds at most this one, and
counting a hit adds none, under whatever key. Entries that expire are gone.
-/

namespace Concierge

namespace Store

variable {now : Instant} {key : String} {s : Store}

/-- A row that is written holds its value as the column of values does. -/
theorem value_of_rowFor {row : Option Row} {value lifetime : Value} {keep : Bool} {written : Row}
    (h : rowFor now row value lifetime keep = .ok written) : written.value = Column.held value := by
  cases hexpiry : expiryFor now row lifetime keep with
  | error e => cases (rowFor_of_error value hexpiry).symm.trans h
  | ok expiry =>
    cases hshort : value.isShort with
    | false => cases (rowFor_of_long hshort hexpiry).symm.trans h
    | true =>
      rw [← Except.ok.inj ((rowFor_of_expiry hshort hexpiry).symm.trans h)]

/-- A key that is set holds nothing, or what was set, or what it held before. -/
theorem valueAt_set_cases (now : Instant) (key : String) (value lifetime : Value) (keep : Bool)
    (s : Store) (k : String) :
    (s.set now key value lifetime keep).2.valueAt now k = s.valueAt now k ∨
      (s.set now key value lifetime keep).2.valueAt now k = Column.held value ∨
      (s.set now key value lifetime keep).2.valueAt now k = .null := by
  cases hrow : rowFor now (s.view now key) value lifetime keep with
  | error e => exact .inl (valueAt_congr (view_set_of_error hrow (Nat.le_refl now)) k)
  | ok row =>
    simp only [valueAt_eq, view_set_of_ok hrow]
    by_cases hk : key = k
    · rw [if_pos hk]
      by_cases hlive : row.isLive now = true
      · rw [Option.filter_some_pos hlive]
        exact .inr (.inl (value_of_rowFor hrow))
      · rw [Option.filter_some_neg (by simpa using hlive)]
        exact .inr (.inr rfl)
    · rw [if_neg hk]
      exact .inl rfl

end Store

namespace Audit.Log

variable {log : Log} {now later : Instant} {s s' : Store}

/-- The entries in a stored value; there are none if that is no list. -/
def itemsOf : Value → List Value
  | .list items => items
  | _ => []

/-- What is stored for a log, the oldest entry first. -/
def itemsAt (log : Log) (now : Instant) (s : Store) : List Value := itemsOf (s.valueAt now log.key)

/-- Stores with the same live row for the log hold the same entries. -/
theorem itemsAt_congr (h : s'.view now log.key = s.view now log.key) :
    log.itemsAt now s' = log.itemsAt now s := by
  rw [itemsAt, itemsAt, Store.valueAt_eq, Store.valueAt_eq, h]

/-- As time passes the entries stay or expire. -/
theorem itemsAt_later (hle : now ≤ later) (s : Store) :
    (log.itemsAt later s).Sublist (log.itemsAt now s) := by
  rw [itemsAt, itemsAt, Store.valueAt_eq, Store.valueAt_eq, Store.view_later hle]
  cases s.view now log.key with
  | none => exact .refl _
  | some row =>
    by_cases hlive : row.isLive later = true
    · have hkept : (some row).filter (Store.Row.isLive later) = some row := Option.filter_some_pos hlive
      exact hkept.symm ▸ List.Sublist.refl _
    · rw [Option.filter_some_neg (by simpa using hlive)]
      exact List.nil_sublist _

/-- A log that can be read holds the entries that are read. -/
theorem itemsOf_of_ofStored {stored : Value} {items : List Value}
    (h : log.ofStored stored = .ok items) : itemsOf stored = items := by
  cases stored <;> cases h <;> rfl

/-- A stored number holds no entries. -/
theorem itemsOf_held_int (n : Int) : itemsOf (Column.held (.int n)) = [] := by
  rw [Column.held]
  by_cases h : Column.leastInteger ≤ n ∧ n ≤ Column.greatestInteger
  · rw [if_pos h]
    rfl
  · rw [if_neg h]
    rfl

/-- When a key is set, the log holds what it held before, or the entries in what was set. -/
theorem itemsAt_set (log : Log) (now : Instant) (key : String) (value lifetime : Value) (keep : Bool)
    (s : Store) :
    log.itemsAt now (s.set now key value lifetime keep).2 = log.itemsAt now s ∨
      (log.itemsAt now (s.set now key value lifetime keep).2).Sublist (itemsOf (Column.held value)) := by
  unfold itemsAt
  rcases Store.valueAt_set_cases now key value lifetime keep s log.key with hsame | hset | hgone
  · exact .inl (congrArg itemsOf hsame)
  · rw [hset]
    exact .inr (.refl _)
  · rw [hgone]
    exact .inr (List.nil_sublist _)

/-- Setting a key to a number adds no entry. -/
theorem itemsAt_set_int (log : Log) (now : Instant) (key : String) (n : Int) (lifetime : Value)
    (keep : Bool) (s : Store) :
    (log.itemsAt now (s.set now key (.int n) lifetime keep).2).Sublist (log.itemsAt now s) := by
  rcases log.itemsAt_set now key (.int n) lifetime keep s with hsame | hset
  · exact hsame.symm ▸ List.Sublist.refl _
  · rw [itemsOf_held_int] at hset
    exact hset.trans (List.nil_sublist _)

/-- Counting a hit adds no entry, even if the log is stored under the key of the budget. -/
theorem itemsAt_allow (log : Log) (now : Instant) (key : String) (window limit : Value) (s : Store) :
    (log.itemsAt now (Budget.allow now key window limit s).2).Sublist (log.itemsAt now s) := by
  have hread : log.itemsAt now (s.get now key).2 = log.itemsAt now s :=
    itemsAt_congr (congrFun (Store.view_get now key s) log.key)
  rw [← hread]
  unfold Budget.allow Budget.hit
  dsimp only
  split
  · rename_i v _
    cases v with
    | opening => exact itemsAt_set_int ..
    | counted n => exact itemsAt_set_int ..
    | refused => exact .refl _
  · exact .refl _

/-- Appending an entry adds no other one. -/
theorem itemsAt_append (log : Log) (now : Instant) (entry : Entry) (s : Store) :
    (log.itemsAt now (log.append now entry s).2).Sublist
      (log.itemsAt now s ++ [.dict entry.toDict]) := by
  have hread : log.itemsAt now (s.get now log.key).2 = log.itemsAt now s :=
    itemsAt_congr (congrFun (Store.view_get now log.key s) log.key)
  have hkept : (log.itemsAt now (s.get now log.key).2).Sublist
      (log.itemsAt now s ++ [.dict entry.toDict]) := by
    rw [hread]
    exact List.sublist_append_left _ _
  unfold append
  dsimp only
  cases hextended : log.extended entry (s.get now log.key).1 with
  | error e => exact hkept
  | ok items =>
    obtain ⟨before, hbefore, hitems⟩ := Fault.ok_of_bind hextended
    cases hitems
    rcases log.itemsAt_set now log.key (.list (log.newest (before ++ [.dict entry.toDict])))
      (.int log.lifetime) false (s.get now log.key).2 with hsame | hset
    · rw [← hsame] at hkept
      exact hkept
    · refine hset.trans ((List.drop_sublist _ _).trans ?_)
      rw [itemsAt, ← itemsOf_of_ofStored hbefore]
      exact .refl _

end Audit.Log

end Concierge
