import Concierge.Audit.Log
import Concierge.Proofs.Store.View

/-!
# Appending to the log

Appending an entry to a log that can be read stores the newest entries up to that one, and touches no
other key. An entry with an integer of too many digits cannot be written, and leaves the log as it is.
-/

namespace Concierge.Audit

/-- The entry has no integer of too many digits, so that it can be written. -/
def Entry.isShort (e : Entry) : Bool := (Value.dict e.toDict).isShort

namespace Log

variable {log : Log} {now : Instant} {s : Store} {items : List Value} {entry : Entry}

/-- The log that holds some items in a store, for as long as its lifetime. -/
def Holds (log : Log) (now : Instant) (items : List Value) (s : Store) : Prop :=
  ∃ row, Dict.find? log.key s.rows = some row ∧ row.value = .list items ∧
    Store.expiryFor now none (.int log.lifetime) false = .ok row.expiry

/-- The entry that was appended last is the newest one in the log. -/
theorem getLast?_newest (log : Log) (items : List Value) (entry : Value) :
    (log.newest (items ++ [entry])).getLast? = some entry := by
  have hcapacity := log.capacity_pos
  rw [newest, List.getLast?_drop, if_neg (by simp; omega), List.getLast?_concat]

/-- The items of a log that can be read can be written. -/
theorem isShort_of_ofStored (hitems : log.ofStored (s.valueAt now log.key) = .ok items) :
    ∀ item ∈ items, item.isShort = true := by
  have hshort := s.isShort_valueAt now log.key
  cases hvalue : s.valueAt now log.key <;> rw [hvalue] at hitems hshort <;> cases hitems
  · exact List.forall_mem_nil _
  · exact Value.isShort_list_iff.mp hshort

/-- Items that can be written can be written with an entry more just if that can be written. -/
theorem isShort_newest (log : Log) (hitems : ∀ item ∈ items, item.isShort = true) (entry : Entry) :
    (Value.list (log.newest (items ++ [.dict entry.toDict]))).isShort = entry.isShort := by
  rw [Bool.eq_iff_iff, Value.isShort_list_iff]
  constructor
  · intro h
    exact h _ (List.mem_of_getLast? (log.getLast?_newest items (.dict entry.toDict)))
  · intro hentry item hitem
    rcases List.mem_append.mp (List.mem_of_mem_drop hitem) with hold | hnew
    · exact hitems item hold
    · rw [List.mem_singleton.mp hnew]
      exact hentry

/-- Appending an entry to a log that can be read writes the newest of its items up to that entry. -/
theorem append_eq (hitems : log.ofStored (s.valueAt now log.key) = .ok items) (entry : Entry) :
    log.append now entry s =
      log.write now (log.newest (items ++ [.dict entry.toDict])) (s.get now log.key).2 := by
  have hextended : log.extended entry (s.valueAt now log.key) =
      .ok (log.newest (items ++ [.dict entry.toDict])) := by
    rw [extended, hitems]
    rfl
  have hget : s.get now log.key = (s.valueAt now log.key, (s.get now log.key).2) := rfl
  unfold append
  rw [hget]
  simp only [hextended]

/-- Writing items that can be written stores them for the lifetime of the log, and changes no other live
row. -/
theorem write_of_isShort (hshort : (Value.list items).isShort = true)
    (hlasts : ∃ expiry, Store.expiryFor now none (.int log.lifetime) false = .ok expiry) (s : Store) :
    ∃ s', log.write now items s = (.ok (), s') ∧ log.Holds now items s' ∧
      ∀ key ≠ log.key, s'.view now key = s.view now key := by
  obtain ⟨expiry, hexpiry⟩ := hlasts
  obtain ⟨s', hset, hrow, hothers⟩ := Store.set_of_expiry (s := s) hshort
    ((Store.expiryFor_fresh now (s.view now log.key) (.int log.lifetime)).trans hexpiry)
  refine ⟨s', ?_, ⟨_, hrow, rfl, hexpiry⟩, hothers⟩
  simp only [write, hset]
  rfl

/-- An entry that can be written is appended to a log that can be read: it becomes the newest of the stored
entries, and no other live row changes. -/
theorem append_of_readable (hitems : log.ofStored (s.valueAt now log.key) = .ok items)
    (hlasts : ∃ expiry, Store.expiryFor now none (.int log.lifetime) false = .ok expiry)
    (hshort : entry.isShort = true) :
    ∃ s', log.append now entry s = (.ok (), s') ∧
      log.Holds now (log.newest (items ++ [.dict entry.toDict])) s' ∧
      ∀ key ≠ log.key, s'.view now key = s.view now key := by
  have hnewest := (log.isShort_newest (isShort_of_ofStored hitems) entry).trans hshort
  obtain ⟨s', hwrite, hholds, hothers⟩ := write_of_isShort hnewest hlasts (s.get now log.key).2
  exact ⟨s', (append_eq hitems entry).trans hwrite, hholds,
    fun key hkey => (hothers key hkey).trans (congrFun (s.view_get now log.key) key)⟩

/-- Items that cannot be written change no live row. -/
theorem write_of_long (log : Log) (now : Instant) (hlong : (Value.list items).isShort = false) (s : Store) :
    ∃ e s', log.write now items s = (.error (.ofSet e), s') ∧ s'.view now = s.view now := by
  obtain ⟨e, s', hset, hview⟩ := Store.set_of_long hlong now log.key (.int log.lifetime) false s
  refine ⟨e, s', ?_, hview⟩
  simp only [write, hset]
  rfl

/-- An entry that cannot be written is not appended to a log that can be read, and no live row changes. -/
theorem append_of_long (hitems : log.ofStored (s.valueAt now log.key) = .ok items)
    (hlong : entry.isShort = false) :
    ∃ e s', log.append now entry s = (.error (.ofSet e), s') ∧ s'.view now = s.view now := by
  have hnewest := (log.isShort_newest (isShort_of_ofStored hitems) entry).trans hlong
  obtain ⟨e, s', hwrite, hview⟩ := write_of_long log now hnewest (s.get now log.key).2
  exact ⟨e, s', (append_eq hitems entry).trans hwrite, hview.trans (s.view_get now log.key)⟩

/-- The log never holds more than its capacity. -/
theorem length_newest_le (log : Log) (items : List Value) :
    (log.newest items).length ≤ log.capacity := by
  rw [newest, List.length_drop]
  omega

end Log

end Concierge.Audit
