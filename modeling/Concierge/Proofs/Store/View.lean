import Concierge.Store.Basic

/-!
# The live rows of a store

What a store holds at an instant is a function from keys to live rows. Reading the store leaves this
function as it is, although it may remove a row that has expired; writing a key changes it at that
key only.
-/

namespace Concierge

/-- A removed key is absent, and no other key has changed. -/
theorem Dict.find?_erase {α : Type} (key k : String) (d : Dict α) :
    find? k (erase key d) = if key = k then none else find? k d := by
  induction d with
  | nil => simp [erase, find?]
  | cons e d ih =>
    obtain ⟨key', value⟩ := e
    unfold erase at ih ⊢
    by_cases hkey : key' = key
    · subst hkey
      rw [List.filter_cons_of_neg (by simp), ih]
      by_cases hk : key' = k <;> simp [find?, hk]
    · rw [List.filter_cons_of_pos (by simpa using hkey)]
      by_cases hk : key' = k
      · subst hk
        simp [find?, Ne.symm hkey]
      · simp only [find?, if_neg hk, ih]

namespace Store

variable {now : Instant} {key : String} {s : Store}

/-- The live rows of a store. -/
def view (now : Instant) (s : Store) (key : String) : Option Row := (s.touch now key).1

/-- The value that is read for a key. -/
def valueAt (now : Instant) (s : Store) (key : String) : Value := (s.get now key).1

/-- The live row of a key is the stored one, unless that has expired. -/
theorem view_eq_filter (now : Instant) (s : Store) (key : String) :
    s.view now key = (Dict.find? key s.rows).filter (Row.isLive now) := by
  unfold view touch
  cases Dict.find? key s.rows with
  | none => rfl
  | some r => by_cases hlive : r.isLive now <;> simp [hlive, Option.filter]

/-- The value of a key is that of its live row. -/
theorem valueAt_eq (now : Instant) (s : Store) (key : String) :
    s.valueAt now key = ((s.view now key).map Row.value).getD .null := rfl

/-- The value that is read for a key can be written. -/
theorem isShort_valueAt (now : Instant) (s : Store) (key : String) :
    (s.valueAt now key).isShort = true := by
  rw [valueAt_eq]
  cases s.view now key with
  | none => rfl
  | some row => exact row.isShort

/-- A row that is viewed is live. -/
theorem isLive_of_view {row : Row} (h : s.view now key = some row) : row.isLive now = true := by
  rw [view_eq_filter] at h
  exact (Option.filter_eq_some_iff.mp h).2

/-- The value of a key with a live row is that of the row. -/
theorem valueAt_of_find? {row : Row} (h : Dict.find? key s.rows = some row)
    (hlive : row.isLive now = true) : s.valueAt now key = row.value := by
  rw [valueAt_eq, view_eq_filter, h, Option.filter_some_pos hlive]
  rfl

/-- A value that is not null stands in a live row. -/
theorem exists_view_of_valueAt (h : s.valueAt now key ≠ .null) :
    ∃ row, s.view now key = some row ∧ row.value = s.valueAt now key := by
  rw [valueAt_eq] at h ⊢
  cases hrow : s.view now key with
  | none => simp [hrow] at h
  | some row => exact ⟨row, rfl, rfl⟩

/-- Looking up a row leaves the live rows as they are. -/
theorem view_touch (now : Instant) (key : String) (s : Store) :
    (s.touch now key).2.view now = s.view now := by
  funext k
  unfold touch
  cases hfound : Dict.find? key s.rows with
  | none => rfl
  | some r =>
    by_cases hlive : r.isLive now
    · simp only [hlive, if_true]
    · simp only [hlive, Bool.false_eq_true, if_false, view_eq_filter, Dict.find?_erase]
      by_cases hk : key = k
      · subst hk
        simp [hfound, Option.filter, hlive]
      · rw [if_neg hk]

/-- Reading a value leaves the live rows as they are. -/
theorem view_get (now : Instant) (key : String) (s : Store) :
    (s.get now key).2.view now = s.view now := view_touch now key s

/-- Stores with the same live rows have the same values. -/
theorem valueAt_congr {s' : Store} (h : s'.view now = s.view now) (key : String) :
    s'.valueAt now key = s.valueAt now key := by
  rw [valueAt_eq, valueAt_eq, h]

/-- The row of a value that can be written has the expiry, if that can be computed. -/
theorem rowFor_of_expiry {row : Option Row} {value lifetime : Value} {keep : Bool}
    {expiry : Option Instant} (hshort : value.isShort = true)
    (h : expiryFor now row lifetime keep = .ok expiry) :
    rowFor now row value lifetime keep = .ok ⟨Column.held value, expiry, Column.isShort_held hshort⟩ := by
  rw [rowFor, h]
  exact dif_pos hshort

/-- A value with an integer of too many digits has no row. -/
theorem rowFor_of_long {row : Option Row} {value lifetime : Value} {keep : Bool}
    {expiry : Option Instant} (hlong : value.isShort = false)
    (h : expiryFor now row lifetime keep = .ok expiry) :
    rowFor now row value lifetime keep = .error (.unwritten .tooLong) := by
  rw [rowFor, h]
  exact dif_neg (by rw [hlong]; exact Bool.false_ne_true)

/-- Without an expiry there is no row. -/
theorem rowFor_of_error {row : Option Row} {lifetime : Value} {keep : Bool} {e : TimeError}
    (value : Value) (h : expiryFor now row lifetime keep = .error e) :
    rowFor now row value lifetime keep = .error (.time e) := by
  rw [rowFor, h]
  rfl

/-- Setting a key to a value that can be written stores a row for it, and leaves the other live rows as they
are. -/
theorem set_of_expiry {value lifetime : Value} {keep : Bool} {expiry : Option Instant}
    (hshort : value.isShort = true)
    (h : expiryFor now (s.view now key) lifetime keep = .ok expiry) :
    ∃ s', s.set now key value lifetime keep = (.ok (), s') ∧
      Dict.find? key s'.rows = some ⟨Column.held value, expiry, Column.isShort_held hshort⟩ ∧
      ∀ k ≠ key, s'.view now k = s.view now k := by
  refine ⟨⟨Dict.set key ⟨Column.held value, expiry, Column.isShort_held hshort⟩
    (s.touch now key).2.rows⟩, ?_, ?_, ?_⟩
  · have hrow := rowFor_of_expiry hshort h
    unfold view at hrow
    simp only [set, hrow]
  · rw [Dict.find?_set, if_pos rfl]
  · intro k hk
    rw [view_eq_filter, Dict.find?_set, if_neg (Ne.symm hk), ← view_eq_filter, view_touch]

/-- Setting a key to a value with an integer of too many digits changes no live row. -/
theorem set_of_long {value : Value} (hlong : value.isShort = false) (now : Instant) (key : String)
    (lifetime : Value) (keep : Bool) (s : Store) :
    ∃ e s', s.set now key value lifetime keep = (.error e, s') ∧ s'.view now = s.view now := by
  have hfails : ∃ e, rowFor now (s.touch now key).1 value lifetime keep = .error e := by
    cases hexpiry : expiryFor now (s.touch now key).1 lifetime keep with
    | ok expiry => exact ⟨_, rowFor_of_long hlong hexpiry⟩
    | error e => exact ⟨_, rowFor_of_error value hexpiry⟩
  obtain ⟨e, hrow⟩ := hfails
  refine ⟨e, (s.touch now key).2, ?_, view_touch now key s⟩
  simp only [set, hrow]

/-- Without a row to keep, the expiry is the end of the lifetime, whatever is stored. -/
theorem expiryFor_fresh (now : Instant) (row : Option Row) (lifetime : Value) :
    expiryFor now row lifetime false = expiryFor now none lifetime false := by
  cases row <;> cases lifetime <;> rfl

end Store

end Concierge
