import Concierge.Proofs.Store.View

/-!
# The rows behind the live ones

A store has one row for every key. What an operation does to the row of a key is told for all keys at
once, expired rows included; what it does to the live rows, at its own instant or at a later one,
follows from that, since a row that lives at an instant has lived before it.
-/

namespace Concierge

namespace Dict

variable {α : Type}

/-- Setting a key that is present keeps the keys, and any other key is new at the end. -/
theorem keys_set (key : String) (value : α) (d : Dict α) :
    keys (set key value d) = if key ∈ keys d then keys d else keys d ++ [key] := by
  induction d with
  | nil => simp [set, keys]
  | cons e d ih =>
    obtain ⟨k, v⟩ := e
    unfold keys at ih ⊢
    by_cases hk : k = key
    · simp [set, hk]
    · rw [set, if_neg hk, List.map_cons, ih]
      by_cases hmem : key ∈ List.map (·.1) d <;> simp [hmem, Ne.symm hk]

/-- Setting a key does not make a key occur twice. -/
theorem nodup_keys_set {d : Dict α} (h : (keys d).Nodup) (key : String) (value : α) :
    (keys (set key value d)).Nodup := by
  rw [keys_set]
  split
  · exact h
  · rename_i hfresh
    refine List.nodup_append.mpr ⟨h, by simp, ?_⟩
    rintro k hk _ hkey rfl
    rw [List.mem_singleton.mp hkey] at hk
    exact hfresh hk

/-- The entries that are chosen have keys that occur once if all have. -/
theorem nodup_keys_filter {d : Dict α} (h : (keys d).Nodup) (p : String × α → Bool) :
    (keys (d.filter p)).Nodup :=
  h.sublist (List.filter_sublist.map _)

/-- A key that is absent has no value. -/
theorem find?_eq_none {key : String} {d : Dict α} (h : key ∉ keys d) : find? key d = none := by
  induction d with
  | nil => rfl
  | cons e d ih =>
    obtain ⟨k, v⟩ := e
    rw [keys, List.map_cons, List.mem_cons, not_or] at h
    rw [find?, if_neg (Ne.symm h.1)]
    exact ih h.2

/-- When every key occurs once, choosing entries by their values keeps the values that are chosen. -/
theorem find?_filter {d : Dict α} (h : (keys d).Nodup) (p : α → Bool) (key : String) :
    find? key (d.filter fun e => p e.2) = (find? key d).filter p := by
  induction d with
  | nil => rfl
  | cons e d ih =>
    obtain ⟨k, v⟩ := e
    obtain ⟨hfresh, hrest⟩ := List.nodup_cons.mp h
    have hfiltered := ih hrest
    by_cases hp : p v = true
    · rw [List.filter_cons_of_pos (by exact hp)]
      by_cases hk : k = key
      · simp [find?, hk, Option.filter, hp]
      · simp only [find?, if_neg hk, hfiltered]
    · rw [List.filter_cons_of_neg (by exact hp), hfiltered]
      by_cases hk : k = key
      · subst hk
        rw [find?_eq_none hfresh, find?, if_pos rfl, Option.filter, if_neg hp]
        rfl
      · rw [find?, if_neg hk]

end Dict

namespace Store

variable {now later : Instant} {key : String} {s : Store}

/-- Every key has at most one row. -/
def IsKeyed (s : Store) : Prop := (Dict.keys s.rows).Nodup

/-- A new store has no row at all. -/
theorem isKeyed_empty : IsKeyed {} := List.nodup_nil

/-- A row with an expiry lives until then. -/
theorem Row.isLive_some {r : Row} {expiry : Instant} (h : r.expiry = some expiry) (now : Instant) :
    r.isLive now = decide (now < expiry) := by
  rw [isLive, h]
  rfl

/-- A row that lives at an instant has lived before it. -/
theorem Row.isLive_of_le {r : Row} (hle : now ≤ later) (h : r.isLive later = true) :
    r.isLive now = true := by
  unfold Row.isLive at h ⊢
  cases hexpiry : r.expiry with
  | none => rfl
  | some e =>
    rw [hexpiry] at h
    have hlater : later < e := by simpa using h
    simpa using Nat.lt_of_le_of_lt hle hlater

/-- What lives later is chosen from what lives now. -/
theorem filter_isLive_of_le (hle : now ≤ later) (row : Option Row) :
    (row.filter (Row.isLive now)).filter (Row.isLive later) = row.filter (Row.isLive later) := by
  cases row with
  | none => rfl
  | some r =>
    by_cases hnow : r.isLive now = true
    · rw [Option.filter_some_pos hnow]
    · have hlater : r.isLive later ≠ true := fun h => hnow (Row.isLive_of_le hle h)
      simp [Option.filter, hnow, hlater]

/-- A live row is stored. -/
theorem find?_of_view {row : Row} (h : s.view now key = some row) :
    Dict.find? key s.rows = some row := by
  rw [view_eq_filter] at h
  exact (Option.filter_eq_some_iff.mp h).1

/-- The live rows at a later instant are chosen from those at this one. -/
theorem view_later (hle : now ≤ later) (s : Store) (key : String) :
    s.view later key = (s.view now key).filter (Row.isLive later) := by
  rw [view_eq_filter, view_eq_filter, filter_isLive_of_le hle]

/-- Stores with the same live rows will have the same live rows. -/
theorem view_congr_later {s' : Store} (hle : now ≤ later) (h : s'.view now key = s.view now key) :
    s'.view later key = s.view later key := by
  rw [view_later hle, view_later hle, h]

/-! ## Looking up a row -/

/-- Looking up the row of a key removes it if it has expired, and leaves every other row. -/
theorem find?_touch (now : Instant) (key k : String) (s : Store) :
    Dict.find? k (s.touch now key).2.rows =
      if key = k then s.view now key else Dict.find? k s.rows := by
  rw [view_eq_filter]
  unfold touch
  cases hfound : Dict.find? key s.rows with
  | none =>
    by_cases hk : key = k
    · subst hk
      rw [if_pos rfl]
      exact hfound
    · rw [if_neg hk]
  | some r =>
    dsimp only
    by_cases hlive : r.isLive now = true
    · rw [if_pos hlive, Option.filter_some_pos hlive]
      by_cases hk : key = k
      · subst hk
        rw [if_pos rfl]
        exact hfound
      · rw [if_neg hk]
    · rw [if_neg hlive]
      simp [Dict.find?_erase, Option.filter, hlive]

/-- Whatever becomes of the row of a key that was looked up, every other row is left. -/
theorem ite_find?_touch (now : Instant) (key k : String) (row : Option Row) (s : Store) :
    (if key = k then row else Dict.find? k (s.touch now key).2.rows) =
      if key = k then row else Dict.find? k s.rows := by
  rw [find?_touch]
  by_cases hk : key = k
  · rw [if_pos hk, if_pos hk]
  · rw [if_neg hk, if_neg hk, if_neg hk]

/-- Looking up a row changes no live row, now and later. -/
theorem view_touch_of_le (hle : now ≤ later) (key : String) (s : Store) :
    (s.touch now key).2.view later = s.view later := by
  funext k
  exact view_congr_later hle (congrFun (view_touch now key s) k)

/-- Looking up a row keeps every key once. -/
theorem IsKeyed.touch (h : s.IsKeyed) (now : Instant) (key : String) : (s.touch now key).2.IsKeyed := by
  unfold Store.touch
  cases Dict.find? key s.rows with
  | none => exact h
  | some r =>
    dsimp only
    split
    · exact h
    · exact Dict.nodup_keys_filter h _

/-- What is left of the lifetime of a key is the time until its live row expires. -/
theorem lifetime_fst (now : Instant) (key : String) (s : Store) :
    (s.lifetime now key).1 =
      ((s.view now key).bind Row.expiry).map fun e : Instant => (e : Int) - now := by
  unfold lifetime view
  dsimp only
  cases (s.touch now key).1.bind Row.expiry <;> rfl

/-! ## Setting a key -/

section

variable {value lifetime : Value} {keep : Bool} {row : Row} {e : SetError}

/-- Setting a key stores the row of the value. -/
theorem set_of_ok (h : rowFor now (s.view now key) value lifetime keep = .ok row) :
    s.set now key value lifetime keep = (.ok (), ⟨Dict.set key row (s.touch now key).2.rows⟩) := by
  unfold view at h
  simp only [set, h]

/-- Setting a key to a value without a row only looks up the row of the key. -/
theorem set_of_error (h : rowFor now (s.view now key) value lifetime keep = .error e) :
    s.set now key value lifetime keep = (.error e, (s.touch now key).2) := by
  unfold view at h
  simp only [set, h]

/-- Setting a key stores the row of the value, and leaves every other row. -/
theorem find?_set_rows (h : rowFor now (s.view now key) value lifetime keep = .ok row) (k : String) :
    Dict.find? k (s.set now key value lifetime keep).2.rows =
      if key = k then some row else Dict.find? k s.rows := by
  rw [set_of_ok h, Dict.find?_set]
  exact ite_find?_touch ..

/-- Setting a key keeps every key once. -/
theorem IsKeyed.set (h : s.IsKeyed) (now : Instant) (key : String) (value lifetime : Value)
    (keep : Bool) : (s.set now key value lifetime keep).2.IsKeyed := by
  have htouched := h.touch now key
  cases hrow : rowFor now (s.view now key) value lifetime keep with
  | ok row =>
    rw [set_of_ok hrow]
    exact Dict.nodup_keys_set htouched _ _
  | error e =>
    rw [set_of_error hrow]
    exact htouched

/-- A key that is set has the new row, as long as that lives, and no other live row has changed. -/
theorem view_set_of_ok (h : rowFor now (s.view now key) value lifetime keep = .ok row) (later : Instant)
    (k : String) :
    (s.set now key value lifetime keep).2.view later k =
      if key = k then (some row).filter (Row.isLive later) else s.view later k := by
  rw [view_eq_filter, find?_set_rows h]
  by_cases hk : key = k
  · rw [if_pos hk, if_pos hk]
  · rw [if_neg hk, if_neg hk, view_eq_filter]

/-- Setting a key to a value without a row changes no live row, now and later. -/
theorem view_set_of_error (h : rowFor now (s.view now key) value lifetime keep = .error e)
    (hle : now ≤ later) : (s.set now key value lifetime keep).2.view later = s.view later := by
  rw [set_of_error h, view_touch_of_le hle]

end

/-! ## Deleting a key -/

/-- Deleting tells whether the key was live. -/
theorem delete_fst (now : Instant) (key : String) (s : Store) :
    (s.delete now key).1 = (s.view now key).isSome := by
  unfold delete view
  cases htouched : s.touch now key with
  | mk row s' => cases row <;> rfl

/-- A deleted key has no row, and every other row is left. -/
theorem find?_delete (now : Instant) (key k : String) (s : Store) :
    Dict.find? k (s.delete now key).2.rows = if key = k then none else Dict.find? k s.rows := by
  have htouched := find?_touch now key k s
  have hothers := ite_find?_touch now key k none s
  unfold view at htouched
  unfold delete
  cases hfound : s.touch now key with
  | mk row s' =>
    rw [hfound] at htouched hothers
    cases row with
    | none => exact htouched
    | some r => exact (Dict.find?_erase key k s'.rows).trans hothers

/-- Deleting a key keeps every other key once. -/
theorem IsKeyed.delete (h : s.IsKeyed) (now : Instant) (key : String) :
    (s.delete now key).2.IsKeyed := by
  have htouched := h.touch now key
  unfold Store.delete
  cases hfound : s.touch now key with
  | mk row s' =>
    rw [hfound] at htouched
    cases row with
    | none => exact htouched
    | some r => exact Dict.nodup_keys_filter htouched _

/-- A deleted key is absent from then on, and no other live row has changed. -/
theorem view_delete (now later : Instant) (key k : String) (s : Store) :
    (s.delete now key).2.view later k = if key = k then none else s.view later k := by
  rw [view_eq_filter, find?_delete]
  by_cases hk : key = k
  · rw [if_pos hk, if_pos hk]
    rfl
  · rw [if_neg hk, if_neg hk, view_eq_filter]

/-! ## Purging -/

/-- A purge leaves the rows that live. -/
theorem find?_purge (h : s.IsKeyed) (now : Instant) (key : String) :
    Dict.find? key (s.purge now).2.rows = s.view now key := by
  rw [view_eq_filter]
  exact Dict.find?_filter h (Row.isLive now) key

/-- A purge keeps every key once. -/
theorem IsKeyed.purge (h : s.IsKeyed) (now : Instant) : (s.purge now).2.IsKeyed :=
  Dict.nodup_keys_filter h _

/-- A purge changes no live row. -/
theorem view_purge (h : s.IsKeyed) (hle : now ≤ later) (key : String) :
    (s.purge now).2.view later key = s.view later key := by
  rw [view_eq_filter, find?_purge h, ← view_later hle]

end Store

end Concierge
