import Concierge.Proofs.Store.Keys
import Concierge.Proofs.Store.Use
import Concierge.Proofs.World.Action

/-!
# Settings in a store

The settings of a trigger depend on one row only, which has no expiry. Switching the trigger on or off sets
one of them and leaves the others, and it does not touch the settings of another trigger.
-/

namespace Concierge

namespace Dict

variable {α : Type}

/-- A key that is set again has the last value. -/
theorem set_set (key : String) (value value' : α) (d : Dict α) :
    set key value (set key value' d) = set key value d := by
  induction d with
  | nil => simp [set]
  | cons e d ih =>
    obtain ⟨k, v⟩ := e
    by_cases hk : k = key
    · simp [set, hk]
    · simp [set, hk, ih]

/-- A key that is present is set in place, before or after another key. -/
theorem set_comm {key other : String} (hne : key ≠ other) {d : Dict α} (hpresent : key ∈ keys d)
    (value value' : α) :
    set key value (set other value' d) = set other value' (set key value d) := by
  induction d with
  | nil => exact absurd hpresent List.not_mem_nil
  | cons e d ih =>
    obtain ⟨k, v⟩ := e
    by_cases hk : k = key
    · subst hk
      simp [set, hne]
    · have hrest : key ∈ keys d := (List.mem_cons.mp hpresent).resolve_left (Ne.symm hk)
      by_cases hother : k = other
      · simp [set, hother, Ne.symm hne]
      · simp [set, hk, hother, ih hrest]

/-- A key that is present is set before or after the entries of a dictionary without it. -/
theorem merge_set_of_mem {key : String} {changes : Dict α} (habsent : key ∉ keys changes) {d : Dict α}
    (hpresent : key ∈ keys d) (value : α) :
    merge (set key value d) changes = set key value (merge d changes) := by
  induction changes generalizing d with
  | nil => rfl
  | cons e changes ih =>
    obtain ⟨hne, hrest⟩ := not_or.mp (mt List.mem_cons.mpr habsent)
    have hkept : key ∈ keys (set e.1 e.2 d) := by
      rw [keys_set]
      split
      · exact hpresent
      · exact List.mem_append_left _ hpresent
    show merge (set e.1 e.2 (set key value d)) changes = _
    rw [← set_comm hne hpresent]
    exact ih hrest hkept

/-- A key is set in the entries that are merged, or in what they are merged to. -/
theorem merge_set {changes : Dict α} (hdistinct : (keys changes).Nodup) (d : Dict α) (key : String)
    (value : α) : merge d (set key value changes) = set key value (merge d changes) := by
  induction changes generalizing d with
  | nil => rfl
  | cons e changes ih =>
    obtain ⟨k, v⟩ := e
    obtain ⟨hfresh, hrest⟩ := List.nodup_cons.mp hdistinct
    by_cases hk : k = key
    · subst hk
      have hpresent : k ∈ keys (set k v d) := by
        rw [keys_set]
        split
        · assumption
        · simp
      rw [set, if_pos rfl]
      show merge (set k value d) changes = set k value (merge (set k v d) changes)
      rw [← merge_set_of_mem hfresh hpresent, set_set]
    · rw [set, if_neg hk]
      exact ih hrest (set k v d)

end Dict

namespace Settings

variable {now later : Instant} {d : Definition} {id : String} {s s' : Store}

/-- The row of the settings of a trigger does not expire, and has every setting once. -/
structure IsLasting (now : Instant) (id : String) (s : Store) : Prop where
  expiry : ∀ row, s.view now (keyOf id) = some row → row.expiry = none
  nodup : ∀ stored, s.valueAt now (keyOf id) = .dict stored → (Dict.keys stored).Nodup

/-- Where nothing is stored, nothing expires. -/
theorem isLasting_empty (now : Instant) (id : String) : IsLasting now id {} := ⟨nofun, nofun⟩

/-- The row of the settings stays. -/
theorem IsLasting.view_later (h : IsLasting now id s) (hle : now ≤ later) :
    s.view later (keyOf id) = s.view now (keyOf id) := by
  rw [Store.view_later hle]
  cases hrow : s.view now (keyOf id) with
  | none => rfl
  | some row =>
    refine Option.filter_some_pos ?_
    rw [Store.Row.isLive, h.expiry row hrow]
    rfl

/-- The settings depend on their row. -/
theorem resolve_congr (h : s'.view later (keyOf d.id) = s.view now (keyOf d.id)) :
    (resolve later d s').1 = (resolve now d s).1 := by
  have hvalue : s'.valueAt later (keyOf d.id) = s.valueAt now (keyOf d.id) := by
    rw [Store.valueAt_eq, Store.valueAt_eq, h]
  show Except.map _ ((ofStored d.id (s'.valueAt later (keyOf d.id))).mapError _) =
    Except.map _ ((ofStored d.id (s.valueAt now (keyOf d.id))).mapError _)
  rw [hvalue]

/-- Whether a trigger is switched on is one of its settings. -/
theorem isEnabled_eq (now : Instant) (d : Definition) (s : Store) :
    (isEnabled now d s).1 = (resolve now d s).1.map fun values =>
      isOn ((Dict.find? "enabled" values).getD (.bool true)) := rfl

/-- What is stored for a trigger has every setting once. -/
theorem IsLasting.nodup_of_get (h : IsLasting now id s) {stored : Dict Value}
    (hstored : (get now id s).1 = .ok stored) : (Dict.keys stored).Nodup := by
  have hread : ofStored id (s.valueAt now (keyOf id)) = .ok stored := Fault.ok_of_mapError hstored
  cases hvalue : s.valueAt now (keyOf id) <;> rw [hvalue] at hread <;> cases hread
  · exact List.nodup_nil
  · exact h.nodup _ hvalue

/-- Stored settings can be written. -/
theorem isShort_of_get {stored : Dict Value} (hstored : (get now id s).1 = .ok stored) :
    (Value.dict stored).isShort = true := by
  have hread : ofStored id (s.valueAt now (keyOf id)) = .ok stored := Fault.ok_of_mapError hstored
  have hshort := s.isShort_valueAt now (keyOf id)
  cases hvalue : s.valueAt now (keyOf id) <;> rw [hvalue] at hread hshort <;> cases hread
  · rfl
  · exact hshort

/-- Settings that can be written are set as they are, and do not expire. -/
theorem set_of_isShort (now : Instant) (id : String) {values : Dict Value}
    (hshort : (Value.dict values).isShort = true) (s : Store) :
    ∃ s', set now id values s = (.ok (), s') ∧
      ∀ later, s'.view later (keyOf id) = some ⟨.dict values, none, hshort⟩ := by
  have hexpiry : Store.expiryFor now (s.view now (keyOf id)) .null false = .ok none := by
    cases s.view now (keyOf id) <;> rfl
  have hrow := Store.rowFor_of_expiry hshort hexpiry
  refine ⟨(s.set now (keyOf id) (.dict values)).2, ?_, fun later => ?_⟩
  · rw [set, Store.set_of_ok hrow]
    rfl
  · rw [Store.view_set_of_ok hrow, if_pos rfl]
    rfl

/-- Settings are read from their row. -/
theorem resolve_of_view {row : Store.Row} {values : Dict Value}
    (hrow : s.view now (keyOf d.id) = some row) (hvalue : row.value = .dict values) :
    (resolve now d s).1 = .ok (Dict.merge d.defaults values) := by
  have hread : s.valueAt now (keyOf d.id) = .dict values := by
    rw [Store.valueAt_eq, hrow]
    exact hvalue
  show Except.map _ ((ofStored d.id (s.valueAt now (keyOf d.id))).mapError _) = _
  rw [hread]
  rfl

/-- Where the settings of a trigger can be read, one of them can be set to what can be written, for every
definition of the trigger. -/
theorem update_of_readable (hlasting : IsLasting now id s) {stored : Dict Value}
    (hstored : (get now id s).1 = .ok stored) (name : String) {v : Value} (hshort : v.isShort = true) :
    ∃ merged s', update now id [(name, v)] s = (.ok merged, s') ∧ IsLasting now id s' ∧
      ∀ d : Definition, d.id = id →
        (resolve now d s').1 = .ok (Dict.set name v (Dict.merge d.defaults stored)) := by
  have hdistinct := hlasting.nodup_of_get hstored
  have hmergeable := isShort_of_get hstored
  cases hget : get now id s with
  | mk e read =>
    rw [hget] at hstored
    obtain rfl : e = .ok stored := hstored
    obtain ⟨s', hset, hview⟩ := set_of_isShort now id (Value.isShort_dict_set hmergeable hshort name) read
    refine ⟨Dict.set name v stored, s', ?_, ⟨?_, ?_⟩, fun d hid => ?_⟩
    · have hmerged : Dict.merge stored [(name, v)] = Dict.set name v stored := rfl
      simp only [update, hget, hmerged, hset]
      rfl
    · rw [hview]
      rintro _ ⟨rfl⟩
      rfl
    · intro stored' hstored'
      rw [Store.valueAt_eq, hview] at hstored'
      cases hstored'
      exact Dict.nodup_keys_set hdistinct _ _
    · subst hid
      rw [resolve_of_view (hview now) rfl, Dict.merge_set hdistinct]

/-- Where the settings of a trigger can be read, it is switched on or off: for every definition of it this
sets one of its settings. -/
theorem setEnabled_of_readable (hlasting : IsLasting now d.id s) {stored : Dict Value}
    (hstored : (get now d.id s).1 = .ok stored) (on : Bool) :
    ∃ merged s', setEnabled now d (.bool on) s = (.ok merged, s') ∧ IsLasting now d.id s' ∧
      ∀ d' : Definition, d'.id = d.id →
        (resolve now d' s').1 = .ok (Dict.set "enabled" (.bool on) (Dict.merge d'.defaults stored)) :=
  update_of_readable hlasting hstored "enabled" rfl

/-- A trigger is switched on as the setting for it says. -/
theorem isEnabled_of_resolve {values : Dict Value} {on : Bool}
    (h : (resolve now d s).1 = .ok (Dict.set "enabled" (.bool on) values)) :
    (isEnabled now d s).1 = .ok on := by
  rw [isEnabled_eq, h]
  show Except.ok (isOn ((Dict.find? "enabled" (Dict.set "enabled" (.bool on) values)).getD _)) = _
  rw [Dict.find?_set, if_pos rfl]
  rfl

end Settings

end Concierge
