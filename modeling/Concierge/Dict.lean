/-!
# Ordered dictionaries

A dictionary is a list of entries in the order in which their keys were first set. Setting a key
that is present replaces its value in place, so that every key occurs once.
-/

namespace Concierge

/-- Entries in the order in which their keys were first set. -/
abbrev Dict (α : Type) := List (String × α)

namespace Dict

variable {α : Type}

/-- The value of a key. -/
def find? (key : String) : Dict α → Option α
  | [] => none
  | (k, v) :: rest => if k = key then some v else find? key rest

/-- A key is present. -/
def has (key : String) (d : Dict α) : Bool := (find? key d).isSome

/-- Sets a key: in place when it is present, at the end otherwise. -/
def set (key : String) (value : α) : Dict α → Dict α
  | [] => [(key, value)]
  | (k, v) :: rest => if k = key then (k, value) :: rest else (k, v) :: set key value rest

/-- Removes a key. -/
def erase (key : String) (d : Dict α) : Dict α := d.filter fun e => e.1 != key

/-- Sets all entries of the second dictionary in the first. -/
def merge (d changes : Dict α) : Dict α :=
  changes.foldl (fun d e => set e.1 e.2 d) d

/-- The dictionary of a list of entries; the last value of a key counts. -/
def ofEntries (es : List (String × α)) : Dict α := merge [] es

/-- The keys in order. -/
def keys (d : Dict α) : List String := d.map (·.1)

/-- A key that was set has the value that it was set to, and no other key has changed. -/
theorem find?_set (key k : String) (value : α) (d : Dict α) :
    find? k (set key value d) = if key = k then some value else find? k d := by
  induction d with
  | nil => simp [set, find?]
  | cons e rest ih =>
    obtain ⟨k', v⟩ := e
    by_cases h : k' = key
    · subst h; by_cases hk : k' = k <;> simp [set, find?, hk]
    · by_cases hk : k' = k
      · subst hk; simp [set, find?, h, Ne.symm h]
      · simp [set, find?, h, hk, ih]

/-- An entry of a dictionary in which a key was set is the new one, or was there before. -/
theorem mem_set {key : String} {value : α} {d : Dict α} {e : String × α} (h : e ∈ set key value d) :
    e = (key, value) ∨ e ∈ d := by
  induction d with
  | nil => exact .inl (List.mem_singleton.mp h)
  | cons e' rest ih =>
    obtain ⟨k, v⟩ := e'
    by_cases hk : k = key
    · subst hk
      rw [set, if_pos rfl] at h
      exact (List.mem_cons.mp h).imp_right (List.mem_cons_of_mem _)
    · rw [set, if_neg hk] at h
      rcases List.mem_cons.mp h with rfl | hrest
      · exact .inr (List.mem_cons_self ..)
      · exact (ih hrest).imp_right (List.mem_cons_of_mem _)

end Dict

end Concierge
