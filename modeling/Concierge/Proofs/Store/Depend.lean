import Concierge.Proofs.Store.Use

/-!
# Operations that depend on one row

A budget, a log and the settings of a trigger each have one key, and never look at the row of another
one. From stores that hold the same live row under that key they give the same, and leave the same live
row under it.
-/

namespace Concierge

namespace Store

variable {α β : Type} {key : String} {now : Instant}

/-- What an operation gives, and the live row of a key that it leaves, depend on that row only. -/
def DependsOn (key : String) (now : Instant) (f : Store → α × Store) : Prop :=
  ∀ s s' : Store, s'.view now key = s.view now key →
    (f s').1 = (f s).1 ∧ (f s').2.view now key = (f s).2.view now key

namespace DependsOn

/-- An operation that gives a value and leaves the store. -/
theorem pure (key : String) (now : Instant) (a : α) : DependsOn key now fun s => (a, s) :=
  fun _ _ hview => ⟨rfl, hview⟩

/-- An operation whose value is used. -/
theorem map {f : Store → α × Store} (hf : DependsOn key now f) (g : α → β) :
    DependsOn key now fun s => (g (f s).1, (f s).2) := by
  intro s s' hview
  obtain ⟨hgiven, hleft⟩ := hf s s' hview
  exact ⟨congrArg g hgiven, hleft⟩

/-- Reading the value of the key. -/
theorem get (key : String) (now : Instant) : DependsOn key now fun s => s.get now key := by
  intro s s' hview
  rw [view_get, view_get]
  refine ⟨?_, hview⟩
  show s'.valueAt now key = s.valueAt now key
  rw [valueAt_eq, valueAt_eq, hview]

/-- Setting the key. -/
theorem set (key : String) (now : Instant) (value lifetime : Value) (keep : Bool) :
    DependsOn key now fun s => s.set now key value lifetime keep := by
  intro s s' hview
  dsimp only
  cases hrow : rowFor now (s.view now key) value lifetime keep with
  | ok row =>
    have hrow' := hview ▸ hrow
    rw [view_set_of_ok hrow, view_set_of_ok hrow', set_of_ok hrow, set_of_ok hrow', if_pos rfl,
      if_pos rfl]
    exact ⟨rfl, rfl⟩
  | error e =>
    have hrow' := hview ▸ hrow
    rw [view_set_of_error hrow (Nat.le_refl now), view_set_of_error hrow' (Nat.le_refl now),
      set_of_error hrow, set_of_error hrow']
    exact ⟨rfl, hview⟩

end DependsOn

end Store

/-! ## The parts that use a store -/

variable {now : Instant}

/-- Carrying out a verdict depends on the row of its budget. -/
theorem Budget.dependsOn_carryOut (now : Instant) (key : String) (window : Value) (v : Verdict) :
    Store.DependsOn key now (carryOut now key window v) := by
  let admitted (written : Except Store.SetError Unit) : Except Fault Bool :=
    (written.map fun _ => true).mapError Fault.ofSet
  cases v with
  | opening => exact (Store.DependsOn.set key now (.int 1) window false).map admitted
  | counted n => exact (Store.DependsOn.set key now (.int (n + 1)) .null true).map admitted
  | refused => exact .pure key now (Except.ok false)

/-- A hit depends on the row of its budget. -/
theorem Budget.dependsOn_allow (now : Instant) (key : String) (window limit : Value) :
    Store.DependsOn key now (allow now key window limit) := by
  intro s s' hview
  obtain ⟨hstored, hread⟩ := Store.DependsOn.get key now s s' hview
  unfold allow hit
  dsimp only
  rw [hstored]
  cases verdict limit (s.get now key).1 with
  | error e => exact ⟨rfl, hread⟩
  | ok v => exact dependsOn_carryOut now key window v _ _ hread

/-- Appending an entry depends on the row of the log. -/
theorem Audit.Log.dependsOn_append (log : Log) (now : Instant) (entry : Entry) :
    Store.DependsOn log.key now (log.append now entry) := by
  intro s s' hview
  obtain ⟨hstored, hread⟩ := Store.DependsOn.get log.key now s s' hview
  unfold append
  dsimp only
  rw [hstored]
  cases log.extended entry (s.get now log.key).1 with
  | ok items =>
    exact (Store.DependsOn.set log.key now (.list items) (.int log.lifetime) false).map
      (fun written => written.mapError Fault.ofSet) _ _ hread
  | error e => exact ⟨rfl, hread⟩

/-- Reading the settings of a trigger with the definition's values depends on their row. -/
theorem Settings.dependsOn_resolve (now : Instant) (d : Definition) :
    Store.DependsOn (keyOf d.id) now (resolve now d) :=
  (Store.DependsOn.get (keyOf d.id) now).map fun stored =>
    ((ofStored d.id stored).mapError Fault.storage).map fun values => Dict.merge d.defaults values

/-- Whether a trigger is switched on depends on the row of its settings. -/
theorem Settings.dependsOn_isEnabled (now : Instant) (d : Definition) :
    Store.DependsOn (keyOf d.id) now (isEnabled now d) :=
  (dependsOn_resolve now d).map fun resolved => resolved.map fun values =>
    isOn ((Dict.find? "enabled" values).getD (.bool true))

end Concierge
