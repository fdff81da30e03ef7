import Concierge.Proofs.World.Action
import Concierge.Registry

/-!
# Registries that serve triggers

A new registry starts when it is asked for its triggers, and gives the same ones from then on. Looking
up a trigger only asks for the triggers, so what this comes to is settled by them, and the registry
serves them still.
-/

namespace Concierge.Registry

variable {σ α β : Type} {ts : List (Trigger σ)} {r : Registry σ}

/-! ## A new registry -/

/-- Triggers with new identifiers are registered in order when nobody listens. -/
theorem placeAll_eq {r : Registry σ} {ts : List (Trigger σ)}
    (hsilent : r.onRegistered = []) (hnew : ((r.triggers ++ ts).map Trigger.id).Nodup) :
    placeAll ts r = (.ok (), { r with triggers := r.triggers ++ ts }) := by
  induction ts generalizing r with
  | nil => rw [List.append_nil]; rfl
  | cons t ts ih =>
    have hid : r.hasId t.id = false := by
      rw [List.map_append, List.nodup_append] at hnew
      apply List.any_eq_false.mpr
      intro u hu heq
      exact hnew.2.2 _ (List.mem_map_of_mem hu) _ List.mem_cons_self (eq_of_beq heq)
    have hplace : place t r = (.ok true, { r with triggers := r.triggers ++ [t] }) := by
      show (if r.hasId t.id then (pure false : Use σ Bool) else do
        set { r with triggers := r.triggers ++ [t] }
        tell .registered t r.onRegistered
        return true) r = _
      rw [hid, if_neg Bool.false_ne_true, hsilent]
      rfl
    have hrest := @ih { r with triggers := r.triggers ++ [t] } hsilent (by simpa using hnew)
    simp only [List.append_assoc, List.singleton_append] at hrest
    rw [← hrest]
    exact bind_of_ok hplace

/-- A new registry starts when it is asked for its triggers, and gives the built-in ones. -/
theorem all_new {ts : List (Trigger σ)} (hnew : (ts.map Trigger.id).Nodup) :
    (all : Use σ _) { builtins := ts } =
      (.ok ts, { builtins := ts, isStarted := true, triggers := ts }) := by
  have hplaced := placeAll_eq (r := { builtins := ts, isStarted := true }) rfl hnew
  have hstart : start { builtins := ts } =
      (.ok (), { builtins := ts, isStarted := true, triggers := ts }) := by
    show (do placeAll ts; runAll [] : Use σ Unit) { builtins := ts, isStarted := true } = _
    exact bind_of_ok hplaced
  exact bind_of_ok hstart

/-- A new registry gives its built-in triggers. -/
theorem all_builtins {ts : List (Trigger σ)} (hnew : (ts.map Trigger.id).Nodup) :
    ((all : Use σ _) { builtins := ts }).1 = .ok ts := congrArg Prod.fst (all_new hnew)

/-- The registry gives the triggers when it is asked for them, now and later. -/
def Serves (r : Registry σ) (ts : List (Trigger σ)) : Prop :=
  ∃ r', (all : Use σ _) r = (.ok ts, r') ∧ (all : Use σ _) r' = (.ok ts, r')

/-- A new registry serves its built-in triggers. -/
theorem serves_builtins (hnew : (ts.map Trigger.id).Nodup) : Serves { builtins := ts } ts :=
  ⟨_, all_new hnew, rfl⟩

/-! ## Uses of a registry -/

/-- Where triggers are served, a use comes to an outcome, and the triggers are still served. -/
def Settles (ts : List (Trigger σ)) (use : Use σ α) (e : Except Fault α) : Prop :=
  ∀ r, Serves r ts → (use r).1 = e ∧ (use r).2.Serves ts

namespace Settles

/-- Asking for the triggers gives them. -/
theorem all : Settles ts (Registry.all : Use σ _) (.ok ts) := by
  rintro r ⟨r', hfirst, hagain⟩
  rw [hfirst]
  exact ⟨rfl, r', hagain, hagain⟩

/-- Giving a value. -/
theorem pure (a : α) : Settles ts (Pure.pure a : Use σ α) (.ok a) := fun _ h => ⟨rfl, h⟩

/-- Ending with a fault. -/
theorem throw (f : Fault) : Settles ts (MonadExcept.throw f : Use σ α) (.error f) :=
  fun _ h => ⟨rfl, h⟩

/-- One use after another. -/
theorem bind {first : Use σ α} {next : α → Use σ β} {a : α} {e : Except Fault β}
    (hfirst : Settles ts first (.ok a)) (hnext : Settles ts (next a) e) :
    Settles ts (first >>= next) e := by
  intro r hr
  obtain ⟨hgiven, hleft⟩ := hfirst r hr
  have hrun : first r = (.ok a, (first r).2) := Prod.ext hgiven rfl
  rw [bind_of_ok hrun]
  exact hnext _ hleft

end Settles

/-- Finding an identifier gives the first trigger with it. -/
theorem settles_find (ts : List (Trigger σ)) (id : String) :
    Settles ts (find? id) (.ok (ts.find? (·.id == id))) := Settles.all.bind (.pure _)

/-- Looking up an identifier gives the first trigger with it. -/
theorem settles_lookUp_of_found {id : String} {t : Trigger σ} (hfound : ts.find? (·.id == id) = some t) :
    Settles ts (lookUp id) (.ok t) := by
  have hfind := settles_find ts id
  rw [hfound] at hfind
  exact hfind.bind (.pure t)

/-- Looking up an identifier gives a trigger with it, or a fault. -/
theorem settles_lookUp (ts : List (Trigger σ)) (id : String) :
    ∃ e, Settles ts (lookUp id) e ∧ ∀ t, e = .ok t → t ∈ ts ∧ t.id = id := by
  cases hfound : ts.find? (·.id == id) with
  | none =>
    have hfind := settles_find ts id
    rw [hfound] at hfind
    exact ⟨_, hfind.bind (.throw _), fun t h => by cases h⟩
  | some t =>
    refine ⟨_, settles_lookUp_of_found hfound, ?_⟩
    rintro _ ⟨rfl⟩
    exact ⟨List.mem_of_find?_eq_some hfound, by simpa using List.find?_some hfound⟩

end Concierge.Registry
