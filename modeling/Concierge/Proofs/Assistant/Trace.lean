import Concierge.Proofs.Assistant.Invariant
import Concierge.Proofs.Audit.Items
import Concierge.Proofs.Executor.Calls

/-!
# What triggers and the log are told

Executions tell two things of themselves: a trigger is called, and an entry comes to the log. What holds of
all the calls and entries of an execution is told once, for any property of calls and of entries. Everything
else that can happen to the log, a hit of a budget included, can only remove entries from it.
-/

namespace Concierge

variable {σ : Type}

/-- From one world to another, triggers were called and entries were recorded with some properties only. -/
structure World.Adds (log : Audit.Log) (call : Params × Context → Prop) (entry : Value → Prop)
    (w w' : World (σ × List (Params × Context))) : Prop where
  calls : ∀ e ∈ w'.site.2, e ∈ w.site.2 ∨ call e
  items : ∀ item ∈ log.itemsAt w'.now w'.store, item ∈ log.itemsAt w.now w.store ∨ entry item

/-- A trigger does not write entries to the log itself. -/
def Trigger.AddsNoEntry (log : Audit.Log) (t : Trigger σ) : Prop :=
  ∀ params c w, ∀ item ∈ log.itemsAt (t.perform params c w).2.now (t.perform params c w).2.store,
    item ∈ log.itemsAt w.now w.store

/-- The calls of a trigger are recorded, and it does not write entries to the log itself. -/
def Trigger.IsRecorded (log : Audit.Log) (t : Trigger (σ × List (Params × Context))) : Prop :=
  ∃ t₀ : Trigger σ, t = t₀.recorded ∧ t₀.AddsNoEntry log

namespace World.Adds

variable {log : Audit.Log} {call : Params × Context → Prop} {entry : Value → Prop}
  {w w' : World (σ × List (Params × Context))}

/-- A world adds nothing to itself. -/
theorem refl (log : Audit.Log) (call : Params × Context → Prop) (entry : Value → Prop)
    (w : World (σ × List (Params × Context))) : w.Adds log call entry w :=
  ⟨fun _ h => .inl h, fun _ h => .inl h⟩

/-- A store that holds no further entries. -/
theorem withStore (h : w.Adds log call entry w') {store : Store}
    (hitems : (log.itemsAt w'.now store).Sublist (log.itemsAt w'.now w'.store)) :
    w.Adds log call entry { w' with store } :=
  ⟨h.calls, fun item hitem => h.items item (hitems.mem hitem)⟩

/-- Some time later. -/
theorem later (h : w.Adds log call entry w') {now : Instant} (hle : w'.now ≤ now) :
    w.Adds log call entry { w' with now } :=
  ⟨h.calls, fun item hitem => h.items item ((Audit.Log.itemsAt_later hle w'.store).mem hitem)⟩

/-- Looking up whether a trigger is switched on. -/
theorem isEnabled (h : w.Adds log call entry w') (d : Definition) :
    w.Adds log call entry { w' with store := (Settings.isEnabled w'.now d w'.store).2 } := by
  have hview : (Settings.isEnabled w'.now d w'.store).2.view w'.now = w'.store.view w'.now :=
    Store.view_get _ (Settings.keyOf d.id) _
  refine h.withStore ?_
  rw [Audit.Log.itemsAt_congr (congrFun hview log.key)]

/-- Counting a hit. -/
theorem allow (h : w.Adds log call entry w') (key : String) (window limit : Value) :
    w.Adds log call entry { w' with store := (Budget.allow w'.now key window limit w'.store).2 } :=
  h.withStore (log.itemsAt_allow ..)

/-- An entry is appended. -/
theorem append (h : w.Adds log call entry w') {e : Audit.Entry} (he : entry (.dict e.toDict)) :
    w.Adds log call entry { w' with store := (log.append w'.now e w'.store).2 } := by
  refine ⟨h.calls, fun item hitem => ?_⟩
  rcases List.mem_append.mp ((log.itemsAt_append w'.now e w'.store).mem hitem) with hold | hnew
  · exact h.items item hold
  · rw [List.mem_singleton.mp hnew]
    exact .inr he

/-- A recorded trigger is called, and writes no entries. -/
theorem perform (h : w.Adds log call entry w') {t : Trigger σ} (ht : t.AddsNoEntry log)
    {params : Params} {c : Context} (hcall : call (params, c)) :
    w.Adds log call entry (t.recorded.perform params c w').2 := by
  refine ⟨fun e he => ?_, fun item hitem => h.items item (ht params c _ item hitem)⟩
  rcases List.mem_append.mp he with hold | hnew
  · exact h.calls e hold
  · rw [List.mem_singleton.mp hnew]
    exact .inr hcall

end World.Adds

/-- An execution of a recorded trigger adds one call with clean arguments at most, in its own context, and
entries that record such arguments in this context. -/
theorem Executor.maintains_adds {x : Executor} {t : Trigger σ} {c : Context} (ht : t.AddsNoEntry x.log)
    {call : Params × Context → Prop} {entry : Value → Prop}
    (hcall : ∀ params, Params.AreClean params → call (params, c))
    (hentry : ∀ d params r word timestamp, Params.AreClean params →
      entry (.dict (Audit.Entry.record d c params r word timestamp).toDict))
    (w : World (σ × List (Params × Context))) :
    x.Maintains t.recorded c (w.Adds x.log call entry) where
  isEnabled := keeps_isEnabled fun _ hw _ => hw.isEnabled _
  isWithinBudget := keeps_isWithinBudget fun _ _ _ hw _ => hw.allow ..
  conclude _ _ _ hclean := keeps_conclude fun _ hw _ _ => hw.append (hentry _ _ _ _ _ hclean)
  perform _ hclean _ hw := hw.perform ht (hcall _ hclean)

end Concierge
