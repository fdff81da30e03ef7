import Concierge.Pattern.Command
import Concierge.Proofs.Executor.Execute

/-!
# The calls of a trigger

A trigger whose calls are recorded shows how often an execution calls it, and with which arguments. The
budget and the log are read off the store.
-/

namespace Concierge

/-- A trigger on sites with a list of calls, to which every call of it is added. -/
def Trigger.recorded {σ : Type} (t : Trigger σ) : Trigger (σ × List (Params × Context)) where
  definition := t.definition
  permits := t.permits
  perform params c := fun w =>
    let (answer, left) := t.perform params c ⟨w.now, w.store, w.site.1, w.isLost⟩
    (answer, ⟨left.now, left.store, (left.site, w.site.2 ++ [(params, c)]), left.isLost⟩)

namespace Executor

variable {σ : Type} {x : Executor} {t : Trigger σ} {c : Context} {params cleaned : Params}

/-- A trigger with one argument and a budget, which anyone may fire and which answers nothing. -/
def probe (limit : Int) : Trigger Unit where
  definition :=
    { id := "probe", name := "Probe", pattern := Pattern.command "PROBE" 0, required := ["target"]
      description := "", settings := [], budget := some ⟨.int 60, .int limit⟩, arity := rfl }
  permits _ := .ok (.bool true)
  perform _ _ := return .value .null

/-- The context of an anonymous user. -/
def anonymous : Context := { timestamp := Timestamp.universal 0 }

/-- What an executor reads when a trigger that admits some hits is fired in a world without records. -/
def freshReadings (limit : Int) (hlimit : 1 ≤ limit) :
    Readings {} (probe limit).recorded.definition anonymous
      (⟨0, {}, ((), []), false⟩ : World (Unit × List (Params × Context))) where
  settings := []
  window := 60
  limit
  count := 0
  items := []
  isPresent := rfl
  noSettingsOutage := rfl
  noLogOutage := rfl
  settings_eq := rfl
  items_eq := rfl
  lasts := ⟨_, rfl⟩
  rule_eq _ := rfl
  one_le_window := by decide
  one_le_limit := hlimit
  count_eq _ := rfl
  closes _ := ⟨_, rfl⟩
  rises _ _ := rfl
  apart _ := show "trigger_logs" ≠ Budget.keyOf "probe" (.text "") by decide

end Executor

end Concierge
