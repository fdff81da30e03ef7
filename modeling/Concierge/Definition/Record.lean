import Concierge.Fault
import Concierge.Text.Title

/-!
# Definitions as records

The record of a definition has an identifier and a pattern, and may have a name, the names of the
arguments, a description, settings and a budget. The name is the titled identifier unless it is given.
-/

namespace Concierge

/-- The setting that a record describes. -/
def SettingField.ofRecord (v : Value) : Except RecordError SettingField := do
  v.checkParts "SettingField" ["name"] ["type", "label", "default", "description"]
  return {
    name := v.textAt "name"
    kind := v.textAt "type" "text"
    label := v.textAt "label"
    fallback := v.fieldOr "default" .null
    description := v.textAt "description" }

/-- The budget that a record describes; a value of another kind describes none. -/
def RateRule.ofRecord? : Value → Except RecordError (Option RateRule)
  | .dict entries => do
    let v := Value.dict entries
    v.checkParts "RateLimitRule" [] ["window_seconds", "max_count"]
    return some ⟨v.fieldOr "window_seconds" (.int 60), v.fieldOr "max_count" (.int 10)⟩
  | _ => .ok none

/-- The draft that a record describes. -/
def Draft.ofRecord (v : Value) : Except RecordError Draft := do
  let settings ← (v.itemsAt "settings_schema").mapM SettingField.ofRecord
  return {
    id := v.textAt "id"
    name := v.textAt "name" (Text.titled (v.textAt "id"))
    source := v.textAt "pattern"
    required := v.textsAt "params"
    description := v.textAt "description"
    settings
    budget := ← RateRule.ofRecord? (v.fieldOr "rate_limit" .null) }

/-- The definition that a record describes. -/
def Definition.ofRecord (v : Value) : Except Fault Definition := do
  let draft ← (Draft.ofRecord v).mapError .record
  draft.define.mapError .definition

end Concierge
