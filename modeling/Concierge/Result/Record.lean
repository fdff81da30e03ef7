import Concierge.Fault
import Concierge.Result

/-!
# Results as records

The record of a result may leave out any part, and the parts that are there may be of any kind. The
record of a report leaves out at most its data and its place.
-/

namespace Concierge

/-- The answer that the record of a result describes. -/
def Answer.ofRecord (v : Value) : Except RecordError Answer := do
  v.checkParts "ExecutionResult" [] ["success", "message", "data"]
  return .parts (v.fieldOr "success" (.bool true)) (v.fieldOr "message" (.text successMessage))
    (v.fieldOr "data" (.dict []))

/-- An answer that reports a failure with a message, and with data unless they count as false. -/
def Answer.failed (message data : Value) : Except ShapeError Answer := do
  let data ← if data.truthy then data.toDict else pure []
  return .parts (.bool false) message (.dict data)

/-- The report that a record describes. -/
def Report.ofRecord (v : Value) : Except RecordError Report := do
  v.checkParts "DispatchResult" ["trigger_id", "trigger_name", "success", "message"]
    ["data", "start"]
  return {
    triggerId := v.fieldOr "trigger_id" .null
    triggerName := v.fieldOr "trigger_name" .null
    success := v.fieldOr "success" .null
    message := v.fieldOr "message" .null
    data := v.fieldOr "data" (.dict [])
    start := v.integerAt "start" }

end Concierge
