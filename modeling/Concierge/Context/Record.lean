import Concierge.Context
import Concierge.Fault

/-!
# Contexts as records

The record of a context may leave out any part. Its history is handed over beside it, since turns of a
conversation may already be messages.
-/

namespace Concierge

/-- The capabilities that a value lists: its members. -/
def capabilitiesOf (v : Value) : Except Fault (List String) := do
  return sortedSet ((← v.members.mapError Fault.shape).map Value.word)

/-- The context that a record describes, given its history and the time that counts when it has none. -/
def Context.ofRecord (v : Value) (turns : List RawTurn) (now : Timestamp) : Except Fault Context := do
  (v.checkParts "ExecutionContext" []
    ["user_id", "session_id", "ip_address", "user_agent", "timestamp", "conversation_history",
     "user_message", "capabilities"]).mapError .record
  let timestamp ← match v.fieldOr "timestamp" .null with
    | .null => pure now
    | t => (Timestamp.ofValue t).mapError .timestamp
  let history ← (turns.mapM RawTurn.toMessage).mapError Fault.ofClean
  return {
    userId := v.fieldOr "user_id" (.int 0)
    session := v.fieldOr "session_id" (.text "")
    address := v.fieldOr "ip_address" (.text "")
    agent := v.fieldOr "user_agent" (.text "")
    timestamp
    history
    userMessage := v.fieldOr "user_message" (.text "")
    capabilities := ← capabilitiesOf (v.fieldOr "capabilities" (.list [])) }

end Concierge
