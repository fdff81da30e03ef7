import Concierge.Audit.Entry

/-!
# Audit entries as records

The record of an entry says which trigger was fired, by whom, from where and when; how that ended may be
left out.
-/

namespace Concierge.Audit

/-- The entry that a record describes. -/
def Entry.ofRecord (v : Value) : Except Fault Entry := do
  (v.checkParts "AuditLogEntry"
    ["trigger_id", "trigger_name", "user_id", "session_id", "ip_address", "timestamp"]
    ["params", "success", "message", "outcome"]).mapError .record
  return {
    triggerId := v.fieldOr "trigger_id" .null
    triggerName := v.fieldOr "trigger_name" .null
    userId := v.fieldOr "user_id" .null
    session := v.fieldOr "session_id" .null
    address := v.fieldOr "ip_address" .null
    timestamp := ← (Timestamp.ofValue (v.fieldOr "timestamp" .null)).mapError .timestamp
    params := v.fieldOr "params" (.dict [])
    success := v.fieldOr "success" (.bool false)
    message := v.fieldOr "message" (.text "")
    outcome := v.fieldOr "outcome" (.text "executed") }

end Concierge.Audit
