import Concierge.Context
import Concierge.Fault
import Concierge.Result

/-!
# Audit entries

An entry records one attempt to execute a directive. It is stored as a dictionary and read back from
one; an entry that was stored by someone else may lack parts, and its texts may be of any kind.
-/

namespace Concierge.Audit

/-- How an attempt ended. -/
inductive Outcome where
  | executed
  | failed
  | error
  | invalid
  | denied
  | rateLimited
  deriving DecidableEq, Repr

/-- The word for an outcome. -/
def Outcome.word : Outcome → String
  | executed => "executed"
  | failed => "failed"
  | error => "error"
  | invalid => "invalid"
  | denied => "denied"
  | rateLimited => "rate_limited"

/-- The record of one attempt. -/
structure Entry where
  triggerId : Value
  triggerName : Value
  userId : Value
  session : Value
  address : Value
  timestamp : Timestamp
  params : Value := .dict []
  success : Value := .bool false
  message : Value := .text ""
  outcome : Value := .text "executed"
  deriving DecidableEq

namespace Entry

/-- The entry for an attempt that ended with some success and message. -/
def ofParts (d : Definition) (c : Context) (params : Params) (success message outcome : Value)
    (timestamp : Timestamp) : Entry where
  triggerId := .text d.id
  triggerName := .text d.name
  userId := c.userId
  session := c.session
  address := c.address
  timestamp := timestamp
  params := .dict params
  success := success
  message := message
  outcome := outcome

/-- The entry for a result. -/
def record (d : Definition) (c : Context) (params : Params) (r : Result) (outcome : String)
    (timestamp : Timestamp) : Entry :=
  ofParts d c params (.bool r.success) (.text r.message) (.text outcome) timestamp

/-- The attempt was denied. -/
def isDenial (e : Entry) : Bool := e.outcome == .text Outcome.denied.word

/-- The dictionary that an entry is stored as. -/
def toDict (e : Entry) : Dict Value :=
  [("trigger_id", e.triggerId), ("trigger_name", e.triggerName), ("user_id", e.userId),
   ("session_id", e.session), ("ip_address", e.address), ("timestamp", .text e.timestamp.iso),
   ("params", e.params), ("success", e.success), ("message", e.message), ("outcome", e.outcome)]

/-- Reads an entry. Only the identifier and the timestamp have to be there. -/
def ofValue (v : Value) : Except Fault Entry := do
  let triggerId ← (v.field "trigger_id").mapError .shape
  let userId ← (v.fieldOr "user_id" (.int 0)).toInteger.mapError .number
  let stored ← (v.field "timestamp").mapError .shape
  let timestamp ← (Timestamp.ofValue stored).mapError .timestamp
  let params := v.fieldOr "params" .null
  let params ← if params.truthy then params.toDict.mapError .shape else pure []
  return {
    triggerId
    triggerName := v.fieldOr "trigger_name" (.text "")
    userId := .int userId
    session := v.fieldOr "session_id" (.text "")
    address := v.fieldOr "ip_address" (.text "")
    timestamp
    params := .dict params
    success := .bool (v.fieldOr "success" (.bool false)).truthy
    message := v.fieldOr "message" (.text "")
    outcome := v.fieldOr "outcome" (.text "executed") }

/-- An entry that was read back from its dictionary is the same: its user and its success may be other
values that are the same numbers. -/
def isSame (a b : Entry) : Bool :=
  a.userId.isSameKey b.userId && a.success.isSameKey b.success &&
    a == { b with userId := a.userId, success := a.success }

end Entry

end Concierge.Audit
