import Concierge.Completion.Response
import Concierge.Value.Amount
import Concierge.Value.Record

/-!
# Repeated attempts

An attempt that fails with a transient error is repeated, after a wait that doubles from attempt to
attempt within two bounds, until the attempts are used up.
-/

namespace Concierge.Completion

/-- What sending a request comes to. -/
inductive Outcome where
  /-- The service could not be reached. -/
  | unreachable (reason : String)
  | response (r : Response)
  /-- Sending failed in another way. -/
  | failed (fault : Fault)
  deriving DecidableEq

/-- The completion or the fault that an outcome of sending to an address stands for. -/
def Outcome.settled (lib : Library) (address : Address) : Outcome → Except Fault Value
  | unreachable reason => .error (.completion (.unreachable reason))
  | response r =>
    if address.hasKind then check lib r else .error (.unknownKind address.text)
  | failed fault => .error fault

/-- Another attempt may succeed after the fault. -/
def isTransient : Fault → Bool
  | .completion e => e.kind.isTransient
  | _ => false

/-- How often and with what waits a request is repeated. -/
structure Policy where
  /-- The attempts end with the first one whose number is at least this. -/
  attempts : Value := .int 3
  /-- The least wait in seconds. -/
  least : Double := Double.ofInt 1
  /-- The bound of the doubled waits. -/
  most : Double := Double.ofInt 30
  deriving DecidableEq

namespace Policy

/-- The policy that a record describes. -/
def ofRecord (v : Value) : Except Fault Policy := do
  let least ← (v.fieldOr "backoff_min" (.int 1)).toDouble.mapError .number
  let most ← (v.fieldOr "backoff_max" (.int 30)).toDouble.mapError .number
  return { attempts := v.fieldOr "attempts" (.int 3), least, most }

/-- What the number of the last attempt has to reach: at least one. -/
def bound (p : Policy) : Except ShapeError Value :=
  match p.attempts.amount? with
  | none => .error (.incomparable ">" "int" p.attempts.kind)
  | some a => .ok (if a ≠ .nan ∧ !(Amount.ratio 1 1).le a then .int 1 else p.attempts)

/-- The attempts after which a policy without an end is no longer followed. -/
def mostTries : Nat := 1000

/-- The number of attempts. -/
def tries (p : Policy) : Except ShapeError Nat := do
  match (← p.bound).amount? with
  | some (.ratio num den) => return ((num + den - 1) / den).toNat
  | _ => return mostTries

/-- The seconds to wait after a number of attempts. A doubled wait that no bound keeps from growing
beyond all doubles is an error. -/
def wait (p : Policy) (attempt : Nat) : Except NumberError Double :=
  let doubled := Double.ofInt (Nat.pow 2 (attempt - 1))
  let least := Double.max (Double.ofInt 0) p.least
  if doubled.truncated?.isNone && p.most.truncated?.isNone && !p.most.lt (Double.ofInt 0) then
    if least.truncated?.isNone then .ok least else .error .tooGreat
  else .ok (Double.max least (Double.min doubled p.most))

end Policy

/-- A request to the service. -/
structure Request where
  address : Address
  /-- The header that proves the key, or the user that the address names. -/
  authorization : String
  payload : Dict Value
  deriving DecidableEq

/-- What became of a request. -/
structure Exchange where
  answer : Except Fault Value
  /-- What was sent, attempt by attempt. -/
  sent : List Request
  /-- The waits between the attempts. -/
  waits : List Double

/-- What one attempt comes to. -/
inductive Attempt where
  | ended (answer : Except Fault Value)
  /-- Another attempt may succeed, after a wait. -/
  | again (fault : Fault) (seconds : Double)

/-- What the attempt of a number comes to. The wait after it is computed even when it is the last. -/
def attempted (lib : Library) (p : Policy) (r : Request) (number : Nat) (o : Outcome) : Attempt :=
  match o.settled lib r.address with
  | .ok v => .ended (.ok v)
  | .error f =>
    if isTransient f then
      match p.wait number with
      | .ok seconds => .again f seconds
      | .error e => .ended (.error (.number e))
    else .ended (.error f)

/-- Sends a request up to `more + 1` times, after `done` attempts. `outcome` tells what each attempt
comes to, counted from one. -/
def exchangeFrom (lib : Library) (p : Policy) (outcome : Nat → Outcome) (r : Request) (done : Nat) :
    Nat → Exchange
  | 0 =>
    match attempted lib p r (done + 1) (outcome (done + 1)) with
    | .ended answer => ⟨answer, [r], []⟩
    | .again f _ => ⟨.error f, [r], []⟩
  | more + 1 =>
    match attempted lib p r (done + 1) (outcome (done + 1)) with
    | .ended answer => ⟨answer, [r], []⟩
    | .again _ seconds =>
      let rest := exchangeFrom lib p outcome r (done + 1) more
      ⟨rest.answer, r :: rest.sent, seconds :: rest.waits⟩

/-- Sends a request by a policy, so many times at most. -/
def exchange (lib : Library) (p : Policy) (tries : Nat) (outcome : Nat → Outcome) (r : Request) :
    Exchange :=
  exchangeFrom lib p outcome r 0 (tries - 1)

end Concierge.Completion
