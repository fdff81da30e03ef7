import Concierge.Audit.Log
import Concierge.Budget
import Concierge.Settings
import Concierge.Trigger.Basic

/-!
# The executor

Every execution of a trigger passes the same checks: the trigger is switched on, the context may fire
it, the budget of the session is not used up, and no required argument is missing. Then the arguments
are cleaned and the trigger acts. Every attempt but one on a trigger that is switched off is recorded
in the audit log. An ordinary fault becomes a failed result, whose cause only a verbose executor tells.
-/

namespace Concierge

/-- Parts of the executor that are out of order, with the faults that using them ends with. -/
structure Outage where
  settings : Option Fault := none
  log : Option Fault := none

/-- How triggers are executed. -/
structure Executor where
  log : Audit.Log := {}
  /-- Budgets are observed. -/
  isLimited : Bool := true
  /-- The budget of triggers that have none of their own. -/
  rule : RateRule := {}
  /-- Failed results tell their cause. -/
  isVerbose : Bool := false
  outage : Outage := {}

/-- What checking the arguments of a directive comes to. -/
inductive ParamCheck where
  | passed (params : Params)
  | missing (name : String)
  deriving DecidableEq

namespace ParamCheck

/-- The arguments that a value holds; what fails first without them is looking for one that is
required. -/
def arguments (required : List String) (v : Value) : Except ShapeError Params :=
  if required.isEmpty then v.entries else v.entries.mapError fun _ => .noEntries v.kind

/-- The wording of a failed check. -/
def message : ParamCheck → String
  | passed _ => ""
  | missing name => name ++ " is missing"

/-- The first required argument that is absent or blank. -/
def firstMissing (required : List String) (params : Params) : Option String :=
  required.find? fun name => ((Dict.find? name params).getD .null).isBlank

/-- Checks that the required arguments are there, and cleans all arguments. -/
def of (required : List String) (params : Params) : Except CleanError ParamCheck :=
  match firstMissing required params with
  | some name => .ok (missing name)
  | none => (Clean.arguments params).map passed

end ParamCheck

namespace Executor

variable {σ : Type}

/-- The result of an ordinary fault. -/
def faulty (x : Executor) (f : Fault) : Result :=
  Result.failure "an error occurred" (if x.isVerbose then [("error", .text f.detail)] else [])

/-- The trigger is switched on. -/
def isEnabled (x : Executor) (d : Definition) : Action σ Bool :=
  match x.outage.settings with
  | some f => throw f
  | none => Action.tryStore (Settings.keyOf d.id) fun now s => Settings.isEnabled now d s

/-- The context may fire the trigger. A rule that ends with an ordinary fault denies it. -/
def isPermitted (t : Trigger σ) (c : Context) : Except Fault Bool :=
  match t.permits c with
  | .ok v => .ok v.truthy
  | .error f => if f.isInterrupt then .error f else .ok false

/-- The budget that applies to a trigger. -/
def ruleFor (x : Executor) (d : Definition) : RateRule := d.budget.getD x.rule

/-- Counts a hit against the budget of the session. -/
def isWithinBudget (x : Executor) (d : Definition) (c : Context) : Action σ Bool :=
  if x.isLimited then
    let key := Budget.keyOf d.id c.session
    let rule := x.ruleFor d
    Action.tryStore key fun now s => Budget.allow now key rule.window rule.limit s
  else pure true

/-- Appends an entry to the log. -/
def append (x : Executor) (entry : Audit.Entry) : Action σ Unit :=
  match x.outage.log with
  | some f => throw f
  | none => Action.tryStore x.log.key fun now s => x.log.append now entry s

/-- Records an attempt, as far as the log accepts it, and gives its result. -/
def conclude (x : Executor) (d : Definition) (c : Context) (params : Params) (r : Result)
    (outcome : Audit.Outcome) : Action σ Result := do
  let w ← get
  let entry := Audit.Entry.record d c params r outcome.word (Timestamp.universal w.now)
  (x.append entry).recover fun _ => pure ()
  return r

/-- The arguments after cleaning. -/
def cleaned (params : Params) : Action σ Params :=
  Action.ofExcept ((Clean.arguments params).mapError Fault.ofClean)

/-- Lets a trigger act, and records how that ended. An answer that stands for no result is a fault, which
is not recorded. -/
def fire (x : Executor) (t : Trigger σ) (params : Params) (c : Context) : Action σ Result := do
  match ← (t.perform params c).outcome with
  | .error f => x.conclude t.definition c params (x.faulty f) .error
  | .ok answer =>
    let r ← Action.ofExcept (answer.normalized.mapError .number)
    x.conclude t.definition c params r (if r.success then .executed else .failed)

/-- Checks the arguments and lets the trigger act. -/
def checkAndFire (x : Executor) (t : Trigger σ) (params : Params) (c : Context) :
    Action σ Result := do
  match ParamCheck.firstMissing t.definition.required params with
  | some name =>
    let params ← cleaned params
    x.conclude t.definition c params (.failure (ParamCheck.missing name).message) .invalid
  | none =>
    let params ← cleaned params
    x.fire t params c

/-- Passes a directive through all checks. Its arguments count only when it comes to them. -/
def attempt (x : Executor) (t : Trigger σ) (params : Value) (c : Context) : Action σ Result := do
  if !(← x.isEnabled t.definition) then
    return .failure (t.definition.name ++ " is disabled")
  if !(← Action.ofExcept (isPermitted t c)) then
    return ← x.conclude t.definition c [] (.failure "permission denied") .denied
  if !(← x.isWithinBudget t.definition c) then
    return ← x.conclude t.definition c [] (.failure "rate limit exceeded") .rateLimited
  let params ← Action.ofExcept
    ((ParamCheck.arguments t.definition.required params).mapError Fault.shape)
  x.checkAndFire t params c

/-- Executes a directive. Only an interrupt is a fault of the action. -/
def execute (x : Executor) (t : Trigger σ) (params : Value) (c : Context) : Action σ Result :=
  (x.attempt t params c).recover fun f => pure (x.faulty f)

end Executor

end Concierge
