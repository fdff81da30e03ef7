import Concierge.World

/-!
# Budgets

A budget admits a number of hits within a window of time. The first hit under a key opens the window
and stores a count that expires with it; later hits raise the count and keep its expiry. A hit that
is refused is not counted.
-/

namespace Concierge.Budget

/-- The number of hits that a stored value records. -/
def hits : Value → Except NumberError Int
  | .null => .ok 0
  | v => v.toInteger

/-- What to do with a hit. -/
inductive Verdict where
  /-- The first hit of a window. -/
  | opening
  /-- One more hit than before. -/
  | counted (before : Int)
  | refused
  deriving DecidableEq, Repr

/-- Why hits cannot be counted. -/
inductive BudgetError where
  | number (error : NumberError)
  /-- The limit is nothing that a count can be compared to. -/
  | shape (error : ShapeError)
  /-- A count cannot be taken from a value of this kind. -/
  | noRemainder (kind : String)
  deriving DecidableEq, Repr

/-- A budget error as a fault. -/
def BudgetError.fault : BudgetError → Fault
  | number e => .number e
  | shape e => .shape e
  | noRemainder kind =>
    .raised
      { label := "TypeError"
        message := "unsupported operand type(s) for -: '" ++ kind ++ "' and 'int'" }

/-- The verdict on a hit when a value is stored. -/
def verdict (limit : Value) : Value → Except BudgetError Verdict
  | .null => .ok .opening
  | v => do
    let n ← v.toInteger.mapError .number
    match limit.amount? with
    | none => throw (.shape (.incomparable ">=" "int" limit.kind))
    | some most => return if most.le (.ratio n 1) then .refused else .counted n

/-- Carries out a verdict, and tells whether the hit is admitted. -/
def carryOut (now : Instant) (key : String) (window : Value) (v : Verdict) (s : Store) :
    Except Fault Bool × Store :=
  let admitted : Except Store.SetError Unit × Store → Except Fault Bool × Store := fun (e, s) =>
    ((e.map fun _ => true).mapError Fault.ofSet, s)
  match v with
  | .opening => admitted (s.set now key (.int 1) window)
  | .counted n => admitted (s.set now key (.int (n + 1)) .null true)
  | .refused => (.ok false, s)

/-- Counts a hit against a budget. The store is read at one reading of the clock and written at
another, which may be later. -/
def hit (readAt writeAt : Instant) (key : String) (window limit : Value) (s : Store) :
    Except Fault Bool × Store :=
  let (stored, s) := s.get readAt key
  match verdict limit stored with
  | .ok v => carryOut writeAt key window v s
  | .error e => (.error e.fault, s)

/-- Counts a hit against a budget at one instant. -/
def allow (now : Instant) (key : String) (window limit : Value) (s : Store) :
    Except Fault Bool × Store :=
  hit now now key window limit s

/-- What a limit leaves when some hits are taken from it. -/
def left (limit : Value) (used : Int) : Except BudgetError Value :=
  match limit with
  | .int n => .ok (.int (max (n - used) 0))
  | .bool b => .ok (.int (max ((if b then 1 else 0) - used) 0))
  | .double d =>
    match (Double.ofInt used).truncated? with
    | none => .error (.number .tooGreat)
    | some _ =>
      let rest := d.minus (Double.ofInt used)
      .ok (if rest.lt (Double.ofInt 0) then .int 0 else .double rest)
  | v => .error (.noRemainder v.kind)

/-- The hits that are left in the window of a key. -/
def remaining (now : Instant) (key : String) (limit : Value) (s : Store) :
    Except Fault Value × Store :=
  let (stored, s) := s.get now key
  let rest := (hits stored).mapError BudgetError.number >>= left limit
  (rest.mapError BudgetError.fault, s)

/-- Forgets the hits under a key. -/
def reset (now : Instant) (key : String) (s : Store) : Store := (s.delete now key).2

/-- The key of a trigger's budget for a session. -/
def keyOf (triggerId : String) (session : Value) : String :=
  "trigger_rate:" ++ triggerId ++ ":" ++ (if session.truthy then session.word else "unknown")

end Concierge.Budget
