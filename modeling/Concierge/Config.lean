import Concierge.Config.Misfit
import Concierge.Config.Numeral
import Concierge.Directive
import Concierge.Store.Place

/-!
# Configuration

The configuration of an assistant: where its store is, the bounds of the audit log, of budgets and of
the conversation, and what the model is told about the site. Each field is read from a value or from
the text of an environment variable by the rule of its kind; a value that does not fit is a problem,
and all problems are reported together.
-/

namespace Concierge

/-- How an assistant is set up. -/
structure Config where
  path : String := ":memory:"
  /-- The address of the store, which counts before the path. -/
  address : Option String := none
  isVerbose : Bool := false
  auditCapacity : Int := 50
  auditLifetime : Int := 86400
  triggerRule : RateRule := {}
  chatRule : RateRule := {}
  historyLimit : Int := 10
  contextItems : Int := 50
  siteName : String := "My Site"
  siteUrl : String := "http://localhost"
  model : String := "gpt-4o-mini"
  order : DispatchOrder := .registry
  deriving DecidableEq

namespace Config

/-- Reads the text of an integer. -/
def readInteger (s : String) : Except Misfit Int :=
  match Numeral.read s with
  | .ok n => .ok n
  | .error .unreadable => .error .notReadableInteger
  | .error .tooLong => .error .hugeInteger

/-- A whole double strictly within 64 bits as an integer. -/
def integerOfDouble (d : Double) : Except Misfit Int :=
  match d.truncated? with
  | none => .error .notFinite
  | some n =>
    if !d.isIntegral then .error .fractional
    else if Column.leastInteger < n ∧ n ≤ Column.greatestInteger then .ok n
    else .error .hugeInteger

/-- A value as an integer. -/
def integer : Value → Except Misfit Int
  | .int n => .ok n
  | .bool b => .ok (if b then 1 else 0)
  | .double d => integerOfDouble d
  | .text s => readInteger s
  | _ => .error .noInteger

/-- A value as an integer that is at least as great as another. -/
def atLeast (least : Int) (v : Value) : Except Misfit Int := do
  let n ← integer v
  if n < least then throw (.below least)
  return n

/-- The words for true. -/
def trueWords : List String := ["1", "on", "t", "true", "y", "yes"]

/-- The words for false. -/
def falseWords : List String := ["0", "off", "f", "false", "n", "no"]

/-- A switch of a number; one that does not fit 64 bits is no switch at all. -/
def switchOfInteger (n : Int) : Except Misfit Bool :=
  if n = 0 then .ok false
  else if n = 1 then .ok true
  else if Column.leastInteger ≤ n ∧ n ≤ Column.greatestInteger then .error .notReadableSwitch
  else .error .noSwitch

/-- A value as a switch. Words are read in letters of either case. -/
def switch : Value → Except Misfit Bool
  | .bool b => .ok b
  | .int n => switchOfInteger n
  | .double d =>
    match integerOfDouble d with
    | .ok n => switchOfInteger n
    | .error _ => .error .noSwitch
  | .text s =>
    let word := s.toLower
    if trueWords.contains word then .ok true
    else if falseWords.contains word then .ok false
    else .error .notReadableSwitch
  | _ => .error .noSwitch

/-- A value as a text. -/
def text : Value → Except Misfit String
  | .text s => .ok s
  | _ => .error .noText

/-- A value as a text that may be absent. -/
def optionalText : Value → Except Misfit (Option String)
  | .null => .ok none
  | v => some <$> text v

/-- A value as an order of directives. -/
def dispatchOrder : Value → Except Misfit DispatchOrder
  | .text s =>
    match DispatchOrder.ofName? s with
    | some order => .ok order
    | none => .error (.noChoice ["registry", "position"])
  | _ => .error (.noChoice ["registry", "position"])

/-- A field: its name, and how a value is put into it. -/
structure Field where
  name : String
  put : Config → Value → Except Misfit Config

/-- All fields. -/
def fields : List Field :=
  [⟨"db_path", fun c v => do return { c with path := ← text v }⟩,
   ⟨"db_url", fun c v => do return { c with address := ← optionalText v }⟩,
   ⟨"verbose", fun c v => do return { c with isVerbose := ← switch v }⟩,
   ⟨"audit_capacity", fun c v => do return { c with auditCapacity := ← atLeast 1 v }⟩,
   ⟨"audit_ttl_seconds", fun c v => do return { c with auditLifetime := ← atLeast 1 v }⟩,
   ⟨"trigger_rate_window_seconds", fun c v => do
      return { c with triggerRule := { c.triggerRule with window := .int (← atLeast 1 v) } }⟩,
   ⟨"trigger_rate_max", fun c v => do
      return { c with triggerRule := { c.triggerRule with limit := .int (← atLeast 1 v) } }⟩,
   ⟨"chat_rate_window_seconds", fun c v => do
      return { c with chatRule := { c.chatRule with window := .int (← atLeast 1 v) } }⟩,
   ⟨"chat_rate_max", fun c v => do
      return { c with chatRule := { c.chatRule with limit := .int (← atLeast 1 v) } }⟩,
   ⟨"history_limit", fun c v => do return { c with historyLimit := ← atLeast 0 v }⟩,
   ⟨"max_context_posts", fun c v => do return { c with contextItems := ← atLeast 1 v }⟩,
   ⟨"site_name", fun c v => do return { c with siteName := ← text v }⟩,
   ⟨"site_url", fun c v => do return { c with siteUrl := ← text v }⟩,
   ⟨"model", fun c v => do return { c with model := ← text v }⟩,
   ⟨"dispatch_order", fun c v => do return { c with order := ← dispatchOrder v }⟩]

/-- Puts the values that are given into the fields of a list, and collects the problems. -/
def fillIn (values : Dict Value) : List Field → Config × List Problem → Config × List Problem
  | [], done => done
  | f :: rest, (c, problems) =>
    match Dict.find? f.name values with
    | none => fillIn values rest (c, problems)
    | some v =>
      match f.put c v with
      | .ok c => fillIn values rest (c, problems)
      | .error misfit => fillIn values rest (c, problems ++ [⟨f.name, misfit, v⟩])

/-- The configuration with the given values; names that are no fields do not count. -/
def ofDict (values : Dict Value) : Except (List Problem) Config :=
  match fillIn values fields ({}, []) with
  | (c, []) => .ok c
  | (_, problems) => .error problems

/-- The environment variable of a field. -/
def variableOf (name : String) : String := "SMARTASSIST_" ++ name.toUpper

/-- The values that environment variables give; an empty one gives none. -/
def environmentValues (environment : Dict String) : Dict Value :=
  fields.filterMap fun f =>
    match Dict.find? (variableOf f.name) environment with
    | some s => if s = "" then none else some (f.name, .text s)
    | none => none

/-- The configuration of an environment, where the given values count before it. -/
def ofEnvironment (environment : Dict String) (overrides : Dict Value) :
    Except (List Problem) Config :=
  ofDict (Dict.merge (environmentValues environment) overrides)

/-- The values of all fields. -/
def toDict (c : Config) : Dict Value :=
  [("db_path", .text c.path), ("db_url", (c.address.map Value.text).getD .null),
   ("verbose", .bool c.isVerbose), ("audit_capacity", .int c.auditCapacity),
   ("audit_ttl_seconds", .int c.auditLifetime),
   ("trigger_rate_window_seconds", c.triggerRule.window),
   ("trigger_rate_max", c.triggerRule.limit),
   ("chat_rate_window_seconds", c.chatRule.window),
   ("chat_rate_max", c.chatRule.limit), ("history_limit", .int c.historyLimit),
   ("max_context_posts", .int c.contextItems), ("site_name", .text c.siteName),
   ("site_url", .text c.siteUrl), ("model", .text c.model), ("dispatch_order", .text c.order.name)]

/-- Where the store is kept: at the address, if there is one, and else at the path. -/
def place (c : Config) : Except PlaceError Place :=
  match c.address with
  | some address => Place.ofAddress address
  | none => .ok (Place.ofPath c.path)

end Config

end Concierge
