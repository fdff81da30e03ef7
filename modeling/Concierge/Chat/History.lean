import Concierge.Clean.Block
import Concierge.Context
import Concierge.Text.Case
import Concierge.Value.Limit

/-!
# Conversation histories

A history is handed over by the client and is not trusted: only turns of the user and of the assistant
count, their texts are cleaned, and only the last of them are kept.
-/

namespace Concierge.Chat

/-- A history as it was handed over: a list of turns, or some other value. -/
inductive History where
  | turns (ts : List RawTurn)
  | value (v : Value)
  deriving DecidableEq

/-- The turns of a history. A value that counts as false has none, and otherwise its members count. -/
def History.items : History → Except ShapeError (List RawTurn)
  | turns ts => .ok ts
  | value v => if v.truthy then return (← v.members).map .value else .ok []

/-- The roles that a turn may have. -/
def roles : List String := ["user", "assistant"]

/-- The role and the content of a raw turn that has both. -/
def parts? : RawTurn → Option (Value × Value)
  | .message m => some (m.role, m.content)
  | .value (.dict d) => do
    let role ← Dict.find? "role" d
    let content ← Dict.find? "content" d
    return (role, content)
  | .value _ => none

/-- The role that a value names, in small letters. -/
def roleOf (v : Value) : Except NumberError String :=
  (Clean.line v).map fun line => String.ofList (Text.lowered line.toList)

/-- The cleaned turn of a raw turn, if it counts. The content of one that does not count is not looked
at. -/
def turn? (raw : RawTurn) : Except NumberError (Option Message) :=
  match parts? raw with
  | none => .ok none
  | some (role, content) => do
    let role ← roleOf role
    if roles.contains role then return some (.ofTexts role (← Clean.block content)) else return none

/-- The last members of a list, up to a limit. -/
def lastUpTo {α : Type} (limit : Int) (items : List α) : List α :=
  items.drop (items.length - limit.toNat)

/-- The turns of a history that count, up to a limit. All of the history is cleaned. -/
def cleanTurns (ts : List RawTurn) (limit : Int) : Except NumberError (List Message) := do
  return lastUpTo limit ((← ts.mapM turn?).filterMap id)

/-- The turns of a history that count, up to a limit that may be any value. None are kept up to a
number that is not positive. -/
def cleanTurnsUpTo (ts : List RawTurn) (limit : Value) : Except CleanError (List Message) := do
  let turns ← ((ts.mapM turn?).map (List.filterMap id)).mapError .number
  match limit.amount? with
  | none => throw (.shape (.incomparable "<=" limit.kind "int"))
  | some most =>
    if most.le (.ratio 0 1) then return []
    return lastUpTo ((← limit.limit?.mapError .shape).getD 0) turns

/-- Cleans a history. -/
def cleanHistory (h : History) (limit : Int) : Except CleanError (List Message) := do
  (cleanTurns (← h.items.mapError .shape) limit).mapError .number

/-- Cleans a history up to a limit that may be any value. -/
def cleanHistoryUpTo (h : History) (limit : Value) : Except CleanError (List Message) := do
  cleanTurnsUpTo (← h.items.mapError .shape) limit

end Concierge.Chat
