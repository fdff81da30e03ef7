import Concierge.Fault
import Concierge.Json.Reader
import Concierge.Text.Bytes

/-!
# Responses of the completion service

A response is judged by its status first: a rejected key, a rate limit, a failing service and a
refusal are errors. Otherwise the body has to be a JSON dictionary with choices, the first of which
holds the reply. How a body is read as a text that is no JSON is left to the library that receives it.
-/

namespace Concierge.Completion

/-- A response of the service. -/
structure Response where
  status : Int
  headers : Dict String := []
  body : List UInt8
  deriving DecidableEq, Repr

namespace Response

/-- The value of a header, whose name may be in letters of either case. Several values are joined. -/
def header? (r : Response) (name : String) : Option String :=
  match (r.headers.filter fun e => e.1.toLower == name).map Prod.snd with
  | [] => none
  | values => some (String.intercalate ", " values)

end Response

/-- What receives responses. -/
structure Library where
  /-- The body of a response as a text. The headers name a charset, in which the body may not be readable. -/
  text : Response → Except Raised String
  /-- How deeply the values of a body may be nested. -/
  mostNested : Nat

/-- The error that quotes the body of a response. A body that is no text is a fault of its own. -/
def Library.quoting (lib : Library) (r : Response) (error : String → CompletionError) : Fault :=
  match lib.text r with
  | .ok s => .completion (error s)
  | .error e => .raised e

/-- The part of a text that a message shows. -/
def shortened (s : String) : String := Text.taken 200 s

/-- Reads a body as JSON, in the coding that it seems to have. -/
def readBody (mostNested : Nat) (body : List UInt8) : Except Json.ReadError Value := do
  let text ← Json.wellFormed (Text.recoded? (body.map UInt8.toNat))
  Json.readWithin mostNested (String.ofList text)

/-- The fault that a body without choices is, which shows a part of the body. -/
def noChoices (v : Value) : Fault :=
  match v.shown with
  | .ok s => .completion (.noChoices (shortened s))
  | .error e => .number e

/-- The completion in a body. -/
def ofBody (mostNested : Nat) (body : List UInt8) : Except Fault Value :=
  match readBody mostNested body with
  | .error .malformed => .error (.completion .notJson)
  | .error (.tooNested kind) => .error (.tooNested kind)
  | .ok (.dict d) =>
    if Dict.has "choices" d then .ok (.dict d) else .error (noChoices (.dict d))
  | .ok v => .error (noChoices v)

/-- The fault that a response with a bad status stands for. -/
def statusFault? (lib : Library) (r : Response) : Option Fault :=
  if r.status = 401 ∨ r.status = 403 then some (.completion (.keyRejected r.status))
  else if r.status = 429 then
    some (lib.quoting r fun s =>
      .rateLimited ("Chat API rate limit hit: " ++ shortened s)
        ((r.header? "retry-after").bind Reading.double?))
  else if 500 ≤ r.status then some (.completion (.serverError r.status))
  else if 400 ≤ r.status then some (lib.quoting r fun s => .refusal r.status (shortened s))
  else none

/-- The completion in a response. -/
def check (lib : Library) (r : Response) : Except Fault Value :=
  match statusFault? lib r with
  | some f => .error f
  | none => ofBody lib.mostNested r.body

/-- The content of the message of the first choice, as it stands. -/
def firstContent (completion : Value) : Except ShapeError Value := do
  let choices ← completion.field "choices"
  let choice ← choices.first
  let message ← choice.field "message"
  message.entry "content"

/-- The reply in a completion; an empty one of any kind is the empty text. -/
def reply (completion : Value) : Except CompletionError Value :=
  match firstContent completion with
  | .ok v => .ok (if v.truthy then v else .text "")
  | .error e => .error (.noReply e)

/-- What a completion tells about its cost. -/
def usage (completion : Value) : Except ShapeError Value := completion.entry "usage"

end Concierge.Completion
