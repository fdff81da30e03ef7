import Concierge.Clean.Url
import Concierge.Time.Timestamp

/-!
# Contexts

A context says on whose behalf a directive is executed: the user and the session, the client's
address and agent, the conversation so far, and the capabilities that the application grants.
-/

namespace Concierge

/-- One turn of a conversation. A message that is handed over may hold values of any kind. -/
structure Message where
  role : Value
  content : Value
  deriving DecidableEq

/-- A turn with a role and a content that are texts. -/
def Message.ofTexts (role content : String) : Message := ⟨.text role, .text content⟩

/-- A turn as a dictionary. -/
def Message.toDict (m : Message) : Dict Value := [("role", m.role), ("content", m.content)]

/-- A turn as it was handed over: already a message, or a value still to be looked into. -/
inductive RawTurn where
  | message (m : Message)
  | value (v : Value)
  deriving DecidableEq

/-- A raw turn as a message; a value has to have a role and a content. -/
def RawTurn.toMessage : RawTurn → Except CleanError Message
  | message m => .ok m
  | value v => do
    let role ← (v.field "role").mapError .shape
    let role ← role.shown.mapError .number
    let content ← (v.field "content").mapError .shape
    return .ofTexts role (← content.shown.mapError .number)

/-- Inserts a text into a strictly increasing list of texts. -/
def insertSorted (s : String) : List String → List String
  | [] => [s]
  | t :: ts => if s < t then s :: t :: ts else if s = t then t :: ts else t :: insertSorted s ts

/-- The distinct texts of a list, in increasing order. -/
def sortedSet (ss : List String) : List String := ss.foldr insertSorted []

/-- On whose behalf, and within which session, a directive is executed. What the application tells of
the user and of the client may be of any kind. -/
structure Context where
  /-- Zero is the anonymous user. -/
  userId : Value := .int 0
  session : Value := .text ""
  address : Value := .text ""
  agent : Value := .text ""
  timestamp : Timestamp
  history : List Message := []
  userMessage : Value := .text ""
  /-- Distinct and in increasing order. -/
  capabilities : List String := []
  deriving DecidableEq

namespace Context

/-- The user is not known. -/
def isAnonymous (c : Context) : Bool := c.userId.isSameKey (.int 0)

/-- The part of a context that identifies the actor. -/
def actor (c : Context) : Dict Value :=
  [("user_id", c.userId), ("session_id", c.session), ("ip_address", c.address)]

/-- The application grants a capability. -/
def grants (c : Context) (capability : String) : Bool := c.capabilities.contains capability

end Context

end Concierge
