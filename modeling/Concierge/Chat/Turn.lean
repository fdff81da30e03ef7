import Concierge.Assistant
import Concierge.Chat.History
import Concierge.Chat.Prompt
import Concierge.Completion.Client
import Concierge.Digest

/-!
# Chat turns

A turn takes one message of a user to one answer of the model. The session has a budget of messages;
a client without a session gets one from its address and agent. The message and the history are
cleaned and sent to the model with the system prompt. The directives in the answer are executed, and
removed from what the user sees.
-/

namespace Concierge.Chat

/-- The session of a client that brings none. -/
def sessionFor (address agent : Value) : String :=
  let known (v : Value) : String := if v.truthy then v.word else "unknown"
  Digest.md5 (known address ++ known agent)

/-- The session of a context. -/
def sessionOf (c : Context) : Value :=
  if c.session.truthy then c.session else .text (sessionFor c.address c.agent)

/-- The key of the budget of a session. -/
def budgetKey (session : Value) : String := "chat_rate:" ++ session.word

/-- What is sent to the model, and what is known about the user. -/
structure Question where
  session : Value
  userMessage : String
  turns : List Message
  prompt : String
  deriving DecidableEq

/-- The messages to the model: the prompt, the turns and the user's message. -/
def Question.messages (q : Question) : List Message :=
  .ofTexts "system" q.prompt :: q.turns ++ [.ofTexts "user" q.userMessage]

/-- The context in which directives of an answer are executed. -/
def Question.context (q : Question) (c : Context) : Context :=
  { c with session := q.session, history := q.turns, userMessage := .text q.userMessage }

/-- What the user gets. -/
structure Reply where
  message : Value
  /-- The answer of the model, with its directives. -/
  original : Value
  reports : List Report := []
  timestamp : Timestamp
  deriving DecidableEq

/-- A reply as a dictionary. -/
def Reply.toDict (r : Reply) : Dict Value :=
  [("message", r.message), ("original_message", r.original),
   ("triggers_executed", .list (r.reports.map fun t => .dict t.toDict)),
   ("timestamp", .text r.timestamp.iso)]

variable {σ : Type}

/-- Counts a message against the budget of its session. -/
def charge (session : Value) : Assistant.Run σ Unit := do
  let rule := (← get).config.chatRule
  let admitted ← Assistant.act (Action.tryStore (budgetKey session) fun now s =>
    Budget.allow now (budgetKey session) rule.window rule.limit s)
  if !admitted then throw (.chat (.limited session rule.window))

/-- Prepares the question of a message. `items` is the content of the site. -/
def ask (message : Value) (history : History) (c : Context) (items : List ContentItem) :
    Assistant.Run σ Question := do
  let session := sessionOf c
  charge session
  let config := (← get).config
  let userMessage ← Assistant.ofExcept ((Clean.line message).mapError .number)
  if userMessage = "" then throw (.chat .noMessage)
  let turns ← Assistant.ofExcept ((cleanHistory history config.historyLimit).mapError Fault.ofClean)
  let items := items.take config.contextItems.toNat
  return ⟨session, userMessage, turns, systemPrompt config.siteName config.siteUrl items⟩

/-- Turns the content of an answer into a reply. Directives can only be looked for in a text. -/
def answer (q : Question) (c : Context) (content : Value) : Assistant.Run σ Reply := do
  let reports ← Assistant.dispatch content (q.context c)
  let message ← Assistant.strip content
  return {
    message := .text message
    original := content
    reports
    timestamp := .universal (← get).world.now }

/-- The model with a name behind a client of the completion service. `outcome` tells what each
attempt to reach it comes to. -/
def served (client : Completion.Client) (name : String) (outcome : Nat → Completion.Outcome)
    (messages : List Message) : Except Fault Value :=
  (client.chat (.list (messages.map fun m => .dict m.toDict)) [("model", .text name)] outcome).answer

/-- One turn from the message to the reply. `model` answers messages with a completion. -/
def handle (model : List Message → Except Fault Value) (message : Value) (history : History)
    (c : Context) (items : List ContentItem) : Assistant.Run σ Reply := do
  let q ← ask message history c items
  match model q.messages with
  | .error f => throw f
  | .ok completion =>
    match Completion.reply completion with
    | .error e => throw (.completion e)
    | .ok content => answer q c content

end Concierge.Chat
