import Concierge.Completion.Retry
import Concierge.Json.Writer

/-!
# The client of the completion service

A client has a key, the address of the service, a model and the parameters that it sends unless a
request has its own. What is not given comes from the environment.
-/

namespace Concierge.Completion

/-- What a client is made of; what is absent comes from the environment or has a default. -/
structure Options where
  key : Option String := none
  address : Option String := none
  model : Value := .text "gpt-4o-mini"
  attempts : Value := .int 3
  /-- Null sends no temperature. -/
  temperature : Value := .double (Double.ofRatio false 7 10)
  /-- Null sends no bound of tokens. -/
  maxTokens : Value := .int 500

/-- The address of the service when no other one is given. -/
def defaultAddress : String := "https://api.openai.com/v1"

/-- The environment variable that holds the address. -/
def addressVariable : String := "SMARTASSIST_OPENAI_BASE_URL"

/-- A client that can send requests. -/
structure Client where
  key : String
  /-- The address of the service. -/
  address : Address
  model : Value
  temperature : Value
  maxTokens : Value
  policy : Policy
  /-- What receives the responses. -/
  library : Library

/-- The first of some texts that is there and not empty. -/
def firstGiven (texts : List (Option String)) : Option String :=
  texts.findSome? fun t => t.filter (· != "")

/-- The header that proves a key. -/
def keyHeader (key : String) : String := "Bearer " ++ key

/-- The client with some options in an environment. There is none without a key, without a good
address, or with a key that a header cannot hold. -/
def Client.make (library : Library) (options : Options) (environment : Dict String) :
    Except Fault Client :=
  match firstGiven [options.key, Dict.find? CompletionError.keyVariable environment] with
  | none => .error (.completion .noKey)
  | some key => do
    let root := firstGiven [options.address, Dict.find? addressVariable environment]
    let address ← (Address.ofService (root.getD defaultAddress)).mapError .address
    (Text.checkAscii (keyHeader key)).mapError .ascii
    return {
      key
      address
      model := options.model
      temperature := options.temperature
      maxTokens := options.maxTokens
      policy := { attempts := options.attempts }
      library }

namespace Client

/-- Where requests are sent. -/
def endpoint (c : Client) : Except Address.AddressError Address := c.address.under "chat/completions"

/-- The header of requests to an address: it proves the key, unless the address names a user. -/
def authorization (c : Client) (address : Address) : String := address.proof?.getD (keyHeader c.key)

/-- The value of a parameter that is sent: that of the request, or else that of the client. -/
def parameter (requested fallback : Value) : Value :=
  match requested with
  | .null => fallback
  | v => v

/-- A parameter as an entry, unless it is null. -/
def entry (name : String) : Value → Dict Value
  | .null => []
  | v => [(name, v)]

/-- The parameters of a request that have their own place. -/
def namedParameters : List String := ["model", "temperature", "max_tokens"]

/-- The body of a request with some parameters. -/
def payload (c : Client) (messages : Value) (parameters : Dict Value) : Dict Value :=
  let given (name : String) : Value := (Dict.find? name parameters).getD .null
  let model := if (given "model").truthy then given "model" else c.model
  let base := [("model", model), ("messages", messages)] ++
    entry "temperature" (parameter (given "temperature") c.temperature) ++
    entry "max_tokens" (parameter (given "max_tokens") c.maxTokens)
  Dict.merge base (parameters.filter fun e => !namedParameters.contains e.1)

/-- The request for an answer to some messages, which has to be one that can be written. -/
def request (c : Client) (messages : Value) (parameters : Dict Value) : Except Fault Request := do
  let address ← c.endpoint.mapError .address
  let payload := c.payload messages parameters
  let _ ← (Json.write Json.strict (.dict payload)).mapError Fault.number
  return ⟨address, c.authorization address, payload⟩

/-- Asks the service for an answer to some messages. -/
def chat (c : Client) (messages : Value) (parameters : Dict Value) (outcome : Nat → Outcome) :
    Exchange :=
  match c.policy.tries, c.request messages parameters with
  | .ok tries, .ok r => exchange c.library c.policy tries outcome r
  | .error e, _ => ⟨.error (.shape e), [], []⟩
  | .ok _, .error f => ⟨.error f, [], []⟩

end Client

end Concierge.Completion
