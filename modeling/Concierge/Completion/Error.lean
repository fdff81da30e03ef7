import Concierge.Value.Access

/-!
# Errors of the completion service

Every way in which a completion can fail: the client has no key, the service rejects the key, limits
the rate, is unavailable or refuses the request, or its answer is no completion. Only a rate limit
and an unavailable service are worth another attempt.
-/

namespace Concierge

/-- The kinds of completion errors. -/
inductive CompletionKind where
  | unconfigured
  | unauthorized
  | limited
  | unavailable
  | refused
  | malformed
  deriving DecidableEq, Repr

/-- A failed completion. -/
structure CompletionError where
  kind : CompletionKind
  message : String
  /-- How many seconds the service asks to wait. -/
  retryAfter : Option Double := none
  /-- The status of a refusal. -/
  status : Option Int := none
  deriving DecidableEq

namespace CompletionKind

/-- The class that errors of a kind are reported under. -/
def label : CompletionKind → String
  | unconfigured => "LLMConfigError"
  | unauthorized => "LLMAuthError"
  | limited => "LLMRateLimitError"
  | unavailable => "LLMUnavailableError"
  | refused => "LLMRequestError"
  | malformed => "LLMResponseError"

/-- Another attempt may succeed. -/
def isTransient : CompletionKind → Bool
  | limited | unavailable => true
  | _ => false

end CompletionKind

namespace CompletionError

/-- The environment variable that holds the key. -/
def keyVariable : String := "SMARTASSIST_OPENAI_API_KEY"

/-- No key is given or configured. -/
def noKey : CompletionError := ⟨.unconfigured, "No API key: pass api_key= or set " ++ keyVariable, none, none⟩

/-- The service rejects the key. -/
def keyRejected (status : Int) : CompletionError :=
  ⟨.unauthorized, "Chat API rejected the API key (HTTP " ++ toString status ++ ")", none, none⟩

/-- The service limits the rate, and may say how long to wait. -/
def rateLimited (message : String) (retryAfter : Option Double) : CompletionError :=
  let suffix := match retryAfter with
    | some d => " (retry after " ++ d.text ++ "s)"
    | none => ""
  ⟨.limited, message ++ suffix, retryAfter, none⟩

/-- The service fails. -/
def serverError (status : Int) : CompletionError :=
  ⟨.unavailable, "Chat API server error (HTTP " ++ toString status ++ ")", none, none⟩

/-- The service cannot be reached. -/
def unreachable (reason : String) : CompletionError :=
  ⟨.unavailable, "Chat API unreachable: " ++ reason, none, none⟩

/-- The service refuses the request. -/
def refusal (status : Int) (body : String) : CompletionError :=
  ⟨.refused, "Chat API refused the request (HTTP " ++ toString status ++ "): " ++ body, none,
    some status⟩

/-- The answer is no JSON. -/
def notJson : CompletionError := ⟨.malformed, "Chat API returned a non-JSON body", none, none⟩

/-- The answer has no choices. -/
def noChoices (shown : String) : CompletionError :=
  ⟨.malformed, "Completion has no 'choices': " ++ shown, none, none⟩

/-- The first choice has no message. -/
def noReply (error : ShapeError) : CompletionError :=
  ⟨.malformed, "Completion has no reply message: " ++ error.literal, none, none⟩

end CompletionError

end Concierge
