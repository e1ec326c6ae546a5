import AifHandoff.Lib.Text

/-!
The categories of runtime errors (`runtime/errors.ts`): from the HTTP status, or from the message as
a last resort.
-/

namespace AifHandoff.Runtime

inductive RuntimeErrorCategory where
  | rateLimit
  | auth
  | timeout
  | permission
  | stream
  | transport
  | modelNotFound
  | contextLength
  | contentFilter
  | unknown
  deriving DecidableEq

def httpStatusCategoryMap : List (Nat × RuntimeErrorCategory) :=
  [(401, .auth), (403, .auth), (429, .rateLimit), (408, .timeout), (504, .timeout),
    (413, .contextLength), (451, .contentFilter)]

def classifyByHttpStatus (status : Nat) : Option RuntimeErrorCategory :=
  match httpStatusCategoryMap.lookup status with
  | some category => some category
  | none => if 500 ≤ status ∧ status < 600 then some .transport else none

/-- `SHARED_FALLBACK_PATTERNS`. -/
def sharedFallbackPatterns : List (RuntimeErrorCategory × List String) :=
  [(.rateLimit, ["usage limit", "out of extra usage", "rate limit", "rate_limit",
      "too many requests", "insufficient_quota", "quota", "at capacity", "model is at capacity",
      "hit your limit", "limit reached", "limit exceeded", "out of credits", "credits"]),
    (.auth, ["authentication_error", "invalid authentication credentials",
      "failed to authenticate", "unauthorized", "invalid api key", "invalid_api_key",
      "invalid credentials", "invalid password", "forbidden", "not logged in"]),
    (.timeout, ["timed out", "timeout", "etimedout", "aborted", "query_start_timeout",
      "first_activity_timeout"]),
    (.permission, ["permission denied", "write permission", "blocked by permissions"]),
    (.stream, ["stream_error", "stream closed", "stream interrupted"]),
    (.transport, ["connection refused", "econnrefused", "econnreset", "network", "fetch failed"]),
    (.modelNotFound, ["model not found", "no endpoints found", "model_not_available",
      "no available model", "providermodelnotfounderror", "modelnotfounderror",
      "provider not found"]),
    (.contextLength, ["context_length_exceeded", "maximum context length",
      "exceed_context_size_error", "exceeds the available context size",
      "available context size", "n_prompt_tokens", "n_ctx"]),
    (.contentFilter, ["content_filter", "content_policy"])]

def classifyByMessageFallback (message : String) : RuntimeErrorCategory :=
  let lowered := Text.toLowerCase message
  match sharedFallbackPatterns.find? (·.2.any (Text.includes lowered)) with
  | some entry => entry.1
  | none => .unknown

/-- `classify` of the adapter: the status first, the message where it says nothing. -/
def classify (message : String) (httpStatus : Nat) : RuntimeErrorCategory :=
  (classifyByHttpStatus httpStatus).getD (classifyByMessageFallback message)

end AifHandoff.Runtime
