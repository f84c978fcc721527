import AuthzClient.Retry.After
import AuthzClient.Session
import AuthzClient.Settings.Options
import AuthzClient.Stream.Delivery

/-!
One call: its attempts until one succeeds, one fails for good, or no retries are left. The authorization is asked for
anew before each attempt. A failed attempt is remembered in the failure of the call, and the call is measured when it
ends, not when it cannot be authorized or written.
-/

namespace AuthzClient

open Http

/-- The credentials on whose behalf calls are made, as they are named in errors and measurements. -/
structure Identity where
  clientId : Option String
  audience : Option String
  deriving DecidableEq, Repr

def Identity.none : Identity := ⟨.none, .none⟩

namespace ApiError

def onBehalfOf (identity : Identity) (error : ApiError) : ApiError :=
  { error with clientId := identity.clientId, audience := identity.audience }

end ApiError

namespace Call

/-- The response that ends a call, if an attempt met one. -/
def success? : Except TransportError Response → Option Response
  | .ok response => if Response.isSuccess response.status then some response else none
  | .error _ => none

/-- Whether a request is sent again after what an attempt met. -/
def isRetryable : Except TransportError Response → Bool
  | .ok response => Retry.shouldRetry response.status
  | .error failure => failure.isRetryable

/-- The record of a body that broke before it could be kept. -/
def unreadRecords : Except TransportError Response → List Log
  | .ok response =>
    match Body.preview ApiError.previewLimit response.frames with
    | .ok _ => []
    | .error failure =>
      [⟨.debug, "Failed to read error response body",
        [("error", failure.message?.getD ""), ("status", toString response.status)]⟩]
  | .error _ => []

/-- The error that a response without success stands for. -/
def refusal (identity : Identity) (request : Request) (response : Response) : ApiError :=
  (ApiError.ofResponse request response.status response.headers (ApiError.keptBody response)).onBehalfOf identity

/-- Why an attempt without success failed. -/
def causeOf (identity : Identity) (request : Request) : Except TransportError Response → Cause
  | .ok response => .api (refusal identity request response)
  | .error failure => .transport request.operation failure

/-- Sends the message of one attempt, authorized anew. -/
def sendOnce (request : Request) (authorize : Act (Option HeaderValue)) (attempt : Nat) :
    Act (Except TransportError Response) := do
  let authorization ← authorize
  match request.message? attempt authorization with
  | none => Act.fail (.encode request.operation .unbuildable)
  | some message => Act.send message

def serverDelay : Except TransportError Response → Act (Option Span)
  | .ok response => do
    let (now, _) ← Act.readClock
    return Retry.afterHeaders? response.headers now
  | .error _ => return none

def retryDetails (request : Request) (plan : RetryPlan) (attempt : Nat) : List (String × String) := [
  ("retry", toString (attempt + 1)), ("max_retries", toString plan.maxRetries), ("operation", request.operation),
  ("method", request.method), ("host", request.url.hostText?.getD "")]

def retryRecord (request : Request) (plan : RetryPlan) (attempt : Nat) (server : Option Span) : Cause → Log
  | .api error =>
    ⟨.debug, "Retrying request after status code",
      retryDetails request plan attempt ++ [("status", toString error.status),
        ("request_id", Text.Quoted.encodeOption error.requestId), ("retry_after_used", toString server.isSome)]⟩
  | .transport _ failure =>
    ⟨.debug, "Retrying request after error",
      retryDetails request plan attempt ++ [("error", failure.message?.getD "")]⟩

/-- The wait between a failed attempt and the next one. -/
def pause (identity : Identity) (request : Request) (plan : RetryPlan) (attempt : Nat)
    (outcome : Except TransportError Response) : Act Unit := do
  let server ← serverDelay outcome
  Act.log [retryRecord request plan attempt server (causeOf identity request outcome)]
  Act.backOff server attempt plan.minimumDelay

def responseOf : Cause → Option (Nat × Headers)
  | .api error => some (error.status, error.headers)
  | .transport _ _ => none

/-- Measures a call that began at a given time and ends now. -/
def measureEnd (identity : Identity) (request : Request) (began attempt : Nat) (response : Option (Nat × Headers)) :
    Act Unit := do
  let s ← Act.session
  Act.measure (Measurement.ofCall request identity.clientId attempt response (Span.clamp (s.time - began)))

def giveUp (identity : Identity) (request : Request) (began attempt : Nat) (cause : Cause) (earlier : List Cause) :
    Act Response := do
  measureEnd identity request began attempt (responseOf cause)
  Act.fail (.failed cause earlier)

/-- The attempts from a given one on, `left` retries being left. `earlier` are the failures so far, the latest one
first. -/
def attempts (identity : Identity) (request : Request) (plan : RetryPlan) (authorize : Act (Option HeaderValue))
    (began : Nat) (left attempt : Nat) (earlier : List Cause) : Act Response := do
  let outcome ← sendOnce request authorize attempt
  match success? outcome with
  | some response =>
    measureEnd identity request began attempt (some (response.status, response.headers))
    return response
  | none =>
    Act.log (unreadRecords outcome)
    let cause := causeOf identity request outcome
    match left with
    | 0 => giveUp identity request began attempt cause earlier
    | left + 1 =>
      if isRetryable outcome then
        pause identity request plan attempt outcome
        attempts identity request plan authorize began left (attempt + 1) (cause :: earlier)
      else giveUp identity request began attempt cause earlier

def run (identity : Identity) (request : Request) (plan : RetryPlan) (authorize : Act (Option HeaderValue)) :
    Act Response := do
  let s ← Act.session
  attempts identity request plan authorize s.time plan.maxRetries 0 []

end Call

end AuthzClient
