import AuthzClient.Settings.Configuration

/-!
What one call may set for itself, and what then holds for it: the retries and the headers.
-/

namespace AuthzClient

open Http

structure Options where
  maxRetries : Option Nat
  minimumDelay : Option Span
  /-- Headers by their exact names; one without a value is taken away. -/
  headers : Entries (Option String)
  deriving DecidableEq, Repr

def Options.none : Options := ⟨.none, .none, []⟩

/-- How often a call is sent again, and after what base delay. -/
structure RetryPlan where
  maxRetries : Nat
  minimumDelay : Span
  deriving DecidableEq, Repr

namespace Configuration

def retryPlan (config : Configuration) (options : Options) : Except ClientError RetryPlan :=
  let maxRetries := options.maxRetries.getD config.maxRetries
  if maxRetries > Retry.retriesLimit then .error (.invalidParameter "maxRetries" "RequestOptions")
  else .ok ⟨maxRetries, options.minimumDelay.getD config.minimumDelay⟩

/-- The user agent as a header, if it is a legal one. -/
def agentHeaders (config : Configuration) : Headers :=
  match HeaderValue.ofString? config.userAgent with
  | some value => [(.userAgent, value)]
  | none => []

/-- Takes the headers of a call one after the other. -/
def overrideHeaders (gathered : Headers) : List (String × Option String) → Except ClientError Headers
  | [] => .ok gathered
  | (name, some value) :: rest =>
    match headerPair name value "RequestOptions" with
    | .error error => .error error
    | .ok (name, value) => overrideHeaders (Headers.set name value gathered) rest
  | (name, .none) :: rest =>
    match HeaderName.ofString? name with
    | .none => .error (.invalidParameter "headers" "RequestOptions")
    | some name => overrideHeaders (Headers.remove name gathered) rest

/-- The headers of a call: the user agent, the default headers and the headers of the call, later ones in place of
earlier ones. -/
def requestHeaders (config : Configuration) (options : Options) : Except ClientError Headers :=
  match gatherHeaders config.agentHeaders config.defaultHeaders with
  | .error error => .error error
  | .ok gathered => overrideHeaders gathered options.headers

end Configuration

end AuthzClient
