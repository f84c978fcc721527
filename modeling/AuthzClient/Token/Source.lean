import AuthzClient.Call
import AuthzClient.Token.Answer

/-!
Where tokens come from: credentials are exchanged for a token at the token endpoint, and the token is held until it is
about to expire. A caller who finds no usable token waits until nobody else is exchanging, and looks again then; a token
that was stored in the meantime is taken as it is.
-/

namespace AuthzClient.Token

open Http

/-- The name of an exchange in errors, records and measurements. -/
def exchangeOperation : String := "exchangeToken"

/-- A token endpoint and the credentials that are exchanged there. -/
structure Source where
  endpoint : Url
  credentials : ClientCredentials
  plan : RetryPlan
  deriving DecidableEq, Repr

namespace Source

def ofCredentials (credentials : ClientCredentials) (plan : RetryPlan) : Except ClientError Source :=
  match credentials.validate with
  | .error error => .error error
  | .ok _ => (Endpoint.resolve credentials.issuer).map fun endpoint => ⟨endpoint, credentials, plan⟩

/-- A part of the form that is sent only if it is set. -/
def optionalPart (name : String) : Option String → List (String × String)
  | some value => [(name, value)]
  | none => []

def form (credentials : ClientCredentials) : List (String × String) :=
  [("client_id", credentials.clientId), ("client_secret", credentials.clientSecret.exposed)] ++
    optionalPart "audience" credentials.audience ++ [("grant_type", "client_credentials")] ++
    optionalPart "scope" credentials.scopes

def request (source : Source) : Request :=
  (Request.new exchangeOperation "POST" source.endpoint).withForm (form source.credentials)

def identity (source : Source) : Identity := ⟨some source.credentials.clientId, source.credentials.audience⟩

/-- The record of an answer that says it has no bearer token. -/
def foreignRecord (type : String) : Log :=
  ⟨.warn, "Token endpoint returned a non-bearer token type; sending it as bearer",
    [("operation", exchangeOperation), ("token_type", type)]⟩

def lifeText : Option Nat → String
  | some seconds => "Some(" ++ toString seconds ++ ")"
  | none => "None"

def issuedRecord (source : Source) (answer : Answer) : Log :=
  ⟨.debug, "Access token refreshed",
    [("operation", exchangeOperation), ("client_id", source.credentials.clientId),
      ("expires_in", lifeText answer.expiresIn)]⟩

def records (source : Source) (answer : Answer) : List Log :=
  answer.foreignType?.toList.map foreignRecord ++ [source.issuedRecord answer]

def answerOf (response : Response) : Except ClientError Answer :=
  match response.bytes with
  | .error failure => .error (.transport exchangeOperation failure)
  | .ok bytes => (Answer.read bytes).mapError fun fault => .decode exchangeOperation fault

def exchange (source : Source) : Act AccessToken := do
  let response ← Call.run source.identity source.request source.plan (return none)
  Act.receive
  let answer ← Act.lift (answerOf response)
  Act.log (source.records answer)
  let (now, _) ← Act.readClock
  return AccessToken.livingFor answer.accessToken now (answer.expiresIn.map Span.ofSeconds)

/-- The first look of a caller: a token that can be used, or the number of the one that cannot. -/
def look : Act (Except (Option Nat) AccessToken) := do
  let cache ← Act.cache
  if cache.held.isNone then return .error none
  else
    let (now, jitter) ← Act.readClock
    match cache.usable? now jitter with
    | some held => return .ok held.token
    | none => return .error cache.mark

/-- The record of a token that another caller has stored. -/
def reuseRecord : Log :=
  ⟨.debug, "Reusing token refreshed by a concurrent caller", [("operation", exchangeOperation)]⟩

/-- The turn of a caller who is alone now with the exchange. -/
def renew (source : Source) (seen : Option Nat) : Act AccessToken := do
  let cache ← Act.cache
  match cache.renewed? seen with
  | some held =>
    Act.log [reuseRecord]
    return held.token
  | none =>
    let token ← source.exchange
    let cache ← Act.cache
    Act.setCache (cache.store token)
    Act.measure [Measurement.ofIssue source.credentials.clientId]
    return token

def token (source : Source) : Act AccessToken := do
  match ← look with
  | .ok token => return token
  | .error seen => source.renew seen

end Source

end AuthzClient.Token
