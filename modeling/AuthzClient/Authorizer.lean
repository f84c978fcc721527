import AuthzClient.Token.Source

/-!
The `Authorization` of calls: none, one fixed token, or a token from a source.
-/

namespace AuthzClient

open Http

inductive Authorizer
  | none
  | apiToken (token : Secret)
  | issued (source : Token.Source)
  deriving DecidableEq, Repr

namespace Authorizer

def ofCredentials (credentials : Credentials) (plan : RetryPlan) : Except ClientError Authorizer :=
  match credentials.validate with
  | .error error => .error error
  | .ok _ =>
    match credentials with
    | .none => .ok .none
    | .apiToken token => .ok (.apiToken token)
    | .client credentials => (Token.Source.ofCredentials credentials plan).map .issued

def token : Authorizer → Act (Option Secret)
  | none => return .none
  | apiToken token => return some token
  | issued source => return some (← source.token).value

/-- The value of the `Authorization` header for a token; it is not to be shown. -/
def headerValue? (token : Secret) : Option HeaderValue :=
  (HeaderValue.ofString? ("Bearer " ++ token.exposed)).map fun value => { value with sensitive := true }

/-- The `Authorization` header of a call. -/
def authorization (authorizer : Authorizer) : Act (Option HeaderValue) := do
  match ← authorizer.token with
  | .none => return .none
  | some token =>
    match headerValue? token with
    | some value => return some value
    | .none => Act.fail (.invalidParameter "accessToken" "Authorization")

/-- Forgets the token of a source, so that the next call has one issued. -/
def invalidate : Authorizer → Act Unit
  | issued _ => do Act.setCache (← Act.cache).invalidate
  | _ => return ()

def describe : Authorizer → String
  | none => "None"
  | apiToken _ => "ApiToken(" ++ Secret.shown ++ ")"
  | issued source =>
    "ClientCredentials(AccessTokenCache \x7b token_endpoint: " ++ Text.Quoted.encode source.endpoint.text ++
      ", client_id: " ++ Text.Quoted.encode source.credentials.clientId ++ ", audience: " ++
      Text.Quoted.encodeOption source.credentials.audience ++ ", .. \x7d)"

end Authorizer

end AuthzClient
