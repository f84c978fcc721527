import AuthzClient.Secret
import AuthzClient.Settings.Source
import AuthzClient.Time.SpanBrief
import AuthzClient.Time.SpanText
import AuthzClient.Token.Endpoint

/-!
The configuration of a client: how it is read from settings and shown again, and what is checked before it is used.
-/

namespace AuthzClient

open Http

structure ClientCredentials where
  clientId : String
  clientSecret : Secret
  issuer : String
  audience : Option String
  scopes : Option String
  deriving DecidableEq, Repr

inductive Credentials
  | none
  | apiToken (token : Secret)
  | client (credentials : ClientCredentials)
  deriving DecidableEq, Repr

structure Configuration where
  /-- URL of the server; the usual one if this is blank. -/
  apiUrl : String
  storeId : Option String
  credentials : Credentials
  userAgent : String
  requestTimeout : Span
  connectTimeout : Span
  maxRetries : Nat
  minimumDelay : Span
  defaultHeaders : Entries String
  deriving DecidableEq, Repr

namespace ClientCredentials

/-- Refuses blank parts and an issuer that does not resolve. -/
def validate (credentials : ClientCredentials) : Except ClientError Unit :=
  if Text.isBlank credentials.clientId then .error (.invalidParameter "clientId" "ClientCredentials")
  else if credentials.clientSecret.isBlank then .error (.invalidParameter "clientSecret" "ClientCredentials")
  else if Text.isBlank credentials.issuer then .error (.invalidParameter "apiTokenIssuer" "ClientCredentials")
  else (Endpoint.resolve credentials.issuer).map fun _ => ()

def describe (credentials : ClientCredentials) : String :=
  "ClientCredentials \x7b client_id: " ++ Text.Quoted.encode credentials.clientId ++ ", client_secret: " ++ Secret.shown ++
    ", api_token_issuer: " ++ Text.Quoted.encode credentials.issuer ++ ", api_audience: " ++
    Text.Quoted.encodeOption credentials.audience ++ ", scopes: " ++ Text.Quoted.encodeOption credentials.scopes ++ " \x7d"

end ClientCredentials

namespace Credentials

/-- Refuses blank parts and an issuer that does not resolve. -/
def validate : Credentials → Except ClientError Unit
  | none => .ok ()
  | apiToken token => if token.isBlank then .error (.invalidParameter "apiToken" "ApiToken") else .ok ()
  | client credentials => credentials.validate

/-- The credentials with which tokens are issued, if those are used. -/
def client? : Credentials → Option ClientCredentials
  | client credentials => some credentials
  | _ => .none

def describe : Credentials → String
  | none => "None"
  | apiToken _ => "ApiToken \x7b api_token: " ++ Secret.shown ++ " \x7d"
  | client credentials => "ClientCredentials(" ++ credentials.describe ++ ")"

/-- Credentials as settings; secrets are not shown. -/
def toSettings : Credentials → Json
  | none => Json.ofMembers [("method", .text "none")]
  | apiToken _ => Json.ofMembers [("method", .text "api_token"), ("api_token", .text Secret.shown)]
  | client credentials =>
    Json.ofMembers [("method", .text "client_credentials"), ("client_id", .text credentials.clientId),
      ("client_secret", .text Secret.shown), ("api_token_issuer", .text credentials.issuer),
      ("api_audience", Json.ofText? credentials.audience), ("scopes", Json.ofText? credentials.scopes)]

end Credentials

namespace Configuration

def defaultApiUrl : String := "http://localhost:8080"

/-- The configuration that holds as far as nothing else is set. -/
def standard : Configuration where
  apiUrl := defaultApiUrl
  storeId := none
  credentials := .none
  userAgent := "openfga-sdk rust/0.1.0"
  requestTimeout := Span.ofSeconds 10
  connectTimeout := Span.ofSeconds 10
  maxRetries := Retry.defaultRetries
  minimumDelay := Retry.defaultBase
  defaultHeaders := []

/-- A configuration as settings; secrets are not shown. -/
def toSettings (config : Configuration) : Json :=
  Json.ofMembers [("api_url", .text config.apiUrl), ("store_id", Json.ofText? config.storeId),
    ("credentials", config.credentials.toSettings), ("user_agent", .text config.userAgent),
    ("request_timeout", .text (SpanText.write config.requestTimeout)),
    ("connect_timeout", .text (SpanText.write config.connectTimeout)), ("max_retries", Json.ofNat config.maxRetries),
    ("minimum_retry_delay", .text (SpanText.write config.minimumDelay)),
    ("default_headers", .object (config.defaultHeaders.map fun (name, value) => (name, .text value)))]

/-- The diagnostic text of a configuration; secrets are not shown. -/
def describe (config : Configuration) : String :=
  "Configuration \x7b api_url: " ++ Text.Quoted.encode config.apiUrl ++ ", store_id: " ++
    Text.Quoted.encodeOption config.storeId ++ ", credentials: " ++ config.credentials.describe ++ ", user_agent: " ++
    Text.Quoted.encode config.userAgent ++ ", request_timeout: " ++ SpanBrief.write config.requestTimeout ++
    ", connect_timeout: " ++ SpanBrief.write config.connectTimeout ++ ", max_retries: " ++ toString config.maxRetries ++
    ", minimum_retry_delay: " ++ SpanBrief.write config.minimumDelay ++ ", default_headers: " ++
    Text.Quoted.encodePairs config.defaultHeaders ++ " \x7d"

def apiUrlText (config : Configuration) : String :=
  let url := Text.trim config.apiUrl
  if url.isEmpty then defaultApiUrl else url

def parsedApiUrl (config : Configuration) : Except ClientError Url :=
  match Url.parse? config.apiUrlText with
  | none => .error (.invalidParameter "apiUrl" "Configuration")
  | some url =>
    if !Endpoint.isHttp url.scheme then .error (.invalidParameter "scheme" "Configuration")
    else if url.hostText?.isNone then .error (.invalidParameter "host" "Configuration")
    else .ok url

def headerPair (name value context : String) : Except ClientError (HeaderName × HeaderValue) :=
  match HeaderName.ofString? name, HeaderValue.ofString? value with
  | some name, some value => .ok (name, value)
  | _, _ => .error (.invalidParameter "headers" context)

def gatherHeaders (gathered : Headers) : List (String × String) → Except ClientError Headers
  | [] => .ok gathered
  | (name, value) :: rest =>
    match headerPair name value "Configuration" with
    | .error error => .error error
    | .ok (name, value) => gatherHeaders (Headers.set name value gathered) rest

/-- Checks everything that can be checked without sending anything. -/
def validate (config : Configuration) : Except ClientError Unit :=
  match config.parsedApiUrl with
  | .error error => .error error
  | .ok _ =>
    if config.maxRetries > Retry.retriesLimit then .error (.invalidParameter "maxRetries" "Configuration")
    else
      match gatherHeaders [] config.defaultHeaders with
      | .error error => .error error
      | .ok _ => config.credentials.validate

end Configuration

end AuthzClient
