import AuthzClient.Authorizer
import AuthzClient.Http.Transport
import AuthzClient.Settings.Options

/-!
Clients of an authorization server: a configuration that was checked, the URL of the server, and how calls are
authorized. Everything that a call needs besides the server is settled before anything is sent.
-/

namespace AuthzClient

open Http

/-- The credentials as they are named in errors and measurements. -/
def Credentials.identity (credentials : Credentials) : Identity :=
  match credentials.client? with
  | some issued => ⟨some issued.clientId, issued.audience⟩
  | .none => .none

structure Client where
  config : Configuration
  baseUrl : Url
  /-- On whose behalf calls are made, kept apart from the configuration. -/
  identity : Identity
  authorizer : Authorizer
  deriving DecidableEq, Repr

namespace Client

def ofConfiguration (config : Configuration) : Except ClientError Client := do
  config.validate
  let baseUrl ← config.parsedApiUrl
  let plan ← config.retryPlan .none
  let authorizer ← Authorizer.ofCredentials config.credentials plan
  return ⟨config, baseUrl, config.credentials.identity, authorizer⟩

/-- Whether the server or the issuer of tokens is reached without encryption. -/
def usesPlainHttp (config : Configuration) : Except ClientError Bool := do
  let url ← config.parsedApiUrl
  if url.scheme = "http" then return true
  else
    match config.credentials.client? with
    | some credentials => return (← Endpoint.resolve credentials.issuer).scheme = "http"
    | none => return false

/-- The transport of a configuration. Plain HTTP is allowed only where the configuration names it. -/
def transportOf (config : Configuration) (plain : Bool) : Transport :=
  { Transport.standard with
    requestTimeout := config.requestTimeout, connectTimeout := config.connectTimeout, userAgent := config.userAgent,
    security := if plain then .plainAllowed else .tlsOnly }

structure Connected where
  client : Client
  transport : Transport

/-- The client of a configuration, with a transport over the network. -/
def connect (config : Configuration) : Except ClientError Connected := do
  config.validate
  let transport := transportOf config (← usesPlainHttp config)
  match transport.build with
  | .error failure => throw (.transport "buildClient" failure)
  | .ok _ => return ⟨← ofConfiguration config, transport⟩

def Connected.records (connected : Connected) : List Log :=
  match connected.transport.security with
  | .plainAllowed => [⟨.warn, Transport.plainWarning, []⟩]
  | .tlsOnly => []

/-- A request with the headers of the configuration and of the call wherever it has none of its own, and the retries of
the call. -/
def prepare (client : Client) (request : Request) (options : Options) : Except ClientError (Request × RetryPlan) := do
  let plan ← client.config.retryPlan options
  let headers ← client.config.requestHeaders options
  return ({ request with headers := Headers.fill headers request.headers }, plan)

/-- Sends a request until it succeeds or fails for good. -/
def attempt (client : Client) (request : Request) (options : Options) : Act Response := do
  let (prepared, plan) ← Act.lift (client.prepare request options)
  Call.run client.identity prepared plan client.authorizer.authorization

/-- White space of ASCII, as it is cut off around a body. -/
def isPadding (b : UInt8) : Bool := b == 0x20 || b == 0x09 || b == 0x0a || b == 0x0c || b == 0x0d

/-- A body without white space around it; a body of nothing else stands for null. -/
def bodyText (bytes : List UInt8) : List UInt8 :=
  let trimmed := ((bytes.dropWhile isPadding).reverse.dropWhile isPadding).reverse
  if trimmed.isEmpty then "null".toUTF8.toList else trimmed

def bodyOf (operation : String) (response : Response) : Except ClientError (List UInt8) :=
  response.bytes.mapError fun failure => .transport operation failure

def decodeBody {α : Type} (item : Json.Decoder α) (operation : String) (response : Response) : Except ClientError α := do
  let bytes ← bodyOf operation response
  (item.read (bodyText bytes)).mapError fun fault => .decode operation fault

/-- Sends a request and reads the value in the body of the response. -/
def sendJson {α : Type} (item : Json.Decoder α) (client : Client) (request : Request) (options : Options) : Act α := do
  let response ← client.attempt request options
  Act.receive
  Act.lift (decodeBody item request.operation response)

/-- Sends a request and reads the text of the response. -/
def sendText (client : Client) (request : Request) (options : Options) : Act String := do
  let response ← client.attempt request options
  Act.receive
  Act.lift (response.text.mapError fun failure => .transport request.operation failure)

def streamRecords {α : Type} (outcomes : List (Stream.Outcome α)) : List Log :=
  outcomes.filterMap fun
    | .ok _ => none
    | .error error => error.toLog?

/-- Sends a request and delivers the lines of the response. The call is not repeated once the response has begun. -/
def stream {α : Type} (item : Json.Decoder α) (client : Client) (request : Request) (options : Options) :
    Act (Stream.Delivery α) := do
  let response ← client.attempt request options
  let delivery := Stream.deliver item request response
  Act.log (streamRecords delivery.outcomes)
  return delivery

/-- The error that a response to a request stands for, or nothing if it is a success. It names the credentials of the
configuration. -/
def classify (client : Client) (request : Request) (status : Nat) (headers : Headers) (body : List UInt8) :
    Option ApiError :=
  (ApiError.classify request status headers body).map fun error => error.onBehalfOf client.config.credentials.identity

end Client

end AuthzClient
