import AuthzClient.Entries
import AuthzClient.Failure.Validation
import AuthzClient.Http.Body
import AuthzClient.Json.Decoder
import AuthzClient.Request
import AuthzClient.Retry.Backoff

/-!
Errors that the server reports: what every response without success is turned into. The kind depends on the status
alone; code and message are taken from the body as far as it has them.
-/

namespace AuthzClient

open Http

inductive ApiError.Kind
  | validation (details : Validation.Details)
  | authentication
  | notFound
  | rateLimitExceeded
  | internalServer
  | unclassified
  deriving DecidableEq, Repr

structure ApiError where
  kind : ApiError.Kind
  status : Nat
  operation : String
  method : String
  url : String
  requestId : Option String
  code : Option String
  reason : Option String
  /-- The `Retry-After` header as it was sent. -/
  retryAfter : Option String
  clientId : Option String
  audience : Option String
  headers : Headers
  body : String
  metadata : Entries String
  deriving Repr

namespace ApiError

namespace Kind

/-- The kind of a status; the details of a validation failure are not known yet. -/
def ofStatus (status : Nat) : Kind :=
  if status = 400 ∨ status = 422 then .validation .none
  else if status = 401 ∨ status = 403 then .authentication
  else if status = 404 then .notFound
  else if status = 429 then .rateLimitExceeded
  else if status = 500 ∨ (502 ≤ status ∧ status ≤ 599) then .internalServer
  else .unclassified

def name : Kind → String
  | validation _ => "validation"
  | authentication => "authentication"
  | notFound => "not_found"
  | rateLimitExceeded => "rate_limit_exceeded"
  | internalServer => "internal_server"
  | unclassified => "unclassified"

end Kind

def validation? (error : ApiError) : Option Validation.Details :=
  match error.kind with
  | .validation details => some details
  | _ => none

/-- The text of a member that is a non-empty text or a number. -/
def memberText? (name : String) (members : Entries Json) : Option String :=
  match Entries.get? name members with
  | some (.text s) => if s.isEmpty then none else some s
  | some (.number n) => some n.render
  | _ => none

def readBody (body : List UInt8) : Option String × Option String :=
  match Json.parse body with
  | .ok (.object members) => (memberText? "code" members, memberText? "message" members <|> memberText? "error" members)
  | _ => (none, none)

def entry (key : String) : Option String → Entries String
  | some value => [(key, value)]
  | none => []

/-- Most bytes of a body that are kept of a failed attempt. -/
def previewLimit : Nat := 8192

/-- The body of a response without success as far as it is kept; nothing of one that breaks before that. -/
def keptBody (response : Response) : List UInt8 :=
  match Body.preview previewLimit response.frames with
  | .ok bytes => bytes
  | .error _ => []

/-- The error that a response without success to a request stands for. -/
def ofResponse (request : Request) (status : Nat) (headers : Headers) (body : List UInt8) : ApiError :=
  let (code, reason) := readBody body
  let details := (reason.map Validation.extract).getD .none
  let (kind, metadata) := match Kind.ofStatus status with
    | .validation _ =>
      (.validation details, entry "invalid_field" details.field ++ entry "invalid_value" details.value)
    | kind => (kind, [])
  { kind := kind, status := status, operation := request.operation, method := request.method, url := request.url.text,
    requestId := Headers.text? .requestId headers, code := code, reason := reason,
    retryAfter := Headers.text? .retryAfter headers, clientId := none, audience := none, headers := headers,
    body := String.ofList (Text.Utf8.decodeLossy body), metadata := metadata }

/-- The error of a response, or nothing if it is a success. -/
def classify (request : Request) (status : Nat) (headers : Headers) (body : List UInt8) : Option ApiError :=
  if Response.isSuccess status then none else some (ofResponse request status headers body)

def addMetadata (key value : String) (error : ApiError) : ApiError :=
  { error with metadata := Entries.put key value error.metadata }

def message (error : ApiError) : String :=
  match error.reason, error.code with
  | some reason, some code => "[" ++ error.operation ++ "] " ++ reason ++ " (" ++ code ++ ")"
  | some reason, none => "[" ++ error.operation ++ "] " ++ reason
  | none, _ => error.operation

/-- A text in front and one behind, if there is anything between them. -/
def around (before behind : String) : Option String → String
  | some s => before ++ s ++ behind
  | none => ""

def detailed (error : ApiError) : String :=
  "[" ++ error.operation ++ "] HTTP " ++ toString error.status ++ around " " "" error.reason ++
    around " (" ")" error.code ++ around " [request-id: " "]" error.requestId

def isRetryable (error : ApiError) : Bool := Retry.shouldRetry error.status

def isClientError (error : ApiError) : Bool := 400 ≤ error.status && error.status < 500

def isServerError (error : ApiError) : Bool := 500 ≤ error.status && error.status < 600

def isValidationError (error : ApiError) : Bool := error.code == some "validation_error"

def isRateLimitError (error : ApiError) : Bool := error.status == 429 || error.code == some "rate_limit_exceeded"

def isNotFoundError (error : ApiError) : Bool := error.status == 404

def isAuthenticationError (error : ApiError) : Bool := error.kind == .authentication

end ApiError

end AuthzClient
