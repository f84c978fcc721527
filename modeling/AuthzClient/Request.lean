import AuthzClient.Http.Header
import AuthzClient.Http.Target
import AuthzClient.Http.TransportError
import AuthzClient.Json.Writer
import AuthzClient.Text.Quoted
import AuthzClient.Url.Form
import AuthzClient.Url.Parser

/-!
One call of the server, and the messages that its attempts send.
-/

namespace AuthzClient

open Http

structure Request where
  /-- The name of the call in errors, logs and measurements. -/
  operation : String
  method : String
  url : Url
  headers : Headers
  body : List UInt8
  deriving Repr

structure Message where
  method : String
  target : Target
  headers : Headers
  body : List UInt8
  deriving Repr

namespace Request

/-- A call without headers and body. -/
def new (operation method : String) (url : Url) : Request := ⟨operation, method, url, [], []⟩

/-- With one value of a header, in place of all it had. -/
def setHeader (name : HeaderName) (value : HeaderValue) (request : Request) : Request :=
  { request with headers := Headers.set name value request.headers }

def withBody (body : List UInt8) (request : Request) : Request := { request with body := body }

def jsonType : HeaderValue := .ofText "application/json"

def formType : HeaderValue := .ofText "application/x-www-form-urlencoded"

def textType : HeaderValue := .ofText "text/plain; charset=utf-8"

def withJson (value : Json) (request : Request) : Request :=
  (request.setHeader .contentType jsonType).withBody (Json.writeBytes value)

def withForm (pairs : List (String × String)) (request : Request) : Request :=
  (request.setHeader .contentType formType).withBody (Text.Utf8.encodeChars (Form.encode pairs))

def attemptValue (attempt : Nat) : HeaderValue := .ofText (toString attempt)

/-- The headers of a call with the authorization in place of any it has. -/
def authorizedHeaders (authorization : Option HeaderValue) (request : Request) : Headers :=
  match authorization with
  | some value => Headers.set .authorization value request.headers
  | none => request.headers

/-- The headers of one attempt: those of the call, authorized, and from the second attempt on the number of the retry. -/
def attemptHeaders (attempt : Nat) (authorization : Option HeaderValue) (request : Request) : Headers :=
  let authorized := request.authorizedHeaders authorization
  if attempt > 0 then Headers.set .retryAttempt (attemptValue attempt) authorized else authorized

/-- The message of one attempt, counted from zero; nothing if the URL cannot be written as a target. -/
def message? (attempt : Nat) (authorization : Option HeaderValue) (request : Request) : Option Message :=
  (Target.parse? request.url.text).map fun target =>
    ⟨request.method, target, request.attemptHeaders attempt authorization, request.body⟩

/-- The diagnostic text of a call; its body may hold a secret, so only the length is shown. -/
def describe (request : Request) : String :=
  "ApiRequest \x7b operation: " ++ Text.Quoted.encode request.operation ++ ", method: " ++ request.method ++ ", url: " ++
    Text.Quoted.encode request.url.text ++ ", body_len: " ++ toString request.body.length ++ ", .. \x7d"

end Request

end AuthzClient
