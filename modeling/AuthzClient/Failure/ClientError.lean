import AuthzClient.Failure.ApiError
import AuthzClient.Http.TransportError

/-!
Everything that a call can fail with. A failed call keeps the failures of all its attempts.
-/

namespace AuthzClient

open Http

inductive Cause
  | api (error : ApiError)
  /-- There was no answer, or its body could not be read. -/
  | transport (operation : String) (source : TransportError)
  deriving Repr

namespace Cause

def isRetryable : Cause → Bool
  | api error => error.isRetryable
  | transport _ source => source.isRetryable

/-- The server's error, if that is the cause. -/
def api? : Cause → Option ApiError
  | api error => some error
  | transport _ _ => none

end Cause

inductive SettingFault
  | span (value reason : String)
  | type
  | value
  | missing (field : String)
  | variant
  | other
  deriving DecidableEq, Repr

inductive ClientError
  /-- The last attempt failed; `earlier` are the failures of the attempts before it, the latest one first. -/
  | failed (cause : Cause) (earlier : List Cause)
  /-- An argument is missing or wrong, or the token cannot stand in a header. -/
  | invalidParameter (parameter context : String)
  /-- The request cannot be written; it was not sent. -/
  | encode (operation : String) (source : TransportError)
  /-- A success with a body of the wrong form. -/
  | decode (operation : String) (fault : Json.Fault)
  /-- Settings that cannot be read; `key` is the setting that is blamed. -/
  | settings (key : String) (fault : SettingFault)
  deriving Repr

namespace ClientError

def transport (operation : String) (source : TransportError) : ClientError :=
  .failed (.transport operation source) []

def previous? : ClientError → Option ClientError
  | failed _ (cause :: earlier) => some (failed cause earlier)
  | _ => none

def isRetryable : ClientError → Bool
  | failed cause _ => cause.isRetryable
  | _ => false

/-- The server's error, if the last attempt failed with one. -/
def api? : ClientError → Option ApiError
  | failed cause _ => cause.api?
  | _ => none

/-- The text of a failure; nothing where it depends on a sentence that is not fixed. -/
def message? : ClientError → Option String
  | failed (.api error) _ => some error.message
  | failed (.transport operation source) _ =>
    source.message?.map fun text => "[" ++ operation ++ "] transport error: " ++ text
  | invalidParameter parameter context =>
    some ("Required parameter " ++ parameter ++ " was invalid when calling " ++ context ++ ".")
  | _ => none

end ClientError

/-- Refuses an argument that is missing or blank. -/
def requirePresent (value : Option String) (parameter context : String) : Except ClientError Unit :=
  match value with
  | some s => if Text.isBlank s then .error (.invalidParameter parameter context) else .ok ()
  | none => .error (.invalidParameter parameter context)

end AuthzClient
