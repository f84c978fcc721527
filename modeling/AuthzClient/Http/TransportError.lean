import AuthzClient.Json.Scanner
import AuthzClient.Time.SpanBrief

/-!
What can go wrong between a request and its response. None of these failures carries a status: every response is a
result, whatever its status says.
-/

namespace AuthzClient.Http

inductive MissingPart
  | authority
  | scheme
  deriving DecidableEq, Repr

inductive TransportError
  /-- The target of the request cannot be written. -/
  | unbuildable
  | headerName
  | headerValue
  /-- The time for one attempt was used up. -/
  | timeout (limit : Span)
  | network (reason : String)
  | tls (reason : String)
  | bodyTooLarge (limit actual : Nat)
  | json (fault : Json.Fault)
  | form
  | overloaded
  | closed
  | invalidUrl (url : String) (missing : MissingPart) (reason : String)
  | invalidScheme (scheme reason : String)
  deriving DecidableEq, Repr

namespace TransportError

/-- The sentence about a failure; nothing where the sentence depends on the library that found it. -/
def message? : TransportError → Option String
  | timeout limit => some ("Request attempt timed out after " ++ SpanBrief.write limit)
  | network reason => some ("Transport error: " ++ reason)
  | tls reason => some ("TLS error: " ++ reason)
  | bodyTooLarge limit actual =>
    some ("Response body too large: limit " ++ toString limit ++ " bytes, got " ++ toString actual ++ " bytes")
  | overloaded => some "Service overloaded: request buffer is full"
  | closed => some "Service unavailable: internal failure"
  | invalidUrl url _ reason => some ("Invalid URL '" ++ url ++ "': " ++ reason)
  | invalidScheme scheme reason => some ("URL scheme '" ++ scheme ++ "' not allowed: " ++ reason)
  | _ => none

/-- Whether another attempt of the same request may succeed: only where the network or the time was at fault. -/
def isRetryable : TransportError → Bool
  | timeout _ | network _ => true
  | _ => false

end TransportError

end AuthzClient.Http
