import AuthzClient.Http.Body

/-!
Headers that a transport adds to every message that does not have them yet: a user agent and any others.
-/

namespace AuthzClient.Http.DefaultHeaders

def pair (name value : String) : Except TransportError (HeaderName × HeaderValue) :=
  match HeaderName.ofString? name with
  | none => .error .headerName
  | some name =>
    match HeaderValue.ofString? value with
    | none => .error .headerValue
    | some value => .ok (name, value)

/-- Takes configured headers one after the other; a later value of a name replaces the earlier one. -/
def gather (gathered : Headers) : List (String × String) → Except TransportError Headers
  | [] => .ok gathered
  | (name, value) :: rest =>
    match pair name value with
    | .error error => .error error
    | .ok (name, value) => gather (Headers.set name value gathered) rest

/-- The headers to be added, or the first one that is not legal. -/
def of (userAgent : String) (defaults : List (String × String)) : Except TransportError Headers :=
  match HeaderValue.ofString? userAgent with
  | none => .error .headerValue
  | some value => gather [(.userAgent, value)] defaults

/-- A message's headers with the defaults added; a header that is there already stays as it is. -/
def apply (defaults headers : Headers) : Headers := Headers.fill defaults headers

end AuthzClient.Http.DefaultHeaders
