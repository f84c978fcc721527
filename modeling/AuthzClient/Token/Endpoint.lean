import AuthzClient.Failure.ClientError
import AuthzClient.Url.Parser

/-!
The URL at which tokens are issued, found from the name of the issuer: a host, with the usual scheme and path where it
has none of its own.
-/

namespace AuthzClient.Endpoint

open Text

/-- The segments of the path that an issuer without a path has. -/
def defaultPath : Url.Path := .segments ["oauth", "token"]

/-- Whether a scheme and an authority are written out. -/
def hasScheme : List Char → Bool
  | [] => false
  | c :: cs => (c == ':' && cs.take 2 == ['/', '/']) || hasScheme cs

def isHttp (scheme : String) : Bool := scheme == "http" || scheme == "https"

/-- The URL that an issuer's trimmed name writes, with the usual scheme if it has none. -/
def readIssuer? (name : List Char) : Option Url :=
  Url.ofChars? (if hasScheme name then name else "https://".toList ++ name)

/-- A path that says nothing. -/
def isBare (path : Url.Path) : Bool := path.chars.isEmpty || path.chars == ['/']

def resolve (issuer : String) : Except ClientError Url :=
  match readIssuer? (trimChars issuer.toList) with
  | none => .error (.invalidParameter "apiTokenIssuer" "ClientCredentials")
  | some url =>
    if !isHttp url.scheme then .error (.invalidParameter "scheme" "apiTokenIssuer")
    else if url.hostText?.isNone then .error (.invalidParameter "apiTokenIssuer" "ClientCredentials")
    else .ok (if isBare url.path then { url with path := defaultPath } else url)

end AuthzClient.Endpoint
