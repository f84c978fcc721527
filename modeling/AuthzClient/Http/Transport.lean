import AuthzClient.Http.DefaultHeaders
import AuthzClient.Http.Target

/-!
Transports over the network: their settings, and the messages that they refuse to send.
-/

namespace AuthzClient.Http

inductive Security
  | tlsOnly
  | plainAllowed
  deriving DecidableEq, Repr

structure Transport where
  /-- The time for one attempt, up to the headers of the response. -/
  requestTimeout : Span
  connectTimeout : Span
  /-- The limit of bodies that are read whole. -/
  maxBody : Nat
  userAgent : String
  defaultHeaders : List (String × String)
  security : Security
  /-- How many messages may wait to be sent. -/
  bufferCapacity : Nat
  /-- After what time an idle connection is closed. -/
  idleTimeout : Option Span
  maxIdlePerHost : Nat
  deriving Repr

namespace Transport

def standard : Transport where
  requestTimeout := Span.ofSeconds 10
  connectTimeout := Span.ofSeconds 10
  maxBody := 10485760
  userAgent := "fga-http/0.1.0"
  defaultHeaders := []
  security := .tlsOnly
  bufferCapacity := 1024
  idleTimeout := some (Span.ofSeconds 90)
  maxIdlePerHost := 32

/-- Settings for token endpoints: small bodies, few connections. -/
def tokenEndpoint : Transport :=
  { standard with
    maxBody := 1048576, bufferCapacity := 256, idleTimeout := some (Span.ofSeconds 60), maxIdlePerHost := 4 }

/-- Settings for servers of tests, plain HTTP allowed. -/
def testing : Transport :=
  { standard with
    connectTimeout := Span.ofSeconds 5, maxBody := 1048576, security := .plainAllowed, bufferCapacity := 256,
    idleTimeout := some (Span.ofSeconds 10), maxIdlePerHost := 4 }

def plainWarning : String :=
  "insecure HTTP enabled (TransportSecurity::AllowInsecureHttp); traffic to http:// URLs is not encrypted"

/-- The headers that a transport adds, or why it cannot be built. -/
def build (transport : Transport) : Except TransportError Headers :=
  DefaultHeaders.of transport.userAgent transport.defaultHeaders

/-- Lets a target pass, or says why no message is sent to it. -/
def screen (security : Security) (target : Target) : Except TransportError Unit :=
  if target.authority.isNone then .error (.invalidUrl target.render .authority "missing host/authority")
  else
    match target.scheme with
    | none => .error (.invalidUrl target.render .scheme "missing scheme")
    | some scheme =>
      if scheme = "https" then .ok ()
      else if scheme = "http" then
        match security with
        | .plainAllowed => .ok ()
        | .tlsOnly => .error (.invalidScheme "http" "HTTPS required (transport security is TlsOnly)")
      else .error (.invalidScheme scheme "only http:// and https:// schemes are supported")

/-- What a message meets: if its target passes, what the service behind the transport replies. -/
def execute (transport : Transport) (target : Target) (served : Except TransportError Response) :
    Except TransportError Response := do
  screen transport.security target
  served

end Transport

end AuthzClient.Http
