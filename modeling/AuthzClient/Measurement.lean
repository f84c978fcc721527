import AuthzClient.Decimal.Reader
import AuthzClient.Decimal.Shortest
import AuthzClient.Http.Header
import AuthzClient.Log
import AuthzClient.Request
import AuthzClient.Time.Span

/-!
Measurements: how long calls take, what the server says about its own time, and how many tokens were issued. Each one
carries attributes that say which call it is about.
-/

namespace AuthzClient

open Http

/-- What a measurement is about; attributes are kept in this order. -/
inductive Attribute
  | operation
  | retries
  | clientId
  | modelId
  | host
  | method
  | status
  deriving DecidableEq, Repr

def Attribute.name : Attribute → String
  | operation => "fga-client.request.method"
  | retries => "fga-client.request.retries"
  | clientId => "fga-client.request.client_id"
  | modelId => "fga-client.response.model_id"
  | host => "http.host"
  | method => "http.method"
  | status => "http.status_code"

inductive Measurement.Value
  | issued
  /-- The time of a whole call, waits and retries included. -/
  | elapsed (time : Span)
  /-- The time that the server spent, as it says itself, in milliseconds. -/
  | reported (x : Decimal.Binary64)
  deriving DecidableEq, Repr

structure Measurement where
  value : Measurement.Value
  attributes : List (Attribute × String)
  deriving DecidableEq, Repr

namespace Measurement

def metric (m : Measurement) : String :=
  match m.value with
  | .issued => "fga-client.credentials.request"
  | .elapsed _ => "fga-client.request.duration"
  | .reported _ => "fga-client.query.duration"

def queryTime : HeaderName := ⟨"fga-query-duration-ms"⟩

def modelUsed : HeaderName := ⟨"openfga-authorization-model-id"⟩

def known (about : Attribute) : Option String → List (Attribute × String)
  | some value => [(about, value)]
  | none => []

/-- The text of a header without white space around it. -/
def headerText? (name : HeaderName) (headers : Headers) : Option String :=
  (Headers.text? name headers).map Text.trim

/-- The attributes of a call that ended after a number of retries, with the last response if there was one. -/
def attributesOf (request : Request) (clientId : Option String) (retries : Nat) (response : Option (Nat × Headers)) :
    List (Attribute × String) :=
  (Attribute.operation, request.operation) :: (Attribute.retries, toString retries) ::
    (known .clientId clientId ++ known .modelId (response.bind fun r => headerText? modelUsed r.2) ++
      known .host request.url.hostText? ++ [(Attribute.method, request.method)] ++
      known .status (response.map fun r => toString r.1))

/-- What is measured of a call that ended: its time, and the server's own time if the last response tells it. -/
def ofCall (request : Request) (clientId : Option String) (retries : Nat) (response : Option (Nat × Headers))
    (time : Span) : List Measurement :=
  let attributes := attributesOf request clientId retries response
  let reported := response.bind fun r => (headerText? queryTime r.2).bind fun text => Decimal.parse? text.toList
  ⟨.elapsed time, attributes⟩ ::
    match reported with
    | some x => [⟨.reported x, attributes⟩]
    | none => []

def ofIssue (clientId : Option String) : Measurement := ⟨.issued, known .clientId clientId⟩

def attributesText (attributes : List (Attribute × String)) : String :=
  ",".intercalate (attributes.map fun (about, value) => about.name ++ "=" ++ value)

/-- A measurement as a record; times that are measured are left out of it. -/
def toLog (m : Measurement) : Log :=
  let about := [("metric", m.metric), ("attributes", attributesText m.attributes)]
  match m.value with
  | .issued => ⟨.debug, "Telemetry counter recorded", ("value", "1") :: about⟩
  | .elapsed _ => ⟨.debug, "Telemetry histogram recorded", about⟩
  | .reported x => ⟨.debug, "Telemetry histogram recorded", ("value", x.render Decimal.diagnosticLayout) :: about⟩

end Measurement

end AuthzClient
