import AuthzClient.Failure.ClientError
import AuthzClient.Stream.Lines

/-!
Delivery of a stream: items and the errors of single lines in order, and how the call ends.
-/

namespace AuthzClient.Stream

open Http

/-- What was delivered, and the failure of the call if it failed. -/
structure Delivery (α : Type) where
  outcomes : List (Outcome α)
  result : Except ClientError Unit

variable {α : Type}

/-- Hands on the outcomes of a stream up to its end or to the failure of its body. `handed` holds those handed on so
far, last one first. -/
def handOn (item : Json.Decoder α) (operation : String) (handed : List (Outcome α)) (reader : Reader) : Delivery α :=
  match _pulled : reader.pull item with
  | (some (.ok outcome), next) => handOn item operation (outcome :: handed) next
  | (some (.error failure), _) => ⟨handed.reverse, .error (.transport operation failure)⟩
  | (none, _) => ⟨handed.reverse, .ok ()⟩
termination_by reader.weight
decreasing_by exact Reader.weight_pull _pulled

/-- Delivers a response to a request. Without success nothing is delivered; a broken body ends the delivery after the
lines before it. -/
def deliver (item : Json.Decoder α) (request : Request) (response : Response) : Delivery α :=
  if Response.isSuccess response.status then handOn item request.operation [] (.start response.frames)
  else
    let error := ApiError.ofResponse request response.status response.headers (ApiError.keptBody response)
    ⟨[], .error (.failed (.api error) [])⟩

end AuthzClient.Stream
