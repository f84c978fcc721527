import AuthzClient.Http.Header
import AuthzClient.Http.TransportError

/-!
Response bodies as they arrive: frames of data, frames that carry no data, and failures. A body is read whole within a
limit, read up to a number of bytes, or taken frame by frame without any limit.
-/

namespace AuthzClient.Http

inductive Frame
  | data (bytes : List UInt8)
  /-- Headers at the end, which are passed over. -/
  | trailers
  | failure (reason : String)
  deriving DecidableEq, Repr

namespace Frame

/-- The bytes of a frame and the frame itself, counted. -/
def size : Frame → Nat
  | data bytes => bytes.length + 1
  | _ => 1

end Frame

structure Response where
  status : Nat
  headers : Headers
  frames : List Frame
  /-- The limit of a body that is read whole. -/
  limit : Option Nat
  deriving Repr

namespace Body

/-- The next data of a body that is taken frame by frame, or its failure, with the frames behind it; nothing at the end.
Frames without data are passed over. -/
def next? : List Frame → Option (Except TransportError (List UInt8) × List Frame)
  | [] => none
  | .data bytes :: rest => some (.ok bytes, rest)
  | .trailers :: rest => next? rest
  | .failure reason :: rest => some (.error (.network reason), rest)

def size : List Frame → Nat
  | [] => 0
  | frame :: rest => frame.size + size rest

theorem size_cons (frame : Frame) (frames : List Frame) : size (frame :: frames) = frame.size + size frames := rfl

theorem size_of_next?_ok {frames rest : List Frame} {bytes : List UInt8}
    (next : next? frames = some (.ok bytes, rest)) : bytes.length + size rest < size frames := by
  induction frames with
  | nil => simp [next?] at next
  | cons frame frames ih =>
    rw [size_cons]
    cases frame with
    | data => cases next; simp only [Frame.size]; omega
    | trailers => exact Nat.lt_add_left _ (ih next)
    | failure => cases next

def fits (limit : Option Nat) (size : Nat) : Bool :=
  match limit with
  | some most => size ≤ most
  | none => true

/-- Reads a whole body. `seen` holds the bytes so far, last one first, and `size` their number. -/
def collect (limit : Option Nat) (seen : List UInt8) (size : Nat) : List Frame → Except TransportError (List UInt8)
  | [] => .ok seen.reverse
  | .trailers :: rest => collect limit seen size rest
  | .failure reason :: _ => .error (.network reason)
  | .data bytes :: rest =>
    let actual := size + bytes.length
    if fits limit actual then collect limit (bytes.reverseAux seen) actual rest
    else .error (.bodyTooLarge (limit.getD actual) actual)

/-- The bytes of a whole body, or the first thing wrong with it. -/
def read (limit : Option Nat) (frames : List Frame) : Except TransportError (List UInt8) := collect limit [] 0 frames

/-- Reads at most `room` more bytes. -/
def collectUpTo (seen : List UInt8) (room : Nat) : List Frame → Except TransportError (List UInt8)
  | [] => .ok seen.reverse
  | .trailers :: rest => if room = 0 then .ok seen.reverse else collectUpTo seen room rest
  | .failure reason :: _ => if room = 0 then .ok seen.reverse else .error (.network reason)
  | .data bytes :: rest =>
    if room = 0 then .ok seen.reverse
    else collectUpTo ((bytes.take room).reverseAux seen) (room - bytes.length) rest

/-- The first bytes of a body, all of them if there are no more than the limit. What comes behind is not looked at. -/
def preview (limit : Nat) (frames : List Frame) : Except TransportError (List UInt8) := collectUpTo [] limit frames

end Body

namespace Response

def bytes (response : Response) : Except TransportError (List UInt8) := Body.read response.limit response.frames

/-- The characters of the whole body, U+FFFD standing for what is not UTF-8. -/
def text (response : Response) : Except TransportError String :=
  response.bytes.map fun bytes => String.ofList (Text.Utf8.decodeLossy bytes)

/-- A response whose body is there at once; it is read without a limit. -/
def ofBytes (status : Nat) (headers : Headers) (body : List UInt8) : Response :=
  ⟨status, headers, if body.isEmpty then [] else [.data body], none⟩

def isSuccess (status : Nat) : Bool := 200 ≤ status && status < 300

end Response

end AuthzClient.Http
