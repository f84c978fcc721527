import AuthzClient.Json.Decoder
import AuthzClient.Log

/-!
One line of a stream: an item, an error that the server reports for it, or the reason why it is neither.
-/

namespace AuthzClient.Stream

/-- An error that the server sends in the place of an item. -/
structure Status where
  code : Int
  message : String
  deriving DecidableEq, Repr

def Status.text (status : Status) : String :=
  if status.message.isEmpty then "code " ++ toString status.code else status.message

inductive Defect
  /-- It is not of the form of an entry. -/
  | unreadable (fault : Json.Fault)
  /-- It is an entry with nothing in it. -/
  | vacant
  deriving DecidableEq, Repr

/-- Why a line gives no item. Lines are numbered from one. -/
inductive LineError
  | status (reported : Status)
  | decode (line : Nat) (defect : Defect)
  | tooLong (line limit : Nat)
  | notUtf8 (line : Nat)
  deriving DecidableEq, Repr

namespace LineError

/-- The sentence about a line; nothing where it depends on a sentence that is not fixed. -/
def message? : LineError → Option String
  | status reported => some ("Stream error: " ++ reported.text)
  | decode line .vacant =>
    some ("line " ++ toString line ++ ": malformed stream entry: entry has neither \x60result\x60 nor \x60error\x60")
  | decode _ (.unreadable _) => none
  | tooLong line limit => some ("line " ++ toString line ++ ": longer than " ++ toString limit ++ " bytes")
  | notUtf8 line => some ("line " ++ toString line ++ ": not valid UTF-8")

/-- What is recorded about a line; an error that the server reports is nothing to record. -/
def toLog? : LineError → Option Log
  | status _ => none
  | decode line .vacant => some ⟨.warn, "Stream entry has neither result nor error", [("line", toString line)]⟩
  | decode line (.unreadable _) => some ⟨.warn, "Failed to decode stream entry", [("line", toString line)]⟩
  | tooLong line limit =>
    some ⟨.warn, "Stream line too long", [("line", toString line), ("limit", toString limit)]⟩
  | notUtf8 line => some ⟨.warn, "Stream line is not valid UTF-8", [("line", toString line)]⟩

end LineError

abbrev Outcome (α : Type) := Except LineError α

open Json

/-- A number of 32 bits with a sign. -/
def code : Decoder Int := Decoder.integer (-0x8000_0000) 0x7fff_ffff

/-- The members of an error; both may be left out. -/
def statusFields : List (Decoder.Field Status) := [
  .defaulted "code" code fun value status => { status with code := value },
  .defaulted "message" Decoder.text fun value status => { status with message := value }]

def statusDecoder : Decoder Status := Decoder.record statusFields ⟨0, ""⟩

structure Entry (α : Type) where
  result : Option α
  error : Option Status

/-- The members of a line; both may be left out or null. -/
def entryFields {α : Type} (item : Decoder α) : List (Decoder.Field (Entry α)) := [
  .optional "result" item fun value entry => { entry with result := value },
  .optional "error" statusDecoder fun value entry => { entry with error := value }]

def entryDecoder {α : Type} (item : Decoder α) : Decoder (Entry α) := Decoder.record (entryFields item) ⟨none, none⟩

/-- What the text of a line gives. An item counts before an error. -/
def readEntry {α : Type} (item : Decoder α) (line : Nat) (bytes : List UInt8) : Outcome α :=
  match (entryDecoder item).read bytes with
  | .error fault => .error (.decode line (.unreadable fault))
  | .ok ⟨some value, _⟩ => .ok value
  | .ok ⟨none, some status⟩ => .error (.status status)
  | .ok ⟨none, none⟩ => .error (.decode line .vacant)

def objectFields : List (Decoder.Field String) := [.required "object" Decoder.text fun value _ => value]

def objectDecoder : Decoder String := Decoder.record objectFields ""

end AuthzClient.Stream
