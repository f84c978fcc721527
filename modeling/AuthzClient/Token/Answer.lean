import AuthzClient.Json.Decoder
import AuthzClient.Secret

/-!
Answers of a token endpoint.
-/

namespace AuthzClient.Token

structure Answer where
  accessToken : Secret
  /-- Seconds from now; without them the token does not expire. -/
  expiresIn : Option Nat
  tokenType : Option String
  deriving Repr

namespace Answer

open Json

/-- A text that is not blank. -/
def credential : Decoder Secret := Decoder.text.check fun s => if Text.isBlank s then none else some ⟨s⟩

def seconds : Decoder Nat := fun fuel room bs =>
  (Decoder.integer 0 0xffff_ffff_ffff_ffff fuel room bs).map fun (n, rest) => (n.toNat, rest)

/-- The members of an answer; all but the first may be left out. -/
def fields : List (Decoder.Field Answer) := [
  .required "access_token" credential fun value answer => { answer with accessToken := value },
  .defaulted "expires_in" (Decoder.nullable seconds) fun value answer => { answer with expiresIn := value },
  .defaulted "token_type" (Decoder.nullable Decoder.text) fun value answer => { answer with tokenType := value }]

def read (body : List UInt8) : Except Fault Answer := (Decoder.record fields ⟨⟨""⟩, none, none⟩).read body

/-- Whether the answer says that the token is no bearer token; letters of either case are taken. -/
def foreignType? (answer : Answer) : Option String :=
  answer.tokenType.filter fun type => Text.lower type != "bearer"

end Answer

end AuthzClient.Token
