import AuthzClient.Secret
import AuthzClient.Time.Span

/-!
Access tokens with their expiry. A token stops being used some minutes before it expires; part of that margin is drawn
at random on every check, so that processes with the same credentials do not all renew at the same moment.
-/

namespace AuthzClient

/-- A token and the instant at which it expires, if it does. -/
structure AccessToken where
  value : Secret
  expiry : Option Instant
  deriving DecidableEq, Repr

namespace AccessToken

/-- The fixed part of the margin before the expiry. -/
def buffer : Span := Span.ofSeconds 300

/-- A token that lives for a given time from now on; one whose expiry is no instant does not expire. -/
def livingFor (value : Secret) (now : Instant) (life : Option Span) : AccessToken := ⟨value, life.bind now.add?⟩

/-- Whether a token can be used at an instant, with a given random part of the margin. -/
def isValidAt (token : AccessToken) (now : Instant) (jitter : Span) : Bool :=
  if token.value.isBlank then false
  else
    match token.expiry with
    | none => true
    | some expiry =>
      match expiry.sub? (buffer.add jitter) with
      | some renewal => now.nanos < renewal.nanos
      | none => false

/-- The diagnostic text of a token that does not expire. -/
def describeEndless : String := "AccessToken \x7b value: " ++ Secret.shown ++ ", expires_at: None \x7d"

end AccessToken

end AuthzClient
