import AuthzClient.Text.Blank

/-!
Secrets: texts that are sent but never shown.
-/

namespace AuthzClient

structure Secret where
  /-- The credential in clear, for the header or the form that sends it. -/
  exposed : String
  deriving DecidableEq

namespace Secret

def shown : String := "[REDACTED]"

def isBlank (secret : Secret) : Bool := Text.isBlank secret.exposed

instance : Repr Secret := ⟨fun _ _ => shown⟩

end Secret

end AuthzClient
