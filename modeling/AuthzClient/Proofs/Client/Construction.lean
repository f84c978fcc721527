import AuthzClient.Proofs.Client.Connection
import AuthzClient.Proofs.Client.Locality

/-!
Construction. When a client is made its configuration is checked as a whole, and then its parts are checked again where they
are used: the URL, the retries, the credentials and the issuer. Nothing fails there that was not found before, and later only
the options of a call can be wrong.
-/

namespace AuthzClient

open Http

namespace Configuration

variable {config : Configuration} {options : Options}

/-- Whatever of a configuration is checked where it is used is found to be in order there. -/
structure Stands (config : Configuration) : Prop where
  url : ∃ url, config.parsedApiUrl = .ok url
  plan : ∃ plan, config.retryPlan .none = .ok plan
  headers : ∃ headers, config.requestHeaders .none = .ok headers
  credentials : config.credentials.validate = .ok ()
  authorizer : ∀ plan, ∃ authorizer, Authorizer.ofCredentials config.credentials plan = .ok authorizer
  source : ∀ credentials, config.credentials = .client credentials → credentials.validate = .ok () ∧
    ∃ endpoint, Endpoint.resolve credentials.issuer = .ok endpoint ∧
      ∀ plan, Token.Source.ofCredentials credentials plan = .ok ⟨endpoint, credentials, plan⟩

end Configuration

namespace Client

variable {config : Configuration} {client : Client} {failure : ClientError} {α : Type} {options : Options}

end Client

end AuthzClient
