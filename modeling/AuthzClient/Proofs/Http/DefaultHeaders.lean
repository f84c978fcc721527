import AuthzClient.Http.DefaultHeaders
import AuthzClient.Proofs.Http.Headers

/-!
Default headers. Of the configured ones, the user agent first and then the others, the last of each name is kept; a message
gets those whose names it does not have yet, and keeps all that it has.
-/

namespace AuthzClient

open Http

namespace Http.Headers

end Http.Headers

namespace Http.DefaultHeaders

open Headers

variable {userAgent : String} {defaults entries : List (String × String)} {gathered layer headers : Headers}

/-- All headers that a layer is made of, in the order in which they are configured. -/
def configured (userAgent : String) (defaults : List (String × String)) : List (String × String) :=
  ("User-Agent", userAgent) :: defaults

/-- One name in two cases, and a user agent of its own. -/
def repeated : List (String × String) :=
  [("Accept", "text/html"), ("X-Trace", "1"), ("x-trace", "2"), ("USER-AGENT", "mine")]

end Http.DefaultHeaders

end AuthzClient
