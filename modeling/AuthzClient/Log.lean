/-!
Records of what a client does while it works, for whoever watches it.
-/

namespace AuthzClient

inductive Log.Level
  | debug
  | warn
  deriving DecidableEq, Repr

/-- A record: a fixed sentence, and named details as text. -/
structure Log where
  level : Log.Level
  message : String
  details : List (String × String)
  deriving DecidableEq, Repr

end AuthzClient
