import AuthzClient.Url.Basic
import AuthzClient.Url.Form

/-!
Pairs in the query of a URL.
-/

namespace AuthzClient.Url

/-- The URL with a form put at the end of its query. -/
def appendPairs (pairs : List (String × String)) (url : Url) : Url :=
  let written := Form.encode pairs
  let query := match url.query with
    | some query => if query.isEmpty then written else query.toList ++ '&' :: written
    | none => written
  { url with query := some (String.ofList query) }

end AuthzClient.Url
