import AuthzClient.Text.Blank
import AuthzClient.Text.Utf8

/-!
Header names and values and the multimap of them that a message carries. Names are kept in lower case, so comparing
them ignores case; values are bytes.
-/

namespace AuthzClient.Http

def isTokenChar (c : Char) : Bool := c.isAlphanum || "!#$%&'*+-.^_\x60|~".toList.contains c

structure HeaderName where
  text : String
  deriving DecidableEq, Repr

namespace HeaderName

def longest : Nat := 65535

/-- The name that a text is, if it is one. -/
def ofString? (s : String) : Option HeaderName :=
  if !s.isEmpty && s.toList.all isTokenChar && s.utf8ByteSize ≤ longest then some ⟨Text.lower s⟩ else none

def authorization : HeaderName := ⟨"authorization"⟩
def contentType : HeaderName := ⟨"content-type"⟩
def userAgent : HeaderName := ⟨"user-agent"⟩
def retryAfter : HeaderName := ⟨"retry-after"⟩
def retryAttempt : HeaderName := ⟨"x-retry-attempt"⟩
def requestId : HeaderName := ⟨"x-request-id"⟩

end HeaderName

/-- A header value. A sensitive one is not to be shown. -/
structure HeaderValue where
  bytes : List UInt8
  sensitive : Bool
  deriving DecidableEq, Repr

namespace HeaderValue

/-- A byte that a header value can have: no control other than the tab. -/
def isLegal (b : UInt8) : Bool := (0x20 ≤ b && b != 0x7f) || b == 0x09

/-- A byte that is shown as a character of its own. -/
def isVisible (b : UInt8) : Bool := (0x20 ≤ b && b < 0x7f) || b == 0x09

/-- The value that bytes are, if they are one. -/
def ofBytes? (bs : List UInt8) : Option HeaderValue := if bs.all isLegal then some ⟨bs, false⟩ else none

/-- The value that a text is, if it is one. -/
def ofString? (s : String) : Option HeaderValue := ofBytes? (Text.Utf8.encode s)

def ofText (s : String) : HeaderValue := ⟨Text.Utf8.encode s, false⟩

/-- The text of a value that has only visible characters and tabs. -/
def text? (v : HeaderValue) : Option String :=
  if v.bytes.all isVisible then some (String.ofList (v.bytes.map fun b => Char.ofNat b.toNat)) else none

end HeaderValue

/-- Headers of a message in the order in which they were added. -/
abbrev Headers := List (HeaderName × HeaderValue)

namespace Headers

def values (name : HeaderName) (headers : Headers) : List HeaderValue :=
  headers.filterMap fun h => if h.1 = name then some h.2 else none

def first? (name : HeaderName) (headers : Headers) : Option HeaderValue :=
  (headers.find? fun h => h.1 = name).map (·.2)

def has (name : HeaderName) (headers : Headers) : Bool := headers.any fun h => h.1 = name

def remove (name : HeaderName) (headers : Headers) : Headers := headers.filter fun h => h.1 ≠ name

def append (name : HeaderName) (value : HeaderValue) (headers : Headers) : Headers := headers ++ [(name, value)]

/-- With one value of a name, in place of all it had. -/
def set (name : HeaderName) (value : HeaderValue) (headers : Headers) : Headers :=
  append name value (remove name headers)

/-- With the given headers wherever a name has none yet. -/
def fill (defaults headers : Headers) : Headers :=
  headers ++ defaults.filter fun h => !has h.1 headers

/-- The text of the first value of a name, if it has only visible characters. -/
def text? (name : HeaderName) (headers : Headers) : Option String := (first? name headers).bind HeaderValue.text?

end Headers

end AuthzClient.Http
