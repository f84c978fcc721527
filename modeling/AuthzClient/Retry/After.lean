import AuthzClient.Http.Header
import AuthzClient.Time.HttpDate

/-!
The delay that a server asks for with its `Retry-After` header: a number of seconds or a date, taken only between one
second and half an hour.
-/

namespace AuthzClient.Retry

open Text

def shortestAfter : Span := Span.ofSeconds 1

def longestAfter : Span := Span.ofSeconds 1800

/-- The seconds that a text writes as a 64-bit number with an optional sign. -/
def seconds? (cs : List Char) : Option Int :=
  (parseInt? cs).filter fun n => -(0x8000_0000_0000_0000 : Int) ≤ n && n < (0x8000_0000_0000_0000 : Int)

/-- The span a text asks for at a given instant, whether it is taken or not. -/
def asked? (cs : List Char) (now : Instant) : Option Span :=
  match seconds? cs with
  | some n => if n ≤ 0 then none else some (Span.ofSeconds n.toNat)
  | none =>
    match HttpDate.parse? cs with
    | some date => if now.nanos ≤ date then Span.ofNanos? (date - now.nanos).toNat else none
    | none => none

/-- The delay that a header value gives at a given instant. -/
def afterText? (value : String) (now : Instant) : Option Span :=
  (asked? (trimChars value.toList) now).filter fun span =>
    shortestAfter.nanos ≤ span.nanos && span.nanos ≤ longestAfter.nanos

/-- The delay that the first `Retry-After` header gives at a given instant. -/
def afterHeaders? (headers : Http.Headers) (now : Instant) : Option Span :=
  (Http.Headers.text? Http.HeaderName.retryAfter headers).bind (afterText? · now)

end AuthzClient.Retry
