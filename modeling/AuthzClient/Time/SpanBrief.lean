import AuthzClient.Time.Span

/-!
The brief text of a span: a decimal number of the largest unit that is not below one, from nanoseconds to seconds.
-/

namespace AuthzClient.SpanBrief

/-- The digits of a fraction behind its point, zeros at the end left out. `width` digits are significant. -/
def fractionDigits (n width : Nat) : List Char :=
  let digits := Nat.toDigits 10 n
  ((List.replicate (width - digits.length) '0' ++ digits).reverse.dropWhile (· == '0')).reverse

/-- A number with a fraction of `width` digits, and a unit. -/
def decimal (whole fraction width : Nat) (unit : String) : String :=
  let digits := if fraction = 0 then [] else '.' :: fractionDigits fraction width
  String.ofList (Nat.toDigits 10 whole ++ digits) ++ unit

def write (span : Span) : String :=
  let nanos := span.subNanos
  if span.seconds > 0 then decimal span.seconds nanos 9 "s"
  else if nanos ≥ 1000000 then decimal (nanos / 1000000) (nanos % 1000000) 6 "ms"
  else if nanos ≥ 1000 then decimal (nanos / 1000) (nanos % 1000) 3 "µs"
  else decimal nanos 0 0 "ns"

end AuthzClient.SpanBrief
