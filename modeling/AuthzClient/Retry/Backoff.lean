import AuthzClient.Time.Span

/-!
How long to wait before a request is sent again. The server's own delay is kept, one millisecond at least; without one
the wait doubles with every attempt and a random part below the base is added.
-/

namespace AuthzClient.Retry

/-- Statuses after which a request is sent again: too many requests, and server errors other than 501. -/
def shouldRetry (status : Nat) : Bool := status == 429 || ((500 ≤ status && status < 600) && status != 501)

/-- The base of the backoff unless another is configured. -/
def defaultBase : Span := Span.ofMillis 100

/-- How often a request is sent again unless configured otherwise. -/
def defaultRetries : Nat := 3

def retriesLimit : Nat := 15

def shortestServerDelay : Span := Span.ofMillis 1

/-- A source of random 64-bit numbers. -/
abbrev Draws := Nat → UInt64

/-- The high and the low half of a product of two 64-bit numbers. -/
def wideProduct (x : UInt64) (n : Nat) : Nat × Nat :=
  (x.toNat * n / 0x1_0000_0000_0000_0000, x.toNat * n % 0x1_0000_0000_0000_0000)

/-- A number below `n`, for `n` from 1 to `2 ^ 64 - 1`, and how many draws it took. The high half of a product with one
draw decides; a second draw settles the carry where the low half leaves it open. -/
def below (draws : Draws) (n : Nat) : Nat × Nat :=
  let (high, low) := wideProduct (draws 0) n
  if low > 0x1_0000_0000_0000_0000 - n then
    let (more, _) := wideProduct (draws 1) n
    (if low + more ≥ 0x1_0000_0000_0000_0000 then high + 1 else high, 2)
  else (high, 1)

/-- The base of the backoff: the configured one unless it is missing or zero. -/
def base (minimum : Option Span) : Span :=
  match minimum with
  | some span => if span.nanos = 0 then defaultBase else span
  | none => defaultBase

/-- The factor of an attempt: doubled each time, at most `2 ^ 32 - 1`. -/
def factor (attempt : Nat) : Nat := if attempt < 32 then Nat.pow 2 attempt else 0xffff_ffff

def jitterBound (base : Span) : Nat := min base.nanos 0xffff_ffff_ffff_ffff

/-- The wait after an attempt, counted from 0, and how many draws it took. -/
def delay (draws : Draws) (server : Option Span) (attempt : Nat) (minimum : Option Span) : Span × Nat :=
  match server with
  | some span => (span.longer shortestServerDelay, 0)
  | none =>
    let base := base minimum
    let (jitter, used) := below draws (jitterBound base)
    ((base.scale (factor attempt)).add (Span.clamp jitter), used)

end AuthzClient.Retry
