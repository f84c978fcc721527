import AuthzClient.Token.Access

/-!
The place where the token in use is held. Every token that is stored gets a number of its own, so a token is told apart
from the one that was there before, even if the server has issued the same text twice.
-/

namespace AuthzClient.Token

/-- A token with the number under which it was stored. -/
structure Held where
  token : AccessToken
  number : Nat
  deriving DecidableEq, Repr

/-- The place for one token. -/
structure Cache where
  held : Option Held
  /-- How many tokens were stored so far; the next one gets this number. -/
  stored : Nat
  deriving DecidableEq, Repr

namespace Cache

/-- No token was stored yet. -/
def empty : Cache := ⟨none, 0⟩

/-- The number of the token that is held. -/
def mark (cache : Cache) : Option Nat := cache.held.map (·.number)

/-- The token that is held, if it can be used at an instant with a given random part of the margin. -/
def usable? (now : Instant) (jitter : Span) (cache : Cache) : Option Held :=
  cache.held.filter fun held => held.token.isValidAt now jitter

/-- The token that is held, if it is another one than the one seen before. Whether it can be used is not asked: it was
stored after that look. -/
def renewed? (seen : Option Nat) (cache : Cache) : Option Held :=
  cache.held.filter fun held => some held.number ≠ seen

def store (token : AccessToken) (cache : Cache) : Cache := ⟨some ⟨token, cache.stored⟩, cache.stored + 1⟩

/-- Without the token held. -/
def invalidate (cache : Cache) : Cache := { cache with held := none }

/-- Nothing held counts as renewed for one who has just looked. -/
theorem renewed?_mark (cache : Cache) : cache.renewed? cache.mark = none := by
  cases h : cache.held with
  | none => simp [renewed?, h]
  | some held => simp [renewed?, mark, h, Option.filter]

end Cache

end AuthzClient.Token
