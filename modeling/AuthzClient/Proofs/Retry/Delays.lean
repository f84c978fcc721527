import AuthzClient.Retry.After
import AuthzClient.Retry.Backoff
import Mathlib.Algebra.Group.Nat.Defs

/-!
How long the waits are: exactly as long as the server asks for within its bounds, and otherwise between the factor of
the attempt times the base and one base more.
-/

namespace AuthzClient.Retry

open Text

/-- A text asks for a delay at an instant: it is a number of seconds, or no such number but a date that far ahead, and
the delay is neither shorter than one second nor longer than half an hour. -/
def Gives (value : String) (now : Instant) (span : Span) : Prop :=
  ((∃ n, seconds? (trimChars value.toList) = some n ∧ (span.nanos : Int) = n * Time.second) ∨
    (seconds? (trimChars value.toList) = none ∧
      ∃ date, HttpDate.parse? (trimChars value.toList) = some date ∧ (span.nanos : Int) = date - now.nanos)) ∧
  1 * Time.second ≤ span.nanos ∧ span.nanos ≤ 1800 * Time.second

theorem within_iff (span : Span) :
    (shortestAfter.nanos ≤ span.nanos && span.nanos ≤ longestAfter.nanos) = true ↔
      1 * Time.second ≤ span.nanos ∧ span.nanos ≤ 1800 * Time.second := by
  rw [Bool.and_eq_true, decide_eq_true_eq, decide_eq_true_eq]
  rfl

/-- A number of seconds within the bounds is the span that it asks for. -/
theorem ofSeconds_eq_iff {n : Int} {span : Span} (lower : 1 * Time.second ≤ span.nanos)
    (upper : span.nanos ≤ 1800 * Time.second) :
    (if n ≤ 0 then none else some (Span.ofSeconds n.toNat)) = some span ↔ (span.nanos : Int) = n * Time.second := by
  simp only [Time.second] at lower upper ⊢
  have longest : Span.longest = 0x1_0000_0000_0000_0000 * 1000000000 - 1 := rfl
  constructor
  · intro same
    split at same
    · cases same
    · cases same
      simp only [Span.ofSeconds, Span.clamp_nanos, Time.second] at upper ⊢
      omega
  · intro same
    rw [if_neg (by omega)]
    refine congrArg some (Span.eq_of_nanos ?_)
    simp only [Span.ofSeconds, Span.clamp_nanos, Time.second]
    omega

theorem date_eq_iff {date : Nat} {now : Instant} {span : Span} (lower : 1 * Time.second ≤ span.nanos) :
    (if now.nanos ≤ date then Span.ofNanos? (date - now.nanos).toNat else none) = some span ↔
      (span.nanos : Int) = date - now.nanos := by
  have second : Time.second = 1000000000 := rfl
  have range := span.in_range
  constructor
  · intro same
    split at same
    · unfold Span.ofNanos? at same
      split at same
      · cases same
        exact Int.toNat_of_nonneg (by omega)
      · cases same
    · cases same
  · intro same
    have ahead : (date - now.nanos).toNat = span.nanos := by omega
    rw [if_pos (by omega), Span.ofNanos?, ahead, dif_pos range]

theorem afterText?_eq_some_iff {value : String} {now : Instant} {span : Span} :
    afterText? value now = some span ↔ Gives value now span := by
  rw [afterText?, Option.filter_eq_some_iff, within_iff, Gives]
  refine and_congr_left fun ⟨lower, upper⟩ => ?_
  simp only [asked?]
  cases seconds? (trimChars value.toList) with
  | some n => simpa using ofSeconds_eq_iff lower upper
  | none =>
    cases HttpDate.parse? (trimChars value.toList) with
    | some date => simpa using date_eq_iff lower
    | none => simp

/-- A random number below a bound is below it: a carry never reaches the highest one. -/
theorem below_lt (draws : Draws) {n : Nat} (positive : 0 < n) (small : n ≤ 0xffff_ffff_ffff_ffff) :
    (below draws n).1 < n := by
  have drawn : (draws 0).toNat < 0x1_0000_0000_0000_0000 := (draws 0).toNat_lt
  have product : (draws 0).toNat * n + n ≤ 0x1_0000_0000_0000_0000 * n := by
    rw [← Nat.succ_mul]
    exact Nat.mul_le_mul_right n drawn
  unfold below wideProduct
  dsimp only
  split
  · dsimp only
    split <;> omega
  · dsimp only
    omega

theorem delay_server {span : Span} (long : 1 * Time.second ≤ span.nanos) (draws : Draws) (attempt : Nat)
    (minimum : Option Span) : (delay draws (some span) attempt minimum).1 = span := by
  have above : shortestServerDelay.nanos ≤ span.nanos := Nat.le_trans (by decide) long
  simp only [delay, Span.longer]
  exact if_neg (Nat.not_lt.mpr above)

theorem base_pos (minimum : Option Span) : 0 < (base minimum).nanos := by
  unfold base
  split
  · split
    · decide
    · omega
  · decide

theorem jitterBound_pos (minimum : Option Span) : 0 < jitterBound (base minimum) := by
  have positive := base_pos minimum
  unfold jitterBound
  omega

theorem factor_eq (attempt : Nat) : factor attempt = min (2 ^ attempt) (2 ^ 32 - 1) := by
  unfold factor
  split
  · rename_i few
    have small : 2 ^ attempt ≤ 2 ^ 31 := Nat.pow_le_pow_right (by decide) (by omega)
    exact (Nat.min_eq_left (Nat.le_trans small (by decide))).symm
  · rename_i many
    have large : 2 ^ 32 ≤ 2 ^ attempt := Nat.pow_le_pow_right (by decide) (by omega)
    exact (Nat.min_eq_right (Nat.le_trans (by decide) large)).symm

/-- The backoff in unbounded numbers: it is cut only once, at the longest span, and the random part is below the base. -/
theorem exists_jitter (draws : Draws) (attempt : Nat) (minimum : Option Span) :
    ∃ jitter, jitter < (base minimum).nanos ∧ (delay draws none attempt minimum).1.nanos =
      min Span.longest ((base minimum).nanos * factor attempt + jitter) := by
  have drawn : (below draws (jitterBound (base minimum))).1 < jitterBound (base minimum) :=
    below_lt draws (jitterBound_pos minimum) (Nat.min_le_right ..)
  have bound : jitterBound (base minimum) ≤ (base minimum).nanos := Nat.min_le_left ..
  refine ⟨_, Nat.lt_of_lt_of_le drawn bound, ?_⟩
  have representable := (base minimum).le_longest
  simp only [delay, Span.add, Span.scale, Span.clamp_nanos]
  omega

theorem delay_backoff (draws : Draws) {attempt : Nat} (few : attempt ≤ 31) (minimum : Option Span)
    (exact : 2 ^ attempt * (base minimum).nanos ≤ Span.longest) :
    2 ^ attempt * (base minimum).nanos ≤ (delay draws none attempt minimum).1.nanos ∧
      (delay draws none attempt minimum).1.nanos < (2 ^ attempt + 1) * (base minimum).nanos := by
  obtain ⟨jitter, less, same⟩ := exists_jitter draws attempt minimum
  have factor : factor attempt = 2 ^ attempt := if_pos (by omega)
  rw [same, factor, Nat.add_mul, Nat.one_mul, Nat.mul_comm (base minimum).nanos]
  omega

end AuthzClient.Retry
