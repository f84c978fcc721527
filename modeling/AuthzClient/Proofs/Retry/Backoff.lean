import AuthzClient.Proofs.Retry.Delays

/-!
The backoff over all numbers that can be drawn. Each wait lies in a window of its own, and the window of a later attempt
begins where that of an earlier one ends: no draws can turn the order of two waits around.
-/

namespace AuthzClient.Retry

section Windows

variable {attempt later : Nat}

theorem factor_mono (before : attempt ≤ later) : factor attempt ≤ factor later := by
  have grows : 2 ^ attempt ≤ 2 ^ later := Nat.pow_le_pow_right (by decide) before
  rw [factor_eq, factor_eq]
  omega

/-- One base more than the factor of an attempt is no more than the factor of the next one. -/
theorem factor_succ (few : attempt ≤ 31) : factor attempt + 1 ≤ factor (attempt + 1) := by
  have least : 1 ≤ 2 ^ attempt := Nat.one_le_two_pow
  have most : 2 ^ attempt ≤ 2 ^ 31 := Nat.pow_le_pow_right (by decide) few
  rw [factor_eq, factor_eq, Nat.pow_succ]
  omega

theorem delay_le_of_lt (few : attempt ≤ 31) (before : attempt < later) (draws other : Draws) (minimum : Option Span) :
    (delay draws none attempt minimum).1.nanos ≤ (delay other none later minimum).1.nanos := by
  obtain ⟨jitter, less, earlier⟩ := exists_jitter draws attempt minimum
  obtain ⟨more, _, behind⟩ := exists_jitter other later minimum
  have next : factor attempt + 1 ≤ factor later := Nat.le_trans (factor_succ few) (factor_mono before)
  have apart : (base minimum).nanos * factor attempt + (base minimum).nanos ≤ (base minimum).nanos * factor later := by
    rw [← Nat.mul_succ]
    exact Nat.mul_le_mul_left _ next
  rw [earlier, behind]
  omega

end Windows

/-- The delay that the server asks for is kept, a millisecond at least, and nothing is drawn for it. Otherwise the range of
the random part is never empty, and the backoff is the base times the factor and a random part below the base, cut at the
longest span; up to the attempt 31 it stays below twice its least value and below every later backoff. -/
theorem delay_of_draws (draws other : Draws) (attempt : Nat) (minimum : Option Span) :
    0 < jitterBound (base minimum) ∧
    (base minimum).nanos = ((minimum.map Span.nanos).filter (0 < ·)).getD (100 * Time.millisecond) ∧
    (∀ server, (delay draws (some server) attempt minimum).1.nanos = max server.nanos (1 * Time.millisecond) ∧
      (delay draws (some server) attempt minimum).2 = 0) ∧
    (∃ jitter, jitter < (base minimum).nanos ∧ (delay draws none attempt minimum).1.nanos =
      min Span.longest ((base minimum).nanos * min (2 ^ attempt) (2 ^ 32 - 1) + jitter)) ∧
    (attempt ≤ 31 → 2 ^ attempt * (base minimum).nanos ≤ Span.longest →
      2 ^ attempt * (base minimum).nanos ≤ (delay draws none attempt minimum).1.nanos ∧
        (delay draws none attempt minimum).1.nanos < 2 ^ (attempt + 1) * (base minimum).nanos) ∧
    ∀ later, attempt ≤ 31 → attempt < later →
      (delay draws none attempt minimum).1.nanos ≤ (delay other none later minimum).1.nanos := by
  refine ⟨jitterBound_pos minimum, ?_, fun server => ⟨?_, rfl⟩, ?_, fun few exact => ?_,
    fun later few before => delay_le_of_lt few before draws other minimum⟩
  · cases minimum with
    | none => rfl
    | some span =>
      rw [Option.map_some, Option.filter_some, base]
      by_cases zero : span.nanos = 0
      · rw [if_pos zero, if_neg (by simp [zero])]
        rfl
      · rw [if_neg zero, if_pos (by simpa using Nat.pos_of_ne_zero zero), Option.getD_some]
  · have shortest : shortestServerDelay.nanos = 1 * Time.millisecond := rfl
    simp only [delay, Span.longer]
    split <;> omega
  · rw [← factor_eq]
    exact exists_jitter draws attempt minimum
  · obtain ⟨lower, upper⟩ := delay_backoff draws few minimum exact
    have least : 1 ≤ 2 ^ attempt := Nat.one_le_two_pow
    have twice : 2 ^ attempt + 1 ≤ 2 ^ (attempt + 1) := by
      rw [Nat.pow_succ]
      omega
    exact ⟨lower, Nat.lt_of_lt_of_le upper (Nat.mul_le_mul_right _ twice)⟩

/-- A base of more nanoseconds than 64 bits count, the highest number drawn first and the lowest one later. -/
theorem delay_of_draws_long :
    2 ^ 3 * (base (some (.ofSeconds 20000000000))).nanos ≤ Span.longest ∧
      (delay (fun _ => 0xffff_ffff_ffff_ffff) none 3 (some (.ofSeconds 20000000000))).1.nanos <
        2 ^ 4 * 20000000000000000000 ∧
      (delay (fun _ => 0xffff_ffff_ffff_ffff) none 3 (some (.ofSeconds 20000000000))).1.nanos ≤
        (delay (fun _ => 0) none 4 (some (.ofSeconds 20000000000))).1.nanos := by
  obtain ⟨_, _, _, _, window, order⟩ :=
    delay_of_draws (fun _ => 0xffff_ffff_ffff_ffff) (fun _ => 0) 3 (some (.ofSeconds 20000000000))
  have exact : 2 ^ 3 * (base (some (.ofSeconds 20000000000))).nanos ≤ Span.longest := by decide
  exact ⟨exact, (window (by decide) exact).2, order 4 (by decide) (by decide)⟩

end AuthzClient.Retry
