import AuthzClient.Token.Access

/-!
When a token can be used, said without the bounds of spans and instants. The margin before the expiry may be cut at the
longest span, and the instant that lies one margin before the expiry may not exist; in both cases the token is refused,
and the plain comparison of the three numbers refuses it as well.
-/

namespace AuthzClient.AccessToken

open Time

/-- A margin that is cut at the longest span is not shorter than any two instants are apart. -/
theorem buffer_add_nanos (jitter : Span) : (buffer.add jitter).nanos = min (300 * second + jitter.nanos) Span.longest :=
  rfl

/-- An instant lies before the start of the margin if and only if the whole margin fits between it and the expiry. -/
theorem before_margin_iff (expiry now : Instant) (jitter : Span) :
    (∃ renewal, expiry.sub? (buffer.add jitter) = some renewal ∧ now.nanos < renewal.nanos) ↔
      now.nanos + 300 * second + jitter.nanos < expiry.nanos := by
  have first := now.after_first
  have last := expiry.before_end
  have margin := buffer_add_nanos jitter
  unfold Span.longest at margin
  simp only [Instant.sub?, Instant.ofNanos?_eq_some_iff]
  constructor
  · rintro ⟨renewal, same, before⟩
    omega
  · intro ahead
    have uncut : (buffer.add jitter).nanos = 300 * second + jitter.nanos := by omega
    refine ⟨⟨expiry.nanos - (buffer.add jitter).nanos, ?_, ?_⟩, rfl, ?_⟩
    · omega
    · omega
    · dsimp only
      omega

theorem isValidAt_iff (token : AccessToken) (now : Instant) (jitter : Span) :
    token.isValidAt now jitter = true ↔ token.value.isBlank = false ∧ ∀ expiry, token.expiry = some expiry →
      now.nanos + 300 * second + jitter.nanos < expiry.nanos := by
  unfold isValidAt
  cases token.value.isBlank with
  | true => simp
  | false =>
    cases token.expiry with
    | none => simp
    | some expiry =>
      simp only [Bool.false_eq_true, if_false, true_and, Option.some.injEq, forall_eq', ← before_margin_iff]
      cases expiry.sub? (buffer.add jitter) <;> simp

/-- An earlier look and a smaller random part find every token valid that a later look finds valid. -/
theorem isValidAt_antitone {token : AccessToken} {now earlier : Instant} {jitter less : Span}
    (before : earlier.nanos ≤ now.nanos) (smaller : less.nanos ≤ jitter.nanos)
    (valid : token.isValidAt now jitter = true) : token.isValidAt earlier less = true := by
  obtain ⟨filled, ahead⟩ := (isValidAt_iff token now jitter).mp valid
  refine (isValidAt_iff token earlier less).mpr ⟨filled, fun expiry expires => ?_⟩
  have fits := ahead expiry expires
  omega

theorem expiry_livingFor_iff (value : Secret) (now expiry : Instant) (life : Span) :
    (livingFor value now (some life)).expiry = some expiry ↔ expiry.nanos = now.nanos + life.nanos :=
  Instant.ofNanos?_eq_some_iff

/-- A lifetime leads out of the instants at their end only. -/
theorem expiry_livingFor_eq_none_iff (value : Secret) (now : Instant) (life : Span) :
    (livingFor value now (some life)).expiry = none ↔
      (0x8000_0000_0000_0000 * second : Int) ≤ now.nanos + life.nanos := by
  have first := now.after_first
  have left : (livingFor value now (some life)).expiry = none ↔ _ := Instant.ofNanos?_eq_none_iff
  rw [left]
  omega

/-- Validity is the exact comparison of the instant and the margin with the expiry, wherever the margin is cut and wherever
there is no instant one margin before the expiry. So it only ever ends, with the time as with the random part of the
margin, and between ten minutes and five minutes before the expiry. A token lives exactly as long as it is given, or
without end where that is no instant. -/
theorem isValidAt_window (token : AccessToken) (now : Instant) (jitter : Span) :
    (token.isValidAt now jitter = true ↔ token.value.isBlank = false ∧
      (token.expiry = none ∨ ∃ expiry, token.expiry = some expiry ∧
        now.nanos + 300 * second + jitter.nanos < expiry.nanos)) ∧
    (∀ earlier less, earlier.nanos ≤ now.nanos → less.nanos ≤ jitter.nanos → token.isValidAt now jitter = true →
      token.isValidAt earlier less = true) ∧
    (∀ expiry, token.value.isBlank = false → token.expiry = some expiry → jitter.nanos ≤ 300 * second →
      (now.nanos < expiry.nanos - 600 * second → token.isValidAt now jitter = true) ∧
        (expiry.nanos - 300 * second ≤ now.nanos → token.isValidAt now jitter = false)) ∧
    ∀ value life, (livingFor value now (some life)).value = value ∧
      (∀ expiry, (livingFor value now (some life)).expiry = some expiry ↔ expiry.nanos = now.nanos + life.nanos) ∧
      ((livingFor value now (some life)).expiry = none ↔
        (0x8000_0000_0000_0000 * second : Int) ≤ now.nanos + life.nanos) := by
  have exact := isValidAt_iff token now jitter
  refine ⟨?_, fun earlier less => isValidAt_antitone, fun expiry filled expires few => ⟨fun early => ?_, fun late => ?_⟩,
    fun value life => ⟨rfl, fun expiry => expiry_livingFor_iff value now expiry life,
      expiry_livingFor_eq_none_iff value now life⟩⟩
  · rw [exact]
    cases token.expiry <;> simp
  · refine exact.mpr ⟨filled, fun other same => ?_⟩
    cases expires.symm.trans same
    omega
  · refine Bool.eq_false_iff.mpr fun valid => ?_
    have ahead := (exact.mp valid).2 expiry expires
    omega

/-- A token of an hour: valid with the largest random part just before the last ten minutes, and still an hour earlier, and
refused with none at all once five minutes are left. -/
theorem isValidAt_window_hourly :
    (livingFor ⟨"token"⟩ .epoch (some (.ofSeconds 3600))).isValidAt ⟨2999 * second, by decide, by decide⟩
        (.ofSeconds 300) = true ∧
      (livingFor ⟨"token"⟩ .epoch (some (.ofSeconds 3600))).isValidAt ⟨-601 * second, by decide, by decide⟩ .zero =
        true ∧
      (livingFor ⟨"token"⟩ .epoch (some (.ofSeconds 3600))).isValidAt ⟨3300 * second, by decide, by decide⟩ .zero =
        false := by
  obtain ⟨_, antitone, window, _⟩ := isValidAt_window (livingFor ⟨"token"⟩ .epoch (some (.ofSeconds 3600)))
    ⟨2999 * second, by decide, by decide⟩ (.ofSeconds 300)
  obtain ⟨_, _, closed, _⟩ := isValidAt_window (livingFor ⟨"token"⟩ .epoch (some (.ofSeconds 3600)))
    ⟨3300 * second, by decide, by decide⟩ .zero
  have valid := (window ⟨3600 * second, by decide, by decide⟩ (by decide) (by decide) (by decide)).1 (by decide)
  have refused := (closed ⟨3600 * second, by decide, by decide⟩ (by decide) (by decide) (by decide)).2 (by decide)
  exact ⟨valid, antitone _ _ (by decide) (by decide) valid, refused⟩

/-- The longest margin of all reaches from the last instant to the first one, where it is cut. -/
example : (AccessToken.mk ⟨"token"⟩ (some ⟨0x8000_0000_0000_0000 * second - 1, by decide, by decide⟩)).isValidAt
    ⟨-(0x8000_0000_0000_0000 * second), by decide, by decide⟩ ⟨Span.longest, by decide⟩ = false := by
  decide +kernel

end AuthzClient.AccessToken
