import AuthzClient.Proofs.Settings.Shown

/-!
Settings of spans in all their forms. A span is shown as its text and read from it again; where it may be absent it is
shown as null, and nothing else is read in another way than where it may not. A number counts milliseconds.
-/

namespace AuthzClient.Settings

open Time

/-- What is shown of a span that may be absent. -/
def shownSpan (length : Option Span) : Json := Json.ofText? (length.map SpanText.write)

theorem span?_shownSpan (length : Option Span) : span? (shownSpan length) = .ok length := by
  cases length with
  | none => rfl
  | some length =>
    have back : span (.text (SpanText.write length)) = .ok length := span_write length
    rw [shownSpan, Option.map_some, Json.ofText?, span?, back]
    · rfl
    · exact fun null => nomatch null

/-- Where a span may be absent, only null is read as its absence. -/
theorem span?_of_ne_null {value : Json} (given : value ≠ .null) : span? value = (span value).map some := by
  cases value <;> first | exact absurd rfl given | rfl

theorem isHuge_ofNat {n : Nat} (bound : n < 0x1_0000_0000_0000_0000) : isHuge n = false := by
  simp only [isHuge, Bool.or_eq_false_iff, decide_eq_false_iff_not]
  omega

/-- No number of 64 bits counts more milliseconds than the longest span has. -/
theorem ofMillis_nanos {n : Nat} (bound : n < 0x1_0000_0000_0000_0000) : (Span.ofMillis n).nanos = n * millisecond := by
  refine Span.clamp_nanos_of_le ?_
  unfold Span.longest millisecond second
  omega

theorem span_ofNat {n : Nat} (bound : n < 0x1_0000_0000_0000_0000) : span (Json.ofNat n) = .ok (Span.ofMillis n) := by
  have natural : ¬(n : Int) < 0 := by omega
  rw [Json.ofNat, span, isHuge_ofNat bound, if_neg Bool.false_ne_true, if_neg natural, Int.toNat_natCast]

theorem span_negative {n : Int} (negative : n < 0) : ∃ fault, span (.number (.whole n)) = .error ([], fault) := by
  rw [span]
  cases isHuge n with
  | true => exact ⟨.type, rfl⟩
  | false => exact ⟨.value, if_pos negative⟩

/-- Every span is read from its text as it was, also where it may be absent; its absence is read from null. On everything
that is not null the two readers agree, in what they refuse as in what they read. A number of 64 bits without a sign
is read as exactly that many milliseconds, and one below zero is refused by both. -/
theorem span_of_shown (length : Span) (optional : Option Span) :
    span (.text (SpanText.write length)) = .ok length ∧
    shownSpan (some length) = .text (SpanText.write length) ∧ shownSpan none = .null ∧
    span? (shownSpan optional) = .ok optional ∧
    (∀ value, value ≠ .null → span? value = (span value).map some) ∧
    (∀ n : Nat, n < 0x1_0000_0000_0000_0000 → ∃ counted, span (Json.ofNat n) = .ok counted ∧
      counted.nanos = n * millisecond) ∧
    ∀ n : Int, n < 0 → ∃ fault, span (.number (.whole n)) = .error ([], fault) ∧
      span? (.number (.whole n)) = .error ([], fault) := by
  refine ⟨span_write length, rfl, rfl, span?_shownSpan optional, fun value => span?_of_ne_null,
    fun n bound => ⟨_, span_ofNat bound, ofMillis_nanos bound⟩, fun n negative => ?_⟩
  obtain ⟨fault, refused⟩ := span_negative negative
  have given : Json.number (.whole n) ≠ .null := fun null => nomatch null
  refine ⟨fault, refused, ?_⟩
  rw [span?_of_ne_null given, refused]
  rfl

/-- The longest span, a text with a fraction where a span may be absent, the largest number, and the least one that is
refused. -/
theorem span_of_shown_longest :
    span (.text (SpanText.write ⟨Span.longest, by decide⟩)) = .ok ⟨Span.longest, by decide⟩ ∧
      span? (.text " 1.5s ") = (span (.text " 1.5s ")).map some ∧
      (∃ counted, span (Json.ofNat 0xffff_ffff_ffff_ffff) = .ok counted ∧
        counted.nanos = 18446744073709551615000000) ∧
      ∃ fault, span (.number (.whole (-1))) = .error ([], fault) := by
  obtain ⟨back, _, _, _, agree, milliseconds, refused⟩ := span_of_shown ⟨Span.longest, by decide⟩ none
  obtain ⟨fault, below, _⟩ := refused (-1) (by decide)
  exact ⟨back, agree _ (fun null => nomatch null), milliseconds 0xffff_ffff_ffff_ffff (by decide), fault, below⟩

end AuthzClient.Settings
