import AuthzClient.Proofs.Http.Headers
import AuthzClient.Proofs.Retry.Delays
import AuthzClient.Proofs.Text.Number
import AuthzClient.Proofs.Text.Trimming

/-!
What a server may ask for in a `Retry-After` header, by the form of the value: a number of seconds, or a date. A text that
writes a number of seconds is not read as a date, whatever the number is.
-/

namespace AuthzClient

open Text Http

namespace Retry

variable {cs : List Char} {now : Instant} {span : Span}

/-- A text writes a number of seconds that 64 bits with a sign can hold. -/
def WritesSeconds (cs : List Char) (n : Int) : Prop :=
  WritesInt cs n ∧ -(0x8000_0000_0000_0000 : Int) ≤ n ∧ n < (0x8000_0000_0000_0000 : Int)

theorem seconds?_eq_some_iff {n : Int} : seconds? cs = some n ↔ WritesSeconds cs n := by
  rw [seconds?, Option.filter_eq_some_iff, parseInt?_eq_some_iff, Bool.and_eq_true, decide_eq_true_eq, decide_eq_true_eq,
    WritesSeconds]

/-- A text asks for a delay at an instant: for a number of seconds, or for the time until a date. -/
inductive Takes (cs : List Char) (now : Instant) (span : Span) : Prop
  | seconds {n : Int} : WritesSeconds cs n → 1 ≤ n → n ≤ 1800 → (span.nanos : Int) = n * Time.second → Takes cs now span
  | date {date : Nat} : (∀ n, ¬WritesSeconds cs n) → HttpDate.parse? cs = some date →
      (span.nanos : Int) = date - now.nanos → 1 * Time.second ≤ span.nanos → span.nanos ≤ 1800 * Time.second →
      Takes cs now span

theorem gives_iff_takes {value : String} : Gives value now span ↔ Takes (trimChars value.toList) now span := by
  have unwritten : seconds? (trimChars value.toList) = none ↔ ∀ n, ¬WritesSeconds (trimChars value.toList) n := by
    simp only [← seconds?_eq_some_iff, Option.eq_none_iff_forall_ne_some, ne_eq]
  constructor
  · rintro ⟨⟨n, written, same⟩ | ⟨unwritable, date, dated, same⟩, lower, upper⟩
    · refine .seconds (seconds?_eq_some_iff.mp written) ?_ ?_ same <;> simp only [Time.second] at * <;> omega
    · exact .date (unwritten.mp unwritable) dated same lower upper
  · rintro (⟨written, least, most, same⟩ | ⟨unwritable, dated, same, lower, upper⟩)
    · refine ⟨Or.inl ⟨_, seconds?_eq_some_iff.mpr written, same⟩, ?_, ?_⟩ <;> simp only [Time.second] at * <;> omega
    · exact ⟨Or.inr ⟨unwritten.mpr unwritable, _, dated, same⟩, lower, upper⟩

/-- What a header asks for at any reading of the clock. Without the white space around it, its value takes exactly one of two
forms, the number and the date, and gives a delay exactly if that is within the bounds. Of several headers the first one
counts, and only if all of it is visible. -/
theorem afterHeaders_takes (now : Instant) :
    (∀ value : String, ∃ front core back, value.toList = front ++ (core ++ back) ∧ (∀ c ∈ front, isWhite c = true) ∧
      (∀ c ∈ back, isWhite c = true) ∧ IsTrimmed core ∧
      ∀ span, afterText? value now = some span ↔ Takes core now span) ∧
    ∀ headers span, afterHeaders? headers now = some span ↔
      ∃ first others text, Headers.values .retryAfter headers = first :: others ∧ first.bytes = Utf8.encode text ∧
        (∀ b ∈ first.bytes, HeaderValue.isVisible b = true) ∧ afterText? text now = some span := by
  constructor
  · intro value
    obtain ⟨front, back, whole, left, right⟩ := exists_trimmed value.toList
    exact ⟨front, _, back, whole, left, right, isTrimmed_trimChars _,
      fun span => afterText?_eq_some_iff.trans gives_iff_takes⟩
  · intro headers span
    rw [afterHeaders?, Headers.text?, Headers.first?_eq_head?, Option.bind_eq_some_iff]
    constructor
    · rintro ⟨text, shown, asked⟩
      obtain ⟨first, head, shown⟩ := Option.bind_eq_some_iff.mp shown
      obtain ⟨others, values⟩ := List.head?_eq_some_iff.mp head
      obtain ⟨same, visible⟩ := HeaderValue.text?_eq_some_iff.mp shown
      exact ⟨first, others, text, values, same, visible, asked⟩
    · rintro ⟨first, others, text, values, same, visible, asked⟩
      refine ⟨text, ?_, asked⟩
      rw [values]
      exact HeaderValue.text?_eq_some_iff.mpr ⟨same, visible⟩

/-- One nanosecond more than half an hour before the date is too early. -/
example :
    afterText? "Sunday, 06-Nov-94 09:19:37 GMT" ⟨784111777 * Time.second, by decide, by decide⟩ =
        some (Span.ofSeconds 1800) ∧
      afterText? "Sunday, 06-Nov-94 09:19:37 GMT" ⟨784111777 * Time.second - 1, by decide, by decide⟩ = none ∧
      afterText? "9223372036854775808" .epoch = none := by
  decide +kernel

end Retry

end AuthzClient
