import AuthzClient.Proofs.Call.Course
import AuthzClient.Proofs.Http.Headers

/-!
How often a call is sent, and what: once for every outcome in front of the first one that settles it, and once more,
with the same message each time but for the authorization and the number of the retry.
-/

namespace AuthzClient.Call

open Http

/-- An outcome after which the same request may succeed: too many requests, an error of the server other than that it
does not know how, a broken connection, or no answer in time. The body of a response has no say in it. -/
def IsTemporary : Except TransportError Response → Prop
  | .ok response => response.status = 429 ∨ 500 ≤ response.status ∧ response.status ≤ 599 ∧ response.status ≠ 501
  | .error failure => (∃ reason, failure = .network reason) ∨ ∃ limit, failure = .timeout limit

theorem isRetryable_iff (outcome : Except TransportError Response) :
    isRetryable outcome = true ↔ IsTemporary outcome := by
  cases outcome with
  | ok response =>
    simp only [isRetryable, IsTemporary, Retry.shouldRetry, Bool.or_eq_true, Bool.and_eq_true, beq_iff_eq,
      decide_eq_true_eq, bne_iff_ne]
    omega
  | error failure => cases failure <;> simp [isRetryable, IsTemporary, TransportError.isRetryable]

theorem isRetryable_eq_false_iff (outcome : Except TransportError Response) :
    isRetryable outcome = false ↔ ¬IsTemporary outcome := by
  rw [← isRetryable_iff, Bool.not_eq_true]

namespace Course

variable {course : Course} {target : Target}

/-- How many attempts are repeated from a given one on, if `left` retries are left. -/
def repeated (course : Course) (i left : Nat) : Nat :=
  ((List.range' i left).takeWhile fun j => isRetryable (course.outcome j)).length

/-- The number of the last attempt. -/
def last (course : Course) : Nat := course.repeated 0 course.plan.maxRetries

theorem repeated_again {i : Nat} (again : isRetryable (course.outcome i) = true) (left : Nat) :
    course.repeated i (left + 1) = course.repeated (i + 1) left + 1 := by
  simp [repeated, List.range'_succ, again]

theorem repeated_settled {i left : Nat} (settled : left = 0 ∨ isRetryable (course.outcome i) = false) :
    course.repeated i left = 0 := by
  rcases settled with rfl | final
  · rfl
  · cases left with
    | zero => rfl
    | succ left => simp [repeated, List.range'_succ, final]

/-- The attempts go on up to the first outcome that is not temporary, if enough retries are left. -/
theorem repeated_eq_min {i n : Nat} (final : ¬IsTemporary (course.outcome (i + n)))
    (temporary : ∀ j, j < n → IsTemporary (course.outcome (i + j))) (left : Nat) :
    course.repeated i left = min n left := by
  induction left generalizing i n with
  | zero => exact (Nat.min_zero n).symm
  | succ left ih =>
    cases n with
    | zero =>
      have settled : isRetryable (course.outcome i) = false := (isRetryable_eq_false_iff _).mpr final
      rw [repeated_settled (Or.inr settled), Nat.zero_min]
    | succ n =>
      have next : ¬IsTemporary (course.outcome (i + 1 + n)) := by rwa [Nat.add_right_comm]
      have between : ∀ j, j < n → IsTemporary (course.outcome (i + 1 + j)) := by
        intro j inside
        rw [Nat.add_right_comm]
        exact temporary (j + 1) (Nat.succ_lt_succ inside)
      have again : isRetryable (course.outcome i) = true := (isRetryable_iff _).mpr (temporary 0 (Nat.succ_pos n))
      rw [repeated_again again, ih next between, Nat.succ_min_succ]

/-- Without an outcome that settles the call all retries are used up. -/
theorem repeated_eq_left (temporary : ∀ j, IsTemporary (course.outcome j)) (i left : Nat) :
    course.repeated i left = left := by
  induction left generalizing i with
  | zero => rfl
  | succ left ih => rw [repeated_again ((isRetryable_iff _).mpr (temporary i)), ih]

/-- The failures of a number of attempts from a given one on, the latest one first. -/
def causes (course : Course) (i n : Nat) : List Cause := ((List.range' i n).map course.cause).reverse

/-- The messages of a number of attempts from a given one on, with those sent to authorize them. -/
def messages (course : Course) (target : Target) (i n : Nat) : List Message :=
  (List.range' i n).flatMap fun j => course.exchanged j ++ [course.message target j]

theorem causes_succ (i n : Nat) : course.causes i (n + 1) = course.causes (i + 1) n ++ [course.cause i] := by
  simp [causes, List.range'_succ]

theorem messages_succ (i n : Nat) :
    course.messages target i (n + 1) =
      course.exchanged i ++ [course.message target i] ++ course.messages target (i + 1) n := by
  simp [messages, List.range'_succ]

theorem rest_settled {began left i : Nat} {earlier : List Cause} (calm : course.Undisturbed target)
    (now : course.Authorized i) (settled : left = 0 ∨ isRetryable (course.outcome i) = false) :
    (course.rest began left i earlier).1 =
        course.ending (i + course.repeated i left) (course.causes i (course.repeated i left) ++ earlier) ∧
      (course.rest began left i earlier).2.messages =
        (course.before i).messages ++ course.messages target i (course.repeated i left + 1) := by
  obtain ⟨answer, sent⟩ := rest_last calm now settled
  rw [repeated_settled settled]
  refine ⟨answer, ?_⟩
  rw [sent, messages_succ]
  simp [messages]

/-- From any attempt on the call goes through the temporary outcomes, keeps their causes and ends with the next one. -/
theorem rest_result (calm : course.Undisturbed target) (began left i : Nat) (earlier : List Cause)
    (authorized : ∀ j, i ≤ j → j ≤ i + course.repeated i left → course.Authorized j) :
    (course.rest began left i earlier).1 =
        course.ending (i + course.repeated i left) (course.causes i (course.repeated i left) ++ earlier) ∧
      (course.rest began left i earlier).2.messages =
        (course.before i).messages ++ course.messages target i (course.repeated i left + 1) := by
  induction left generalizing i earlier with
  | zero => exact rest_settled calm (authorized i (Nat.le_refl i) (Nat.le_add_right ..)) (Or.inl rfl)
  | succ left ih =>
    have now : course.Authorized i := authorized i (Nat.le_refl i) (Nat.le_add_right ..)
    cases outcome : isRetryable (course.outcome i) with
    | false => exact rest_settled calm now (Or.inr outcome)
    | true =>
      have count := repeated_again outcome left
      have later : ∀ j, i + 1 ≤ j → j ≤ i + 1 + course.repeated (i + 1) left → course.Authorized j :=
        fun j lower upper => authorized j (Nat.le_of_succ_le lower) (by omega)
      obtain ⟨answer, sent⟩ := ih (i + 1) (course.cause i :: earlier) later
      rw [rest_again calm now outcome, answer, sent, count, messages_before_succ calm now, causes_succ,
        messages_succ i]
      refine ⟨?_, by simp only [List.append_assoc]⟩
      rw [List.append_assoc, List.singleton_append, Nat.add_right_comm, Nat.add_assoc]

/-- A call is sent once for each temporary outcome in front of the first other one, as far as the retries reach, and
once more; the last outcome decides, by its status alone if it is a response. Each message has the method, the target
and the body of the call and all its headers. Only the authorization is the attempt's own, and from the second attempt
on its number. -/
theorem result_of_attempts (course : Course) (target : Target) (patient : course.surroundings.deadline = none)
    (built : Target.parse? course.request.url.text = some target)
    (authorized : ∀ i, i ≤ course.last → course.Authorized i) :
    ((∀ k, ¬IsTemporary (course.outcome k) → (∀ i, i < k → IsTemporary (course.outcome i)) →
        course.last = min k course.plan.maxRetries) ∧
      ((∀ i, IsTemporary (course.outcome i)) → course.last = course.plan.maxRetries)) ∧
    course.result.2.messages = course.start.messages ++
      (List.range (course.last + 1)).flatMap (fun i => course.exchanged i ++ [course.message target i]) ∧
    (match course.outcome course.last with
      | .ok response =>
        if 200 ≤ response.status ∧ response.status < 300 then course.result.1 = .ok response
        else ∃ error, course.result.1 = .error (.failed (.failed (.api error) (course.causes 0 course.last))) ∧
          error = refusal course.identity course.request response ∧ error.status = response.status
      | .error failure => course.result.1 =
        .error (.failed (.failed (.transport course.request.operation failure) (course.causes 0 course.last)))) ∧
    ∀ i, ∃ headers, course.message target i = ⟨course.request.method, target, headers, course.request.body⟩ ∧
      Request.withoutAttempt headers = Request.withoutAttempt course.request.headers ∧
      Headers.values .authorization headers = (match course.granted i with
        | some value => [value]
        | none => Headers.values .authorization course.request.headers) ∧
      Headers.values .retryAttempt headers =
        (if i = 0 then Headers.values .retryAttempt course.request.headers else [.ofText (toString i)]) := by
  obtain ⟨answer, sent⟩ := rest_result ⟨patient, built⟩ course.start.time course.plan.maxRetries 0 [] (by
    intro i _ within
    exact authorized i (by rwa [Nat.zero_add] at within))
  rw [Nat.zero_add, List.append_nil] at answer
  refine ⟨⟨?_, ?_⟩, ?_, ?_, ?_⟩
  · intro k final temporary
    refine repeated_eq_min ?_ ?_ course.plan.maxRetries
    · rwa [Nat.zero_add]
    · intro j inside
      rw [Nat.zero_add]
      exact temporary j inside
  · intro temporary
    exact repeated_eq_left temporary 0 course.plan.maxRetries
  · rw [List.range_eq_range']
    exact sent
  · change course.result.1 = course.ending course.last _ at answer
    rw [answer, ending, cause]
    cases course.outcome course.last with
    | error failure => rfl
    | ok response =>
      dsimp only
      split
      · rename_i success
        simp [success?, Response.isSuccess, success]
      · rename_i failed
        refine ⟨refusal course.identity course.request response, ?_, rfl, rfl⟩
        simp only [success?, Response.isSuccess, Bool.and_eq_true, decide_eq_true_eq, failed, if_false, causeOf]
        rfl
  · intro i
    refine ⟨course.request.attemptHeaders i (course.granted i), rfl, ?_, ?_, ?_⟩
    · exact Request.withoutAttempt_attemptHeaders i (course.granted i) course.request
    · exact Request.authorization_attemptHeaders i (course.granted i) course.request
    · exact Request.retryAttempt_attemptHeaders i (course.granted i) course.request

/-- A call that meets an error whose body breaks, then a lost connection, and then a success. -/
def flaky : Course where
  identity := .none
  request := .new "check" "GET" ⟨"https", "", none, some (.domain "a.example"), none, .segments ["x"], none, none⟩
  plan := ⟨5, Span.ofMillis 100⟩
  authorizer := .apiToken ⟨"t"⟩
  surroundings := {
    replies := fun
      | 0 => ⟨.ok ⟨503, [], [.data [0x7b], .failure "reset"], none⟩, .zero⟩
      | 1 => ⟨.error (.network "reset"), .zero⟩
      | _ => ⟨.ok ⟨200, [], [], none⟩, .zero⟩
    clock := fun _ => .epoch
    jitter := fun _ => .zero
    draws := fun _ _ => 0
    deadline := none }
  start := .fresh

theorem result_of_attempts_flaky :
    flaky.surroundings.deadline = none ∧
    Target.parse? flaky.request.url.text = some ⟨some "https", some "a.example", "/x", none⟩ ∧
    (∀ i, i ≤ flaky.last → flaky.Authorized i) ∧
    flaky.last = 2 ∧ flaky.result.2.messages.length = 3 ∧ flaky.result.1 = .ok ⟨200, [], [], none⟩ := by
  have built : Target.parse? flaky.request.url.text = some ⟨some "https", some "a.example", "/x", none⟩ := by rfl
  have authorized : ∀ i, i ≤ flaky.last → flaky.Authorized i := fun i _ => ⟨_, rfl⟩
  obtain ⟨⟨count, _⟩, sent, answer, _⟩ := result_of_attempts flaky _ rfl built authorized
  have settled : ¬IsTemporary (flaky.outcome 2) := by
    change ¬IsTemporary (.ok ⟨200, [], [], none⟩)
    simp [IsTemporary]
  have temporary : ∀ i, i < 2 → IsTemporary (flaky.outcome i) := by
    intro i inside
    rcases i with _ | _ | i
    · exact Or.inr ⟨by decide, by decide, by decide⟩
    · exact Or.inl ⟨"reset", rfl⟩
    · omega
  have last : flaky.last = 2 := count 2 settled temporary
  rw [last] at answer sent
  refine ⟨rfl, built, authorized, last, ?_, answer⟩
  rw [sent]
  rfl

end Course

end AuthzClient.Call
