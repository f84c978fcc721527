import AuthzClient.Proofs.Call.Ledger
import AuthzClient.Proofs.Retry.Delays

/-!
The waits of a call: one behind each attempt that is repeated and none behind the last one. The server's delay decides
if the attempt was answered with one, and the backoff of that attempt otherwise.
-/

namespace AuthzClient.Call

open Http Act

/-- An attempt was answered with a delay: the text of its first `Retry-After` header gives it. -/
def Asks (outcome : Except TransportError Response) (now : Instant) (span : Span) : Prop :=
  ∃ response value, outcome = .ok response ∧ Headers.text? .retryAfter response.headers = some value ∧
    Retry.Gives value now span

theorem asked?_eq_some_iff {outcome : Except TransportError Response} {now : Instant} {span : Span} :
    asked? outcome now = some span ↔ Asks outcome now span := by
  cases outcome with
  | error failure => simp [asked?, Asks]
  | ok response =>
    rw [asked?, Retry.afterHeaders?, Option.bind_eq_some_iff]
    constructor
    · rintro ⟨value, first, given⟩
      exact ⟨response, value, rfl, first, Retry.afterText?_eq_some_iff.mp given⟩
    · rintro ⟨other, value, same, first, given⟩
      cases same
      exact ⟨value, first, Retry.afterText?_eq_some_iff.mpr given⟩

section Wait

variable {outcome : Except TransportError Response} {now : Instant}

theorem wait_asked {span : Span} (asks : Asks outcome now span) (minimum : Span) (attempt : Nat) (draws : Retry.Draws) :
    wait minimum attempt outcome now draws = span := by
  have long : 1 * Time.second ≤ span.nanos := asks.elim fun _ ⟨_, _, _, _, lower, _⟩ => lower
  rw [wait, asked?_eq_some_iff.mpr asks]
  exact Retry.delay_server long draws attempt (some minimum)

/-- The configured base of the backoff in nanoseconds, 100 milliseconds in place of zero. -/
def baseNanos (minimum : Span) : Nat := if minimum.nanos = 0 then 100 * Time.millisecond else minimum.nanos

theorem base_nanos (minimum : Span) : (Retry.base (some minimum)).nanos = baseNanos minimum := by
  simp only [Retry.base, baseNanos]
  split <;> rfl

theorem wait_unasked (silent : ∀ span, ¬Asks outcome now span) (minimum : Span) {attempt : Nat} (few : attempt ≤ 31)
    (exact : 2 ^ attempt * baseNanos minimum ≤ Span.longest) (draws : Retry.Draws) :
    2 ^ attempt * baseNanos minimum ≤ (wait minimum attempt outcome now draws).nanos ∧
      (wait minimum attempt outcome now draws).nanos < (2 ^ attempt + 1) * baseNanos minimum := by
  have none : asked? outcome now = none :=
    Option.eq_none_iff_forall_not_mem.mpr fun span given => silent span (asked?_eq_some_iff.mp given)
  rw [wait, none, ← base_nanos]
  exact Retry.delay_backoff draws few (some minimum) (base_nanos minimum ▸ exact)

example (draws : Retry.Draws) :
    wait (Span.ofMillis 100) 3 (.ok ⟨429, [(.retryAfter, .ofText "7")], [], none⟩) .epoch draws = Span.ofSeconds 7 := rfl

end Wait

/-- What takes time in a call: a message until it is answered, and a wait. -/
def isStep : Event → Bool
  | .sent .. | .waited _ => true
  | .measured _ | .logged _ => false

theorem steps_logged (records : List Log) : (records.map Event.logged).filter isStep = [] := by
  simp [List.filter_map, Function.comp_def, isStep]

theorem steps_measured (measurements : List Measurement) : (measurements.map Event.measured).filter isStep = [] := by
  simp [List.filter_map, Function.comp_def, isStep]

namespace Course

variable {course : Course} {n i : Nat} {target : Target} {message : Message}

/-- The messages and the waits of a call itself, in order, if its last attempt is a given one. -/
def steps (course : Course) (n : Nat) : List Event := (course.own n).filter isStep

theorem steps_setback (i : Nat) (message : Message) :
    (course.setback i message).filter isStep = [course.posted i message, .waited (course.wait i)] := by
  rw [setback, List.cons_append, List.filter_cons_of_pos rfl, List.filter_append, noted, steps_logged]
  rfl

/-- An attempt fails for a time, and the call waits before it goes on. For each wait numbers are drawn anew. -/
structure Waits (course : Course) (target : Target) (i : Nat) : Prop where
  writes : course.Writes i (course.message target i)
  again : isRetryable (course.outcome i) = true
  time : (course.before (i + 1)).time = course.arrival i + (course.wait i).nanos
  drawn : (course.before (i + 1)).waits = (course.ready i).waits + 1

/-- What a call does in its last attempt: nothing if it cannot be made; else it sends its message, and gives its result as
soon as that is answered, unless it is dropped before. Where a retry is left it may also be dropped while it waits. -/
inductive Closes (course : Course) (target : Target) (n : Nat) : List Event → Prop
  | unmade : (∀ message, ¬course.Writes n message) → Closes course target n []
  | unanswered : course.Writes n (course.message target n) → course.result.1 = .error .dropped →
      Closes course target n [course.posted n (course.message target n)]
  | answered : course.Writes n (course.message target n) → course.result.2.time = course.arrival n →
      n = course.plan.maxRetries ∨ isRetryable (course.outcome n) = false →
      Closes course target n [course.posted n (course.message target n)]
  | unwaited : course.Writes n (course.message target n) → course.result.1 = .error .dropped →
      isRetryable (course.outcome n) = true → n < course.plan.maxRetries →
      Closes course target n [course.posted n (course.message target n), .waited (course.wait n)]

theorem Round.waits_before (round : course.Round i message) :
    (course.before (i + 1)).waits = (course.ready i).waits + 1 := by
  obtain ⟨outcome, t, sent, repeated⟩ := bind_eq_ok round.passed
  obtain ⟨_, u, logged, paused⟩ := bind_eq_ok repeated
  rcases sendOnce_cases round.authorized round.written with ⟨_, _, dropped⟩ | answered
  · cases sent.symm.trans dropped
  · cases sent.symm.trans answered
    cases logged
    obtain ⟨_, _, ended⟩ := pause_cases course.identity course.request course.plan course.surroundings _ i (course.outcome i)
    rcases ended with dropped | ⟨waited, _, drawn⟩
    · cases paused.symm.trans dropped
    · cases paused.symm.trans waited
      exact drawn

/-- Through its rounds a call gets to its last attempt. -/
theorem result_eq_rest (rounds : ∀ i, i < n → ∃ message, course.Round i message) (within : n ≤ course.plan.maxRetries) :
    course.result = course.rest course.start.time (course.plan.maxRetries - n) n (course.causes 0 n) := by
  induction n with
  | zero => rfl
  | succ n ih =>
    obtain ⟨message, round⟩ := rounds n (Nat.lt_succ_self n)
    have left : course.plan.maxRetries - n = (course.plan.maxRetries - (n + 1)) + 1 := by omega
    rw [ih (fun i below => rounds i (Nat.lt_succ_of_lt below)) (Nat.le_of_succ_le within), left, rest_round round,
      ← causes_snoc]

/-- A call that is not dropped ends when its last message is answered. -/
theorem Ended.time_result (ended : course.Ended n) (writes : course.Writes n message)
    (settled : n = course.plan.maxRetries ∨ isRetryable (course.outcome n) = false)
    (kept : course.result.1 ≠ .error .dropped) : course.result.2.time = course.arrival n := by
  have within := ended.within
  rw [result_eq_rest ended.rounds within] at kept ⊢
  rcases sendOnce_cases writes.authorized writes.written with ⟨t, _, dropped⟩ | answered
  · rw [rest_of_stop dropped] at kept
    exact absurd rfl kept
  · exact (rest_finishes answered writes.authorized writes.written (by omega) (settled.imp_left fun spent => by omega)).2

theorem Ended.closes (ended : course.Ended n)
    (target_eq : ∀ message, course.Writes n message → message = course.message target n) :
    course.Closes target n ((course.closing n).filter isStep) := by
  have ends := ended.ends
  generalize closed : course.closing n = closing at ends
  generalize gave : course.result.1 = result at ends
  cases ends with
  | unauthorized denied =>
    refine .unmade fun message writes => ?_
    obtain ⟨value, granted⟩ := writes.authorized
    cases granted.symm.trans denied
  | unwritten _ none => exact .unmade fun message writes => by cases none.symm.trans writes.written
  | unanswered authorized written =>
    cases target_eq _ ⟨authorized, written⟩
    exact .unanswered ⟨authorized, written⟩ gave
  | @succeeded message response time authorized written found =>
    cases target_eq _ ⟨authorized, written⟩
    have final : isRetryable (course.outcome n) = false := by
      refine Bool.eq_false_iff.mpr fun again => ?_
      cases found.symm.trans (success?_of_isRetryable again)
    have kept : course.result.1 ≠ .error .dropped := by
      rw [gave]
      rintro ⟨⟩
    have arrived := ended.time_result ⟨authorized, written⟩ (Or.inr final) kept
    rw [List.filter_cons_of_pos rfl, measured, steps_measured]
    exact .answered ⟨authorized, written⟩ arrived (Or.inr final)
  | @exhausted message time authorized written _ settled =>
    cases target_eq _ ⟨authorized, written⟩
    have kept : course.result.1 ≠ .error .dropped := by
      rw [gave]
      rintro ⟨⟩
    have arrived := ended.time_result ⟨authorized, written⟩ settled kept
    rw [List.cons_append, List.filter_cons_of_pos rfl, List.filter_append, measured, steps_logged, steps_measured]
    exact .answered ⟨authorized, written⟩ arrived settled
  | unwaited authorized written again below =>
    cases target_eq _ ⟨authorized, written⟩
    rw [steps_setback]
    exact .unwaited ⟨authorized, written⟩ gave again below

theorem steps_rounds (ended : course.Ended n)
    (target_eq : ∀ i message, course.Writes i message → message = course.message target i) (k : Nat) (below : k ≤ n) :
    ((List.range k).flatMap course.attempting).filter isStep =
      (List.range k).flatMap fun i => [course.posted i (course.message target i), .waited (course.wait i)] := by
  induction k with
  | zero => rfl
  | succ k ih =>
    obtain ⟨message, round⟩ := ended.rounds k below
    cases target_eq k _ ⟨round.authorized, round.written⟩
    rw [List.range_succ, List.flatMap_append, List.flatMap_append, List.filter_append, ih (Nat.le_of_succ_le below),
      List.flatMap_singleton, List.flatMap_singleton, round.attempting_eq, steps_setback]

/-- The messages that a call can write differ in nothing but their attempts. -/
theorem exists_target (course : Course) :
    ∃ target, ∀ i message, course.Writes i message → message = course.message target i := by
  cases built : Target.parse? course.request.url.text with
  | some target => exact ⟨target, fun i message writes => message_of_written built writes.written⟩
  | none =>
    refine ⟨⟨none, none, "", none⟩, fun i message writes => ?_⟩
    have written := writes.written
    rw [Request.message?, built] at written
    cases written

/-- A call waits once behind each attempt that it repeats, before it goes on, and behind no other: it ends as soon as its last
attempt is answered, and in a wait only if it is dropped there. What it waits is settled by that attempt alone, by what it
met, its number, the reading of the clock and the numbers drawn: exactly the delay that the answer asks for, and without one
at least the base times two to the power of the attempt's number, and less than one base more. -/
theorem waits_of_attempts (course : Course) :
    (∃ n target last, course.Ended n ∧ course.Closes target n last ∧
      course.result.2.events = course.start.events ++
        (List.range n).flatMap (fun i => course.authorizing i ++ course.attempting i) ++
        (course.authorizing n ++ course.closing n) ∧
      course.steps n = (List.range n).flatMap
        (fun i => [course.posted i (course.message target i), .waited (course.wait i)]) ++ last ∧
      ∀ i, i < n → course.Waits target i) ∧
    ∀ i,
      course.wait i = Call.wait course.plan.minimumDelay i (course.outcome i)
        (course.surroundings.clock (course.ready i).readings) (course.surroundings.draws (course.ready i).waits) ∧
      (∀ span, Asks (course.outcome i) (course.surroundings.clock (course.ready i).readings) span →
        course.wait i = span) ∧
      ((∀ span, ¬Asks (course.outcome i) (course.surroundings.clock (course.ready i).readings) span) →
        i ≤ 31 → 2 ^ i * baseNanos course.plan.minimumDelay ≤ Span.longest →
        2 ^ i * baseNanos course.plan.minimumDelay ≤ (course.wait i).nanos ∧
          (course.wait i).nanos < (2 ^ i + 1) * baseNanos course.plan.minimumDelay) := by
  refine ⟨?_, fun i => ⟨rfl, fun span asks => wait_asked asks _ i _, fun silent few exact =>
    wait_unasked silent _ few exact _⟩⟩
  obtain ⟨n, ended⟩ := course.exists_ended
  obtain ⟨target, target_eq⟩ := course.exists_target
  refine ⟨n, target, _, ended, ended.closes (target_eq n), ended.events_result, ?_, fun i below => ?_⟩
  · rw [steps, own, List.filter_append, steps_rounds ended target_eq n (Nat.le_refl n)]
  · obtain ⟨message, round⟩ := ended.rounds i below
    cases target_eq i _ ⟨round.authorized, round.written⟩
    exact ⟨⟨round.authorized, round.written⟩, round.again, round.time, round.waits_before⟩

/-- A call that is asked to wait, then meets a lost connection and a server that asks for too long a wait. -/
def delayed : Course where
  identity := .none
  request := .new "check" "GET" ⟨"https", "", none, some (.domain "a.example"), none, .segments ["x"], none, none⟩
  plan := ⟨3, Span.ofMillis 100⟩
  authorizer := .none
  surroundings := {
    replies := fun
      | 0 => ⟨.ok ⟨429, [(.retryAfter, .ofText "7")], [], none⟩, .zero⟩
      | 1 => ⟨.error (.network "reset"), .zero⟩
      | 2 => ⟨.ok ⟨503, [(.retryAfter, .ofText "3601")], [], none⟩, .zero⟩
      | _ => ⟨.ok ⟨200, [], [], none⟩, .zero⟩
    clock := fun _ => .epoch
    jitter := fun _ => .zero
    draws := fun _ _ => 0
    deadline := none }
  start := .fresh

theorem waits_of_attempts_delayed :
    delayed.Ended 3 ∧ ∃ target last, delayed.Closes target 3 last ∧ (∀ i, i < 3 → delayed.Waits target i) ∧
      delayed.steps 3 = [
        delayed.posted 0 (delayed.message target 0), .waited (Span.ofSeconds 7),
        delayed.posted 1 (delayed.message target 1), .waited (Span.ofMillis 200),
        delayed.posted 2 (delayed.message target 2), .waited (Span.ofMillis 400)] ++ last := by
  obtain ⟨⟨n, target, last, ended, closes, _, steps, waits⟩, _⟩ := waits_of_attempts delayed
  have arrived : delayed.result.1.isOk = true := by decide +kernel
  have again : ∀ i, i < 3 → isRetryable (delayed.outcome i) = true := by decide +kernel
  have three : n = 3 := by
    have ends := ended.ends
    generalize delayed.closing n = closing at ends
    generalize delayed.result.1 = result at arrived ends
    cases ends with
    | succeeded _ _ _ found =>
      refine Nat.le_antisymm ended.within (Nat.not_lt.mp fun below => ?_)
      cases found.symm.trans (success?_of_isRetryable (again n below))
    | unauthorized | unwritten | unanswered | exhausted | unwaited => exact absurd arrived Bool.false_ne_true
  cases three
  exact ⟨ended, target, last, closes, waits, steps.trans rfl⟩

end Course

end AuthzClient.Call
