import AuthzClient.Proofs.Call.Attempts

/-!
Everything that a call can do. It goes through rounds, each with an attempt that fails for a time and the wait behind
it, and finishes in the round after them: with a response, with the failure of that attempt, with what kept the attempt
from being made, or dropped. Nothing is assumed about the authorization, the target or the caller's patience.
-/

namespace AuthzClient.Call

open Http Act

/-- The delay that the server asks for after what an attempt met. -/
def asked? (outcome : Except TransportError Response) (now : Instant) : Option Span :=
  match outcome with
  | .ok response => Retry.afterHeaders? response.headers now
  | .error _ => none

/-- The wait behind a failed attempt, from what that attempt met and when. -/
def wait (minimum : Span) (attempt : Nat) (outcome : Except TransportError Response) (now : Instant)
    (draws : Retry.Draws) : Span :=
  (Retry.delay draws (asked? outcome now) attempt (some minimum)).1

section Pause

variable (identity : Identity) (request : Request) (plan : RetryPlan) (w : Surroundings) (s : Session)

/-- A pause is recorded before it begins, lasts as long as it says unless the call is dropped in it, and takes numbers that
no other one takes. -/
theorem pause_cases (attempt : Nat) (outcome : Except TransportError Response) :
    ∃ t, t.events = s.events ++ [
          .logged (retryRecord request plan attempt (asked? outcome (w.clock s.readings)) (causeOf identity request outcome)),
          .waited (wait plan.minimumDelay attempt outcome (w.clock s.readings) (w.draws s.waits))] ∧
      (pause identity request plan attempt outcome w s = (.error .dropped, t) ∨
        pause identity request plan attempt outcome w s = (.ok (), t) ∧
          t.time = s.time + (wait plan.minimumDelay attempt outcome (w.clock s.readings) (w.draws s.waits)).nanos ∧
          t.waits = s.waits + 1) := by
  let span := wait plan.minimumDelay attempt outcome (w.clock s.readings) (w.draws s.waits)
  obtain ⟨read, readings⟩ : ∃ r, pause identity request plan attempt outcome w s = await (s.time + span.nanos) w
      { s with
        readings := r
        waits := s.waits + 1
        events := s.events ++ [.logged (retryRecord request plan attempt (asked? outcome (w.clock s.readings))
          (causeOf identity request outcome))] ++ [.waited span] } := by
    cases outcome with
    | error failure => exact ⟨_, rfl⟩
    | ok response => exact ⟨_, rfl⟩
  rw [readings]
  rcases await_cases w _ (s.time + span.nanos) with dropped | waited
  · obtain ⟨t, dropped, same⟩ := dropped
    exact ⟨t, by simp [same, span], Or.inl dropped⟩
  · exact ⟨_, by simp [span], Or.inr ⟨waited, Nat.max_eq_right (Nat.le_add_right ..), rfl⟩⟩

end Pause

namespace Course

variable (course : Course)

/-- The wait behind an attempt, if it fails for a time. -/
def wait (i : Nat) : Span :=
  Call.wait course.plan.minimumDelay i (course.outcome i) (course.surroundings.clock (course.ready i).readings)
    (course.surroundings.draws (course.ready i).waits)

/-- The time at which the reply to an attempt is there. -/
def arrival (i : Nat) : Nat :=
  (course.ready i).time + (course.surroundings.replies (course.ready i).sent).latency.nanos

/-- The message of an attempt on its way. -/
def posted (i : Nat) (message : Message) : Event := .sent message (course.ready i).time (course.arrival i)

/-- The session in which the reply to an attempt is there. -/
def met (i : Nat) (message : Message) : Session :=
  let ready := course.ready i
  { ready with
    time := course.arrival i
    sent := ready.sent + 1
    events := ready.events ++ [course.posted i message] }

/-- What is recorded of an attempt that is repeated. -/
def noted (i : Nat) : List Event :=
  (unreadRecords (course.outcome i) ++
    [retryRecord course.request course.plan i
      (asked? (course.outcome i) (course.surroundings.clock (course.ready i).readings)) (course.cause i)]).map .logged

/-- What is measured at the end of a call whose last attempt is a given one. -/
def measured (i : Nat) (response : Option (Nat × Headers)) (time : Span) : List Event :=
  (Measurement.ofCall course.request course.identity.clientId i response time).map .measured

/-- What happens in a round behind the authorization. -/
def setback (i : Nat) (message : Message) : List Event :=
  course.posted i message :: course.noted i ++ [.waited (course.wait i)]

/-- An attempt has failed, is to be repeated, and the call has waited for the next one. -/
structure Round (i : Nat) (message : Message) : Prop where
  authorized : course.Authorized i
  written : course.request.message? i (course.granted i) = some message
  again : isRetryable (course.outcome i) = true
  events : (course.before (i + 1)).events = (course.ready i).events ++ course.setback i message
  time : (course.before (i + 1)).time = course.arrival i + (course.wait i).nanos
  passed : course.failing i course.surroundings (course.before i) = (.ok (), course.before (i + 1))

/-- How a call ends in a round: what it gives, and what happens from the authorization of the attempt on. -/
inductive Finishes (i : Nat) : Except Stop Response → List Event → Prop
  | unauthorized {stop : Stop} : course.authorization i = .error stop → Finishes i (.error stop) []
  | unwritten : course.Authorized i → course.request.message? i (course.granted i) = none →
      Finishes i (.error (.failed (.encode course.request.operation .unbuildable))) []
  | unanswered {message : Message} : course.Authorized i →
      course.request.message? i (course.granted i) = some message →
      Finishes i (.error .dropped) [course.posted i message]
  | succeeded {message : Message} {response : Response} (time : Span) : course.Authorized i →
      course.request.message? i (course.granted i) = some message → success? (course.outcome i) = some response →
      Finishes i (.ok response)
        (course.posted i message :: course.measured i (some (response.status, response.headers)) time)
  | exhausted {message : Message} (time : Span) : course.Authorized i →
      course.request.message? i (course.granted i) = some message → success? (course.outcome i) = none →
      i = course.plan.maxRetries ∨ isRetryable (course.outcome i) = false →
      Finishes i (.error (.failed (.failed (course.cause i) (course.causes 0 i))))
        (course.posted i message :: (unreadRecords (course.outcome i)).map .logged ++
          course.measured i (responseOf (course.cause i)) time)
  | unwaited {message : Message} : course.Authorized i →
      course.request.message? i (course.granted i) = some message → isRetryable (course.outcome i) = true →
      i < course.plan.maxRetries →
      Finishes i (.error .dropped) (course.setback i message)

variable {course} {i left began : Nat} {message : Message}

theorem messages_setback (i : Nat) (message : Message) :
    (course.setback i message).filterMap Event.message? = [message] := by
  simp [setback, noted, posted, Event.message?, List.filterMap_map, Function.comp_def]

theorem messages_measured (i : Nat) (response : Option (Nat × Headers)) (time : Span) :
    (course.measured i response time).filterMap Event.message? = [] := by
  simp [measured, Event.message?, List.filterMap_map, Function.comp_def]

theorem causes_snoc (n : Nat) : course.causes 0 (n + 1) = course.cause n :: course.causes 0 n := by
  simp [causes, List.range'_concat]

theorem message_of_written {target : Target} (built : Target.parse? course.request.url.text = some target)
    (written : course.request.message? i (course.granted i) = some message) : message = course.message target i := by
  rw [Request.message?, built] at written
  exact (Option.some.inj written).symm

/-- The message of an attempt is on its way as soon as it is authorized and written; the call may be dropped then. -/
theorem sendOnce_cases (authorized : course.Authorized i)
    (written : course.request.message? i (course.granted i) = some message) :
    (∃ t, t.events = (course.ready i).events ++ [course.posted i message] ∧
        sendOnce course.request course.authorizer.authorization i course.surroundings (course.before i) =
          (.error .dropped, t)) ∨
      sendOnce course.request course.authorizer.authorization i course.surroundings (course.before i) =
        (.ok (course.outcome i), course.met i message) := by
  have granted : course.authorizer.authorization course.surroundings (course.before i) =
      (.ok (course.granted i), course.ready i) := Prod.ext authorized.granted rfl
  rw [sendOnce, bind_ok granted, written]
  let start : Session := { course.ready i with
    sent := (course.ready i).sent + 1
    events := (course.ready i).events ++ [course.posted i message] }
  change (∃ t, _ ∧ (await (course.arrival i) >>= fun _ => pure (course.outcome i)) _ start = _) ∨
    (await (course.arrival i) >>= fun _ => pure (course.outcome i)) _ start = _
  rcases await_cases course.surroundings start (course.arrival i) with ⟨t, dropped, same⟩ | answered
  · exact Or.inl ⟨t, same, bind_error dropped⟩
  · right
    have later : max start.time (course.arrival i) = course.arrival i := Nat.max_eq_right (Nat.le_add_right ..)
    rw [bind_ok answered, later]
    rfl

/-- An attempt is answered, or the call finishes with what stops it before that. -/
theorem attempt_cases (course : Course) (i : Nat) :
    (∃ message, course.Authorized i ∧ course.request.message? i (course.granted i) = some message ∧
        sendOnce course.request course.authorizer.authorization i course.surroundings (course.before i) =
          (.ok (course.outcome i), course.met i message)) ∨
      ∃ stop t added, course.Finishes i (.error stop) added ∧ t.events = (course.ready i).events ++ added ∧
        sendOnce course.request course.authorizer.authorization i course.surroundings (course.before i) =
          (.error stop, t) := by
  cases asked : course.authorization i with
  | error stop =>
    have denied : course.authorizer.authorization course.surroundings (course.before i) =
        (.error stop, course.ready i) := Prod.ext asked rfl
    exact Or.inr ⟨stop, _, [], .unauthorized asked, (List.append_nil _).symm, bind_error denied⟩
  | ok value =>
    have authorized : course.Authorized i := ⟨value, asked⟩
    cases written : course.request.message? i (course.granted i) with
    | none =>
      have granted : course.authorizer.authorization course.surroundings (course.before i) =
          (.ok (course.granted i), course.ready i) := Prod.ext authorized.granted rfl
      refine Or.inr ⟨_, _, [], .unwritten authorized written, (List.append_nil _).symm, ?_⟩
      rw [sendOnce, bind_ok granted, written]
      rfl
    | some message =>
      rcases sendOnce_cases authorized written with ⟨t, events, dropped⟩ | answered
      · exact Or.inr ⟨_, t, _, .unanswered authorized written, events, dropped⟩
      · exact Or.inl ⟨message, authorized, rfl, answered⟩

/-- What stops an attempt from being answered stops the call. -/
theorem rest_of_stop {stop : Stop} {t : Session} {earlier : List Cause}
    (stopped : sendOnce course.request course.authorizer.authorization i course.surroundings (course.before i) =
      (.error stop, t)) : course.rest began left i earlier = (.error stop, t) := by
  rw [rest]
  unfold attempts
  exact bind_error stopped

/-- A round leads to the next attempt, with one retry less. -/
theorem rest_round (round : course.Round i message) (earlier : List Cause) :
    course.rest began (left + 1) i earlier = course.rest began left (i + 1) (course.cause i :: earlier) := by
  obtain ⟨outcome, t, sent, repeated⟩ := bind_eq_ok round.passed
  obtain ⟨_, u, logged, paused⟩ := bind_eq_ok repeated
  rcases sendOnce_cases round.authorized round.written with ⟨_, _, dropped⟩ | answered
  · rw [sent] at dropped
    cases dropped
  · cases sent.symm.trans answered
    rw [rest, attempts, bind_ok answered, success?_of_isRetryable round.again]
    dsimp only
    rw [bind_ok logged, if_pos round.again, bind_ok paused]
    rfl

section Answered

variable (answered : sendOnce course.request course.authorizer.authorization i course.surroundings (course.before i) =
  (.ok (course.outcome i), course.met i message))

include answered

/-- A response that is a success is measured and given. -/
theorem rest_succeeded {response : Response} (found : success? (course.outcome i) = some response)
    (earlier : List Cause) :
    course.rest began left i earlier =
      (measureEnd course.identity course.request began i (some (response.status, response.headers)) >>=
        fun _ => pure response) course.surroundings (course.met i message) := by
  rw [rest]
  unfold attempts
  rw [bind_ok answered, found]

/-- A failure that is not repeated is recorded, measured and given. -/
theorem rest_failed (found : success? (course.outcome i) = none)
    (settled : left = 0 ∨ isRetryable (course.outcome i) = false) (earlier : List Cause) :
    course.rest began left i earlier =
      (log (unreadRecords (course.outcome i)) >>= fun _ =>
        giveUp course.identity course.request began i (course.cause i) earlier)
        course.surroundings (course.met i message) := by
  rw [rest]
  unfold attempts
  rw [bind_ok answered, found]
  cases left with
  | zero => rfl
  | succ left =>
    simp only [settled.resolve_left (Nat.succ_ne_zero left), Bool.false_eq_true, if_false]
    rfl

/-- An answered attempt after which nothing is repeated ends the call, and no more time passes. -/
theorem rest_finishes (authorized : course.Authorized i)
    (written : course.request.message? i (course.granted i) = some message)
    (budget : i + left = course.plan.maxRetries) (settled : left = 0 ∨ isRetryable (course.outcome i) = false) :
    (∃ added, course.Finishes i (course.rest began left i (course.causes 0 i)).1 added ∧
      (course.rest began left i (course.causes 0 i)).2.events = (course.ready i).events ++ added) ∧
    (course.rest began left i (course.causes 0 i)).2.time = course.arrival i := by
  cases found : success? (course.outcome i) with
  | some response =>
    rw [rest_succeeded answered found]
    refine ⟨⟨_, .succeeded (Span.clamp (course.arrival i - began)) authorized written found, ?_⟩, rfl⟩
    exact List.append_assoc _ [_] _
  | none =>
    have spent : i = course.plan.maxRetries ∨ isRetryable (course.outcome i) = false :=
      settled.imp_left fun none => by omega
    rw [rest_failed answered found settled]
    refine ⟨⟨_, .exhausted (Span.clamp (course.arrival i - began)) authorized written found spent, ?_⟩, rfl⟩
    exact (congrArg (· ++ _) (List.append_assoc _ [_] _)).trans (List.append_assoc ..)

end Answered

/-- An answered attempt that is to be repeated makes a round, unless the call is dropped while it waits. -/
theorem round_cases (authorized : course.Authorized i)
    (written : course.request.message? i (course.granted i) = some message)
    (answered : sendOnce course.request course.authorizer.authorization i course.surroundings (course.before i) =
      (.ok (course.outcome i), course.met i message))
    (again : isRetryable (course.outcome i) = true) :
    course.Round i message ∨
      ∃ t, t.events = (course.ready i).events ++ course.setback i message ∧
        ∀ earlier, course.rest began (left + 1) i earlier = (.error .dropped, t) := by
  let u : Session := { course.met i message with
    events := (course.met i message).events ++ (unreadRecords (course.outcome i)).map .logged }
  have logged : log (unreadRecords (course.outcome i)) course.surroundings (course.met i message) = (.ok (), u) := rfl
  have failing : course.failing i course.surroundings (course.before i) =
      pause course.identity course.request course.plan i (course.outcome i) course.surroundings u := by
    rw [failing, bind_ok answered, bind_ok logged]
  obtain ⟨t, events, ended⟩ :=
    pause_cases course.identity course.request course.plan course.surroundings u i (course.outcome i)
  have noted : t.events = (course.ready i).events ++ course.setback i message := by
    rw [events]
    simp [u, met, setback, Course.noted, cause, wait]
  rcases ended with dropped | ⟨waited, time, _⟩
  · refine Or.inr ⟨t, noted, fun earlier => ?_⟩
    rw [rest, attempts, bind_ok answered, success?_of_isRetryable again]
    dsimp only
    rw [bind_ok logged, if_pos again, bind_error dropped]
  · have next : course.before (i + 1) = t := by rw [before, failing, waited]
    exact Or.inl ⟨authorized, written, again, next ▸ noted, next ▸ time, by rw [failing, waited, next]⟩

/-- From any attempt on a call goes through rounds and finishes behind them. -/
theorem rest_rounds (course : Course) (began left i : Nat) (budget : i + left = course.plan.maxRetries) :
    ∃ n, i ≤ n ∧ n ≤ course.plan.maxRetries ∧ (∀ j, i ≤ j → j < n → ∃ message, course.Round j message) ∧
      ∃ added, course.Finishes n (course.rest began left i (course.causes 0 i)).1 added ∧
        (course.rest began left i (course.causes 0 i)).2.events = (course.ready n).events ++ added := by
  induction left generalizing i with
  | zero =>
    refine ⟨i, Nat.le_refl i, by omega, fun j above below => by omega, ?_⟩
    rcases attempt_cases course i with ⟨message, authorized, written, answered⟩ | ⟨stop, t, added, ends, events, stopped⟩
    · exact (rest_finishes answered authorized written budget (Or.inl rfl)).1
    · rw [rest_of_stop stopped]
      exact ⟨added, ends, events⟩
  | succ left ih =>
    rcases attempt_cases course i with ⟨message, authorized, written, answered⟩ | ⟨stop, t, added, ends, events, stopped⟩
    · cases again : isRetryable (course.outcome i) with
      | false =>
        exact ⟨i, Nat.le_refl i, by omega, fun j above below => by omega,
          (rest_finishes answered authorized written budget (Or.inr again)).1⟩
      | true =>
        rcases round_cases authorized written answered again with round | ⟨t, events, dropped⟩
        · obtain ⟨n, above, below, rounds, finish⟩ := ih (i + 1) (by omega)
          rw [rest_round round, ← causes_snoc]
          refine ⟨n, by omega, below, fun j lower upper => ?_, finish⟩
          rcases Nat.eq_or_lt_of_le lower with rfl | later
          · exact ⟨message, round⟩
          · exact rounds j later upper
        · rw [dropped]
          exact ⟨i, Nat.le_refl i, by omega, fun j above below => by omega, _,
            .unwaited authorized written again (by omega), events⟩
    · rw [rest_of_stop stopped]
      exact ⟨i, Nat.le_refl i, by omega, fun j above below => by omega, added, ends, events⟩

/-- Every call goes through a number of rounds within its retries and finishes behind them. -/
theorem result_rounds (course : Course) :
    ∃ n, n ≤ course.plan.maxRetries ∧ (∀ i, i < n → ∃ message, course.Round i message) ∧
      ∃ added, course.Finishes n course.result.1 added ∧
        course.result.2.events = (course.ready n).events ++ added := by
  obtain ⟨n, _, within, rounds, finish⟩ :=
    rest_rounds course course.start.time course.plan.maxRetries 0 (Nat.zero_add _)
  exact ⟨n, within, fun i below => rounds i (Nat.zero_le i) below, finish⟩

end Course

end AuthzClient.Call
