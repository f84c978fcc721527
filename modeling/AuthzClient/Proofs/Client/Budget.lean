import AuthzClient.Proofs.Call.Durations
import AuthzClient.Proofs.Client.Precedence
import Mathlib.Algebra.Order.BigOperators.Group.List
import Mathlib.Algebra.Order.Group.Nat

/-!
How many messages a call takes. An attempt sends one message of its own at most, and before it those of one exchange if no
token can be used then. An exchange is a call as well, one that needs no token. If it fails, the call ends with that
failure and sends nothing more.
-/

namespace AuthzClient

open Http Act

namespace Call.Course

variable {course : Course} {n i bound : Nat}

/-- The messages of an attempt itself, if a given one is the last. -/
def sent (course : Course) (n i : Nat) : List Message :=
  (if i < n then course.attempting i else course.closing n).filterMap Event.message?

theorem exchanged_eq (course : Course) (i : Nat) :
    course.exchanged i = (course.authorizing i).filterMap Event.message? := by
  have same : (course.ready i).messages =
      (course.before i).messages ++ (course.authorizing i).filterMap Event.message? := by
    rw [Session.messages, events_ready, List.filterMap_append]
    rfl
  exact List.append_cancel_left ((course.messages_ready i).symm.trans same)

theorem exchanged_of_unchanged (quiet : (course.ready i).messages = (course.before i).messages) :
    course.exchanged i = [] := by
  rw [exchanged, quiet, List.drop_length]

namespace Ended

variable (ended : course.Ended n)

include ended

/-- Attempt by attempt a call sends what its authorization sends, and then its own message. -/
theorem messages_result :
    course.result.2.messages =
      course.start.messages ++ (List.range (n + 1)).flatMap fun i => course.exchanged i ++ course.sent n i := by
  have earlier : (List.range n).flatMap (fun i => (course.authorizing i ++ course.attempting i).filterMap Event.message?) =
      (List.range n).flatMap fun i => course.exchanged i ++ course.sent n i := by
    refine List.flatMap_congr fun i below => ?_
    rw [List.filterMap_append, exchanged_eq, sent, if_pos (List.mem_range.mp below)]
  have last : (course.authorizing n ++ course.closing n).filterMap Event.message? =
      course.exchanged n ++ course.sent n n := by
    rw [List.filterMap_append, exchanged_eq, sent, if_neg (Nat.lt_irrefl n)]
  rw [Session.messages, ended.events_result, List.filterMap_append, List.filterMap_append, List.filterMap_flatMap, earlier,
    last, List.range_succ, List.flatMap_append, List.flatMap_singleton, List.append_assoc]
  rfl

theorem length_sent (i : Nat) : (course.sent n i).length ≤ 1 := by
  rw [sent]
  split
  · rename_i below
    obtain ⟨message, round⟩ := ended.rounds i below
    rw [round.attempting_eq, messages_setback]
    exact Nat.le_refl 1
  · rcases ended.ends.writes with none | ⟨message, one, _⟩
    · rw [none]
      exact Nat.zero_le 1
    · rw [one]
      exact Nat.le_refl 1

theorem length_messages (spent : ∀ i, (course.exchanged i).length ≤ bound) :
    ((List.range (n + 1)).flatMap fun i => course.exchanged i ++ course.sent n i).length ≤
      (course.plan.maxRetries + 1) * (bound + 1) := by
  have each : ∀ length ∈ (List.range (n + 1)).map fun i => (course.exchanged i ++ course.sent n i).length,
      length ≤ bound + 1 := by
    refine List.forall_mem_map.mpr fun i _ => ?_
    rw [List.length_append]
    exact Nat.add_le_add (spent i) (ended.length_sent i)
  calc _ = ((List.range (n + 1)).map fun i => (course.exchanged i ++ course.sent n i).length).sum := List.length_flatMap
    _ ≤ (n + 1) * (bound + 1) := by simpa using List.sum_le_card_nsmul _ _ each
    _ ≤ (course.plan.maxRetries + 1) * (bound + 1) := Nat.mul_le_mul_right _ (Nat.succ_le_succ ended.within)

/-- An attempt that is not authorized is the last one, and not sent. -/
theorem of_denied {stop : Stop} (reached : i ≤ n) (denied : course.authorization i = .error stop) :
    i = n ∧ course.sent n i = [] ∧ course.result.1 = .error stop := by
  rcases Nat.lt_or_eq_of_le reached with below | rfl
  · obtain ⟨message, round⟩ := ended.rounds i below
    obtain ⟨value, granted⟩ := round.authorized
    cases granted.symm.trans denied
  · rw [sent, if_neg (Nat.lt_irrefl i)]
    -- Every other way to finish has an authorized attempt.
    have ends := ended.ends
    generalize course.result.1 = result at ends ⊢
    generalize course.closing i = added at ends ⊢
    cases ends with
    | unauthorized refused =>
      cases refused.symm.trans denied
      exact ⟨rfl, rfl, rfl⟩
    | unwritten authorized | unanswered authorized | succeeded _ authorized | exhausted _ authorized
    | unwaited authorized =>
      obtain ⟨value, granted⟩ := authorized
      cases granted.symm.trans denied

end Ended

end Call.Course

namespace Token.Source

variable {w : Surroundings} {s : Session}

/-- An exchange sends no more messages than a call has attempts. -/
theorem exists_exchange (source : Source) (w : Surroundings) (s : Session) :
    ∃ added, (source.exchange w s).2.messages = s.messages ++ added ∧ added.length ≤ source.plan.maxRetries + 1 := by
  obtain ⟨n, ended⟩ := (source.course w s).exists_ended
  -- The call of an exchange is not authorized, so nothing is sent for that.
  have alone : ∀ i, ((source.course w s).exchanged i).length ≤ 0 := fun i =>
    (congrArg List.length (Call.Course.exchanged_of_unchanged rfl)).le
  refine ⟨_, (source.messages_exchange w s).trans ended.messages_result, ?_⟩
  have length := ended.length_messages alone
  rwa [Nat.zero_add, Nat.mul_one] at length

theorem messages_token_stale (source : Source) (stale : usable? w s = none) :
    (source.token w s).2.messages = (source.exchange w (looked s)).2.messages := by
  rcases token_stale source stale with ⟨token, t, exchanged, same⟩ | ⟨stop, t, exchanged, same⟩
  · rw [same, exchanged]
    simp [stored, Session.messages, Event.message?]
  · rw [same, exchanged]

end Token.Source

namespace Call.Course

open Token.Source

variable {course : Course} {source : Token.Source} {n i : Nat}

/-- How a call spends messages, if tokens are issued for it and a given attempt is the last one. -/
structure Spends (course : Course) (source : Token.Source) (n : Nat) : Prop where
  messages : course.result.2.messages =
    course.start.messages ++ (List.range (n + 1)).flatMap fun i => course.exchanged i ++ course.sent n i
  sent : ∀ i, (course.sent n i).length ≤ 1
  held : ∀ i held, usable? course.surroundings (course.before i) = some held → course.exchanged i = []
  stale : ∀ i, usable? course.surroundings (course.before i) = none →
    (source.exchange course.surroundings (looked (course.before i))).2.messages =
      (course.before i).messages ++ course.exchanged i
  exchanged : ∀ i, (course.exchanged i).length ≤ source.plan.maxRetries + 1
  /-- A failed exchange is the last thing that the call does. -/
  failed : ∀ i, i ≤ n → usable? course.surroundings (course.before i) = none → ∀ stop,
    (source.exchange course.surroundings (looked (course.before i))).1 = .error stop →
      i = n ∧ course.sent n i = [] ∧ course.result.1 = .error stop

theorem ready_issued (issued : course.authorizer = .issued source) (i : Nat) :
    course.ready i = (source.token course.surroundings (course.before i)).2 := by
  rw [ready, issued, authorization_issued]

theorem exchanged_held (issued : course.authorizer = .issued source) {held : Token.Held}
    (usable : usable? course.surroundings (course.before i) = some held) : course.exchanged i = [] :=
  exchanged_of_unchanged (by rw [ready_issued issued, token_usable usable]; rfl)

theorem exchanged_stale (issued : course.authorizer = .issued source)
    (stale : usable? course.surroundings (course.before i) = none) :
    (source.exchange course.surroundings (looked (course.before i))).2.messages =
      (course.before i).messages ++ course.exchanged i := by
  rw [← messages_ready, ready_issued issued, source.messages_token_stale stale]

theorem length_exchanged (issued : course.authorizer = .issued source) (i : Nat) :
    (course.exchanged i).length ≤ source.plan.maxRetries + 1 := by
  cases usable : usable? course.surroundings (course.before i) with
  | some held =>
    rw [exchanged_held issued usable]
    exact Nat.zero_le _
  | none =>
    obtain ⟨added, messages, few⟩ := source.exists_exchange course.surroundings (looked (course.before i))
    have same : course.exchanged i = added :=
      List.append_cancel_left ((exchanged_stale issued usable).symm.trans messages)
    exact same ▸ few

theorem denied_of_exchange (issued : course.authorizer = .issued source) {stop : Stop}
    (stale : usable? course.surroundings (course.before i) = none)
    (failed : (source.exchange course.surroundings (looked (course.before i))).1 = .error stop) :
    course.authorization i = .error stop := by
  rw [authorization, issued, authorization_issued]
  rcases token_stale source stale with ⟨token, t, exchanged, _⟩ | ⟨other, t, exchanged, same⟩
  · rw [exchanged] at failed
    cases failed
  · rw [exchanged] at failed
    cases failed
    rw [same]
    rfl

theorem Ended.spends (ended : course.Ended n) (issued : course.authorizer = .issued source) : course.Spends source n where
  messages := ended.messages_result
  sent := ended.length_sent
  held _ _ := exchanged_held issued
  stale _ := exchanged_stale issued
  exchanged := length_exchanged issued
  failed _ reached stale _ failed := ended.of_denied reached (denied_of_exchange issued stale failed)

end Call.Course

namespace Client

variable {config : Configuration} {client : Client} {credentials : ClientCredentials} {options : Options}
  {request prepared : Request} {plan : RetryPlan}

theorem maxRetries_of_retryPlan (planned : config.retryPlan options = .ok plan) :
    plan.maxRetries = options.maxRetries.getD config.maxRetries := by
  rw [Configuration.retryPlan] at planned
  split at planned
  · cases planned
  · cases planned
    rfl

theorem maxRetries_of_prepare (taken : client.prepare request options = .ok (prepared, plan)) :
    plan.maxRetries = options.maxRetries.getD client.config.maxRetries := by
  obtain ⟨found, planned, rest⟩ := Except.bind_eq_ok taken
  obtain ⟨headers, _, rest⟩ := Except.bind_eq_ok rest
  cases rest
  exact maxRetries_of_retryPlan planned

/-- A call with issued tokens hands a bounded number of messages to the transport, whatever it meets and however long its
tokens live: each of its attempts at most one, and an exchange before it only if no token can be used then. Each
exchange has the retries of the configuration, and if one fails, the call ends with it and sends nothing more. -/
theorem spends_of_attempts (accepted : ofConfiguration config = .ok client)
    (used : config.credentials = .client credentials) (request : Request) (options : Options) (w : Surroundings)
    (s : Session) :
    ∃ source, client.authorizer = .issued source ∧ source.credentials = credentials ∧
      source.plan.maxRetries = config.maxRetries ∧
      (∃ added, (client.attempt request options w s).2.messages = s.messages ++ added ∧
        added.length ≤ (options.maxRetries.getD config.maxRetries + 1) * (config.maxRetries + 2)) ∧
      ∀ prepared plan, client.prepare request options = .ok (prepared, plan) →
        client.attempt request options w s = (client.course prepared plan w s).result ∧
        ∃ n, n ≤ options.maxRetries.getD config.maxRetries ∧ (client.course prepared plan w s).Spends source n := by
  obtain ⟨source, issued, same, _, planned⟩ := exists_source accepted used
  have retries := maxRetries_of_retryPlan planned
  refine ⟨source, issued, same, retries, ?_, fun prepared plan taken => ?_⟩
  · rcases taken : client.prepare request options with error | ⟨prepared, plan⟩
    · rw [attempt_of_unprepared taken]
      exact ⟨[], (List.append_nil _).symm, Nat.zero_le _⟩
    · obtain ⟨n, ended⟩ := (client.course prepared plan w s).exists_ended
      have budget := ended.length_messages (Call.Course.length_exchanged issued)
      have own : (client.course prepared plan w s).plan.maxRetries = options.maxRetries.getD config.maxRetries := by
        rw [← config_of_ofConfiguration accepted]
        exact maxRetries_of_prepare taken
      rw [attempt_eq_course taken]
      rw [own, retries] at budget
      exact ⟨_, ended.messages_result, budget⟩
  · obtain ⟨n, ended⟩ := (client.course prepared plan w s).exists_ended
    refine ⟨attempt_eq_course taken w s, n, ?_, ended.spends issued⟩
    rw [← config_of_ofConfiguration accepted, ← maxRetries_of_prepare taken]
    exact ended.within

/-- A client that repeats calls and exchanges once. -/
def repeating : Client where
  config := { Configuration.standard with
    apiUrl := "https://api.example"
    credentials := .client ⟨"client", ⟨"secret"⟩, "issuer.example", none, none⟩
    maxRetries := 1 }
  baseUrl := ⟨"https", "", none, some (.domain "api.example"), none, .segments [""], none, none⟩
  identity := ⟨some "client", none⟩
  authorizer := .issued
    ⟨⟨"https", "", none, some (.domain "issuer.example"), none, .segments ["oauth", "token"], none, none⟩,
      ⟨"client", ⟨"secret"⟩, "issuer.example", none, none⟩, ⟨1, Retry.defaultBase⟩⟩

/-- Everything is refused once, and tokens do not last until the next attempt. -/
def exhausting : Surroundings :=
  let refused : Reply := ⟨.ok ⟨503, [], [], none⟩, .zero⟩
  let issued : Reply := ⟨.ok ⟨200, [], [.data (Text.Utf8.encodeChars
    "\x7b\"access_token\":\"brief\",\"expires_in\":60\x7d".toList)], none⟩, .zero⟩
  { Call.Course.flaky.surroundings with
    replies := fun
      | 1 | 4 => issued
      | _ => refused }

/-- The bound is reached: each of two attempts is preceded by an exchange that takes two messages. -/
theorem spends_of_attempts_repeating :
    ofConfiguration repeating.config = .ok repeating ∧
      repeating.config.credentials = .client ⟨"client", ⟨"secret"⟩, "issuer.example", none, none⟩ ∧
      (repeating.attempt (.new "check" "GET" repeating.baseUrl) .none exhausting .fresh).2.messages.map (·.method) =
        ["POST", "POST", "GET", "POST", "POST", "GET"] ∧
      (repeating.attempt (.new "check" "GET" repeating.baseUrl) .none exhausting .fresh).2.messages.length ≤
        (1 + 1) * (1 + 2) ∧
      ∃ prepared plan source n,
        repeating.prepare (.new "check" "GET" repeating.baseUrl) .none = .ok (prepared, plan) ∧ n ≤ 1 ∧
          (repeating.course prepared plan exhausting .fresh).Spends source n := by
  have accepted : ofConfiguration repeating.config = .ok repeating := Except.eq_ok_of_toOption (by decide +kernel)
  obtain ⟨⟨prepared, plan⟩, taken⟩ :
      ∃ both, repeating.prepare (.new "check" "GET" repeating.baseUrl) .none = .ok both :=
    ⟨_, Except.eq_ok_of_toOption rfl⟩
  obtain ⟨source, _, _, _, ⟨added, messages, few⟩, prepares⟩ :=
    spends_of_attempts accepted rfl (.new "check" "GET" repeating.baseUrl) .none exhausting .fresh
  obtain ⟨_, n, within, spends⟩ := prepares prepared plan taken
  exact ⟨accepted, rfl, by decide +kernel, messages ▸ few, prepared, plan, source, n, taken, within, spends⟩

end Client

end AuthzClient
