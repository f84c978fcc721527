import AuthzClient.Proofs.Token.Authorization

/-!
How long calls are measured to take. A call that has sent something and ends is measured once, with the number of its
retries and the status of its last response, unless the authorization of a later attempt fails. Then it ends without a
measurement. Authorizations may be measured, but as exchanges only.
-/

namespace AuthzClient

open Http Act

/-- The measurement of how long a call took, if an event is one. -/
def Event.duration? : Event → Option Measurement
  | .measured measurement =>
    match measurement.value with
    | .elapsed _ => some measurement
    | _ => none
  | _ => none

def durations (events : List Event) : List Measurement := events.filterMap Event.duration?

theorem durations_append (front behind : List Event) : durations (front ++ behind) = durations front ++ durations behind :=
  List.filterMap_append

theorem durations_logged (records : List Log) : durations (records.map .logged) = [] := by
  simp [durations, List.filterMap_map, Event.duration?, Function.comp_def]

namespace Measurement

def attribute? (about : Attribute) (m : Measurement) : Option String := m.attributes.lookup about

theorem lookup_known_append {about other : Attribute} (different : other ≠ about) (value : Option String)
    (rest : List (Attribute × String)) : (known about value ++ rest).lookup other = rest.lookup other := by
  cases value with
  | none => rfl
  | some text =>
    have apart : (other == about) = false := beq_eq_false_iff_ne.mpr different
    change (((about, text) :: rest).lookup other) = _
    rw [List.lookup_cons, apart]

theorem lookup_known_self (about : Attribute) (value : Option String) : (known about value).lookup about = value := by
  cases value with
  | none => rfl
  | some text => simp [known]

theorem lookup_status (request : Request) (clientId : Option String) (retries : Nat)
    (response : Option (Nat × Headers)) :
    (attributesOf request clientId retries response).lookup .status = response.map fun r => toString r.1 := by
  have skip (about : Attribute) (different : Attribute.status ≠ about) (text : String)
      (rest : List (Attribute × String)) : ((about, text) :: rest).lookup .status = rest.lookup .status :=
    lookup_known_append different (some text) rest
  rw [attributesOf, skip _ (by decide), skip _ (by decide)]
  simp only [List.append_assoc]
  rw [lookup_known_append (by decide), lookup_known_append (by decide), lookup_known_append (by decide),
    List.singleton_append, skip _ (by decide), lookup_known_self]

/-- A call that ends is measured to have taken a time once, whatever the server says about its own. -/
theorem durations_ofCall (request : Request) (clientId : Option String) (retries : Nat)
    (response : Option (Nat × Headers)) (time : Span) :
    durations ((ofCall request clientId retries response time).map .measured) =
      [⟨.elapsed time, attributesOf request clientId retries response⟩] := by
  unfold ofCall
  dsimp only
  split
  · rfl
  · rfl

end Measurement

namespace Call.Course

variable {course : Course} {n i : Nat} {message : Message}

theorem durations_posted (i : Nat) (message : Message) (behind : List Event) :
    durations (course.posted i message :: behind) = durations behind := rfl

theorem durations_setback (i : Nat) (message : Message) : durations (course.setback i message) = [] := by
  have noted : durations (course.noted i) = [] := durations_logged _
  rw [setback, List.cons_append, durations_posted, durations_append, noted]
  rfl

/-- The measurement of a whole call, told by its number of retries and by what its last attempt met. -/
structure Measures (course : Course) (n : Nat) (m : Measurement) : Prop where
  operation : m.attribute? .operation = some course.request.operation
  retries : m.attribute? .retries = some (toString n)
  status : m.attribute? .status = match course.outcome n with
    | .ok response => some (toString response.status)
    | .error _ => none

theorem measures_of_status (response : Option (Nat × Headers)) (time : Span)
    (last : response.map (fun r => toString r.1) = match course.outcome n with
      | .ok response => some (toString response.status)
      | .error _ => none) :
    course.Measures n ⟨.elapsed time, Measurement.attributesOf course.request course.identity.clientId n response⟩ :=
  ⟨rfl, rfl, (Measurement.lookup_status ..).trans last⟩

/-- A call that finishes with what its last attempt met is measured once. No other end is measured: the call was dropped,
or its last attempt was neither sent nor made. -/
theorem Finishes.durations_cases {result : Except Stop Response} {added : List Event}
    (ends : course.Finishes n result added) :
    (∃ message m, added.filterMap Event.message? = [message] ∧ course.Writes n message ∧
        durations added = [m] ∧ course.Measures n m) ∨
      durations added = [] ∧ (result = .error .dropped ∨
        added = [] ∧ ((∃ stop, course.authorization n = .error stop ∧ result = .error stop) ∨
          course.request.message? n (course.granted n) = none)) := by
  cases ends with
  | unauthorized denied => exact Or.inr ⟨rfl, Or.inr ⟨rfl, Or.inl ⟨_, denied, rfl⟩⟩⟩
  | unwritten _ unwritten => exact Or.inr ⟨rfl, Or.inr ⟨rfl, Or.inr unwritten⟩⟩
  | unanswered => exact Or.inr ⟨rfl, Or.inl rfl⟩
  | @succeeded message response time authorized written success =>
    have met : course.outcome n = .ok response := by
      cases outcome : course.outcome n with
      | error failure =>
        rw [outcome] at success
        cases success
      | ok other =>
        rw [outcome, success?] at success
        split at success
        · cases success
          rfl
        · cases success
    have once := Measurement.durations_ofCall course.request course.identity.clientId n
      (some (response.status, response.headers)) time
    refine Or.inl ⟨message, _, ?_, ⟨authorized, written⟩, once, measures_of_status _ time ?_⟩
    · simp [posted, Event.message?, messages_measured]
    · rw [met]
      rfl
  | @exhausted message time authorized written _ _ =>
    have once := Measurement.durations_ofCall course.request course.identity.clientId n
      (responseOf (course.cause n)) time
    have silent := durations_logged (unreadRecords (course.outcome n))
    refine Or.inl ⟨message, _, ?_, ⟨authorized, written⟩, ?_, measures_of_status (responseOf (course.cause n)) time ?_⟩
    · simp [posted, Event.message?, messages_measured, List.filterMap_map, Function.comp_def]
    · rw [List.cons_append, durations_posted, durations_append, silent]
      exact once
    · rw [cause]
      cases course.outcome n with
      | ok response => rfl
      | error failure => rfl
  | unwaited => exact Or.inr ⟨durations_setback n _, Or.inl rfl⟩

/-- Nothing is measured of an attempt that is repeated. -/
theorem Ended.durations_own (ended : course.Ended n) : durations (course.own n) = durations (course.closing n) := by
  have none : durations ((List.range n).flatMap course.attempting) = [] := by
    refine List.filterMap_eq_nil_iff.mpr fun event inside => ?_
    obtain ⟨i, below, here⟩ := List.mem_flatMap.mp inside
    obtain ⟨message, round⟩ := ended.rounds i (List.mem_range.mp below)
    rw [round.attempting_eq] at here
    exact List.filterMap_eq_nil_iff.mp (durations_setback i message) event here
  rw [own, durations_append, none, List.nil_append]

theorem Ended.operation_of_mem (ended : course.Ended n) {m : Measurement} (inside : m ∈ durations (course.own n)) :
    m.attribute? .operation = some course.request.operation := by
  rw [ended.durations_own] at inside
  rcases ended.ends.durations_cases with ⟨_, only, _, _, one, measures⟩ | ⟨none, _⟩
  · rw [one] at inside
    exact List.mem_singleton.mp inside ▸ measures.operation
  · rw [none] at inside
    cases inside

end Call.Course

namespace Token.Source

open Call

variable (source : Source) (w : Surroundings) (s : Session)

/-- An exchange adds records to what its call does, and nothing else. -/
theorem exchange_events :
    ∃ records : List Log,
      (source.exchange w s).2.events = (source.course w s).result.2.events ++ records.map .logged := by
  rcases called : (source.course w s).result with ⟨stop | response, t⟩
  · have stopped : source.exchange w s = (.error stop, t) := bind_error called
    exact ⟨[], by rw [stopped]; exact (List.append_nil _).symm⟩
  · have opened : source.exchange w s = (Act.receive >>= fun _ => Act.lift (answerOf response) >>= fun answer =>
        Act.log (source.records answer) >>= fun _ => Act.readClock >>= fun reading =>
          pure (AccessToken.livingFor answer.accessToken reading.1 (answer.expiresIn.map Span.ofSeconds))) w t :=
      bind_ok called
    rw [opened]
    rcases await_cases w t (t.time + (w.bodies (t.sent - 1)).nanos) with ⟨u, dropped, same⟩ | received
    · have left : Act.receive w t = (.error .dropped, u) := dropped
      rw [bind_error left]
      exact ⟨[], by rw [same]; exact (List.append_nil _).symm⟩
    · have here : Act.receive w t = (.ok (), _) := received
      rw [bind_ok here]
      cases answerOf response with
      | error failure => exact ⟨[], (List.append_nil _).symm⟩
      | ok answer => exact ⟨source.records answer, rfl⟩

/-- An exchange sends what its call sends. -/
theorem messages_exchange : (source.exchange w s).2.messages = (source.course w s).result.2.messages := by
  obtain ⟨records, events⟩ := source.exchange_events w s
  rw [Session.messages, events, List.filterMap_append]
  simp [Session.messages, List.filterMap_map, Function.comp_def, Event.message?]

/-- What is measured to take time in a session is an exchange, from a given point on. -/
def Exchanging (s t : Session) : Prop :=
  ∃ added, t.events = s.events ++ added ∧ ∀ m ∈ durations added, m.attribute? .operation = some exchangeOperation

variable {s} in
theorem Exchanging.silent {t u : Session} {added : List Event} (measures : Exchanging s t)
    (more : u.events = t.events ++ added) (quiet : durations added = []) : Exchanging s u := by
  obtain ⟨before, same, exchanges⟩ := measures
  refine ⟨before ++ added, by rw [more, same, List.append_assoc], ?_⟩
  rwa [durations_append, quiet, List.append_nil]

theorem exchanging_course : Exchanging s (source.course w s).result.2 := by
  obtain ⟨n, ended⟩ := (source.course w s).exists_ended
  obtain ⟨added, same, origin⟩ := ended.exists_added
  refine ⟨added, same, fun m measured => ?_⟩
  obtain ⟨event, inside, found⟩ := List.mem_filterMap.mp measured
  rcases origin event inside with ⟨i, authorizing⟩ | own
  · -- The call of an exchange is not authorized, so nothing is added for it.
    have none : (source.course w s).authorizing i = [] := List.drop_length
    rw [none] at authorizing
    cases authorizing
  · exact ended.operation_of_mem (List.mem_filterMap.mpr ⟨event, own, found⟩)

theorem exchanging_token : Exchanging s (source.token w s).2 := by
  cases found : usable? w s with
  | some held =>
    rw [token_usable found]
    exact ⟨[], (List.append_nil _).symm, nofun⟩
  | none =>
    obtain ⟨records, exchanged⟩ := source.exchange_events w (looked s)
    have measures : Exchanging s (source.exchange w (looked s)).2 :=
      (source.exchanging_course w (looked s)).silent exchanged (durations_logged records)
    rcases token_stale source found with ⟨token, t, ended, same⟩ | ⟨stop, t, ended, same⟩
    · rw [ended] at measures
      rw [same]
      exact measures.silent rfl rfl
    · rw [ended] at measures
      rw [same]
      exact measures

theorem exchanging_authorization (authorizer : Authorizer) :
    Exchanging s (authorizer.authorization w s).2 := by
  cases authorizer with
  | none | apiToken token =>
    rw [Authorizer.authorization_eq]
    exact ⟨[], (List.append_nil _).symm, nofun⟩
  | issued source =>
    rw [authorization_issued]
    exact source.exchanging_token w s

end Token.Source

namespace Call.Course

variable {course : Course} {n : Nat}

theorem exchanging_authorizing (course : Course) (i : Nat) {m : Measurement}
    (inside : m ∈ durations (course.authorizing i)) : m.attribute? .operation = some Token.exchangeOperation := by
  obtain ⟨added, same, exchanges⟩ :=
    Token.Source.exchanging_authorization course.surroundings (course.before i) course.authorizer
  have ready : (course.ready i).events = (course.before i).events ++ added := same
  have here : course.authorizing i = added := by rw [authorizing, ready, List.drop_left]
  exact exchanges m (here ▸ inside)

/-- Whether a message can be written does not depend on the attempt. -/
theorem Ended.written (ended : course.Ended n) (later : 0 < n) :
    course.request.message? n (course.granted n) ≠ none := by
  obtain ⟨message, first⟩ := ended.rounds 0 later
  have built := first.written
  intro unwritten
  rw [Request.message?] at built unwritten
  cases target : Target.parse? course.request.url.text with
  | none =>
    rw [target] at built
    cases built
  | some target =>
    rw [target] at unwritten
    cases unwritten

/-- A call that has sent something and was not dropped is measured once, or its last authorization failed. -/
theorem Ended.durations_cases (ended : course.Ended n) (kept : course.result.1 ≠ .error .dropped)
    (sent : (course.own n).filterMap Event.message? ≠ []) :
    (∃ m, List.Forall₂ course.Writes (List.range (n + 1)) ((course.own n).filterMap Event.message?) ∧
      durations (course.own n) = [m] ∧ course.Measures n m) ∨
    ∃ stop, List.Forall₂ course.Writes (List.range n) ((course.own n).filterMap Event.message?) ∧
      course.authorization n = .error stop ∧ course.result.1 = .error stop ∧ durations (course.own n) = [] := by
  have rounds := writes_rounds ended n (Nat.le_refl n)
  have messages : (course.own n).filterMap Event.message? =
      ((List.range n).flatMap course.attempting).filterMap Event.message? ++
        (course.closing n).filterMap Event.message? := List.filterMap_append
  rw [ended.durations_own]
  rcases ended.ends.durations_cases with ⟨message, m, one, written, once, measures⟩ | ⟨none, dropped | ⟨nothing, why⟩⟩
  · refine Or.inl ⟨m, ?_, once, measures⟩
    rw [messages, one, List.range_succ]
    exact List.rel_append rounds (.cons written .nil)
  · exact absurd dropped kept
  · rw [nothing, List.filterMap_nil, List.append_nil] at messages
    -- The last attempt sent nothing, so an earlier one did, and messages can be written.
    have later : 0 < n := by
      cases n with
      | zero => exact absurd messages sent
      | succ n => exact Nat.succ_pos n
    rcases why with ⟨stop, denied, result⟩ | unwritten
    · exact Or.inr ⟨stop, messages ▸ rounds, denied, result, none⟩
    · exact absurd unwritten (ended.written later)

/-- Whatever a call does is done to authorize its attempts, which is measured as exchanges at most, or by itself. Its own
messages are those of its first attempts. If there are any, and the call gives a result, it measures itself once, with
the number of its messages less one as that of its retries and the status of its last response, but for one case: the
authorization of an attempt behind them fails. Then it gives that failure and measures nothing. -/
theorem durations_of_attempts (course : Course) :
    ∃ n, n ≤ course.plan.maxRetries ∧
      course.result.2.events = course.start.events ++
        (List.range n).flatMap (fun i => course.authorizing i ++ course.attempting i) ++
        (course.authorizing n ++ course.closing n) ∧
      (∀ i, ∀ m ∈ durations (course.authorizing i), m.attribute? .operation = some Token.exchangeOperation) ∧
      (∀ m ∈ durations (course.own n), m.attribute? .operation = some course.request.operation) ∧
      ∃ k, List.Forall₂ course.Writes (List.range k) ((course.own n).filterMap Event.message?) ∧
        (course.result.1 ≠ .error .dropped → 0 < k →
          (∃ m, k = n + 1 ∧ durations (course.own n) = [m] ∧ course.Measures (k - 1) m) ∨
          ∃ stop, k = n ∧ course.authorization k = .error stop ∧ course.result.1 = .error stop ∧
            durations (course.own n) = []) := by
  obtain ⟨n, ended⟩ := course.exists_ended
  refine ⟨n, ended.within, ended.events_result, fun i m inside => course.exchanging_authorizing i inside,
    fun m inside => ended.operation_of_mem inside, ?_⟩
  obtain ⟨k, writes⟩ := ended.writes
  have count : k = ((course.own n).filterMap Event.message?).length := List.length_range.symm.trans writes.length_eq
  refine ⟨k, writes, fun kept some => ?_⟩
  have sent : (course.own n).filterMap Event.message? ≠ [] := by
    rw [count] at some
    exact List.ne_nil_of_length_pos some
  rcases ended.durations_cases kept sent with ⟨m, all, once, measures⟩ | ⟨stop, all, denied, result, none⟩
  · have last : k = n + 1 := count.trans (all.length_eq.symm.trans List.length_range)
    exact Or.inl ⟨m, last, once, last ▸ measures⟩
  · have last : k = n := count.trans (all.length_eq.symm.trans List.length_range)
    exact Or.inr ⟨stop, last, last ▸ denied, result, none⟩

/-- A call with a token that does not last until the call is repeated; no other token is issued. -/
def lapsing : Course :=
  { flaky with
    identity := Token.Source.issuer.identity
    plan := ⟨1, Span.ofMillis 100⟩
    authorizer := .issued Token.Source.issuer
    surroundings := { flaky.surroundings with
      replies := fun
        | 0 => ⟨.ok ⟨200, [], [.data (Text.Utf8.encodeChars
            "\x7b\"access_token\":\"first\",\"expires_in\":60\x7d".toList)], none⟩, .zero⟩
        | 1 => ⟨.ok ⟨503, [], [], none⟩, .zero⟩
        | _ => ⟨.ok ⟨401, [], [], none⟩, .zero⟩ } }

/-- The call is sent and gives an error, and only the two exchanges are measured. -/
theorem not_measured_lapsing :
    lapsing.result.2.messages.map (·.method) = ["POST", "GET", "POST"] ∧
    (∃ error, lapsing.result.1 = .error (.failed error)) ∧
    (durations lapsing.result.2.events).map (fun m => m.attribute? .operation) =
      [some Token.exchangeOperation, some Token.exchangeOperation] ∧
    lapsing.request.operation ≠ Token.exchangeOperation := by
  have methods : lapsing.result.2.messages.map (·.method) = ["POST", "GET", "POST"] := by decide +kernel
  have measured : (durations lapsing.result.2.events).map (fun m => m.attribute? .operation) =
      [some Token.exchangeOperation, some Token.exchangeOperation] := by decide +kernel
  have failed : (match lapsing.result.1 with | .error (.failed _) => true | _ => false) = true := by decide +kernel
  refine ⟨methods, ?_, measured, by decide⟩
  split at failed
  · rename_i error result
    exact ⟨error, result⟩
  · cases failed

end Call.Course

end AuthzClient
