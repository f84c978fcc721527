import AuthzClient.Proofs.Token.Authorization

/-!
Errors that are found on this side: a wrong argument, or a request that cannot be written. A call gives one only for an
attempt that is not made, so nothing happens behind the authorization of that attempt. Neither an attempt before it nor
a token held before the call leads there: what is sent then is an exchange, for a token that cannot stand in a header or
for a request that could not be written from the first.
-/

namespace AuthzClient

open Http Act

/-- An argument was wrong or a request could not be written. -/
def ClientError.isLocal : ClientError → Bool
  | invalidParameter _ _ | encode _ _ => true
  | _ => false

namespace Call.Course

variable {course : Course} {n i left began : Nat} {message : Message} {error : ClientError}

/-- An attempt is not made: it is not authorized, or its message cannot be written. -/
inductive Blocked (course : Course) (i : Nat) : ClientError → Prop
  | unauthorized {error : ClientError} : course.authorization i = .error (.failed error) → course.Blocked i error
  | unwritten : course.Authorized i → Target.parse? course.request.url.text = none →
    course.Blocked i (.encode course.request.operation .unbuildable)

theorem parse?_of_written {value : Option HeaderValue} (written : course.request.message? i value = some message) :
    (Target.parse? course.request.url.text).isSome = true := by
  obtain ⟨target, built, _⟩ := Option.map_eq_some_iff.mp written
  rw [built]
  rfl

/-- An attempt that ends with a failure is not made, and nothing happens behind its authorization. -/
theorem blocked_of_sendOnce {t : Session}
    (stopped : sendOnce course.request course.authorizer.authorization i course.surroundings (course.before i) =
      (.error (.failed error), t)) : course.Blocked i error ∧ t = course.ready i := by
  cases asked : course.authorization i with
  | error stop =>
    have denied : course.authorizer.authorization course.surroundings (course.before i) =
        (.error stop, course.ready i) := Prod.ext asked rfl
    cases stopped.symm.trans (bind_error denied)
    exact ⟨.unauthorized asked, rfl⟩
  | ok value =>
    have authorized : course.Authorized i := ⟨value, asked⟩
    cases written : course.request.message? i (course.granted i) with
    | none =>
      have granted : course.authorizer.authorization course.surroundings (course.before i) =
          (.ok (course.granted i), course.ready i) := Prod.ext authorized.granted rfl
      rw [sendOnce, bind_ok granted, written] at stopped
      cases stopped
      exact ⟨.unwritten authorized (Option.map_eq_none_iff.mp written), rfl⟩
    | some message =>
      rcases sendOnce_cases authorized written with ⟨_, _, dropped⟩ | answered
      · cases stopped.symm.trans dropped
      · cases stopped.symm.trans answered

theorem rest_of_blocked {stop : Stop} {t : Session} {earlier : List Cause}
    (stopped : sendOnce course.request course.authorizer.authorization i course.surroundings (course.before i) =
      (.error stop, t)) (failed : (course.rest began left i earlier).1 = .error (.failed error)) :
    course.Blocked i error ∧ (course.rest began left i earlier).2 = course.ready i := by
  rw [rest_of_stop stopped] at failed ⊢
  cases failed
  exact blocked_of_sendOnce stopped

/-- An attempt that is made does not end its call with such an error. -/
theorem Finishes.isLocal_eq_false {result : Except Stop Response} {added : List Event}
    (ends : course.Finishes i result added) (authorized : course.Authorized i)
    (written : course.request.message? i (course.granted i) = some message)
    (failed : result = .error (.failed error)) : error.isLocal = false := by
  cases ends with
  | unauthorized denied =>
    obtain ⟨value, granted⟩ := authorized
    cases granted.symm.trans denied
  | unwritten _ unwritten => cases written.symm.trans unwritten
  | exhausted =>
    cases failed
    rfl
  | unanswered | succeeded | unwaited => cases failed

/-- From any attempt on a call gives such an error for the first attempt that is not made, and stops there. By induction on
the attempts that are left: one that is made either ends the call with an error of the other side or is repeated. -/
theorem rest_blocked (isLocal : error.isLocal = true) (budget : i + left = course.plan.maxRetries)
    (failed : (course.rest began left i (course.causes 0 i)).1 = .error (.failed error)) :
    ∃ n, i ≤ n ∧ (∀ j, i ≤ j → j < n → ∃ message, course.Round j message) ∧ course.Blocked n error ∧
      (course.rest began left i (course.causes 0 i)).2 = course.ready n := by
  induction left generalizing i with
  | zero =>
    rcases attempt_cases course i with ⟨_, authorized, written, answered⟩ | ⟨stop, t, _, _, _, stopped⟩
    · obtain ⟨⟨_, ends, _⟩, _⟩ := rest_finishes answered authorized written budget (Or.inl rfl)
      cases isLocal.symm.trans (ends.isLocal_eq_false authorized written failed)
    · obtain ⟨blocked, last⟩ := rest_of_blocked stopped failed
      exact ⟨i, Nat.le_refl i, fun j above below => by omega, blocked, last⟩
  | succ left ih =>
    rcases attempt_cases course i with ⟨_, authorized, written, answered⟩ | ⟨stop, t, _, _, _, stopped⟩
    · cases again : isRetryable (course.outcome i) with
      | false =>
        obtain ⟨⟨_, ends, _⟩, _⟩ := rest_finishes answered authorized written budget (Or.inr again)
        cases isLocal.symm.trans (ends.isLocal_eq_false authorized written failed)
      | true =>
        rcases round_cases authorized written answered again with round | ⟨_, _, dropped⟩
        · rw [rest_round round, ← causes_snoc] at failed ⊢
          obtain ⟨n, above, rounds, blocked, last⟩ := ih (by omega) failed
          refine ⟨n, by omega, fun j lower upper => ?_, blocked, last⟩
          rcases Nat.eq_or_lt_of_le lower with rfl | later
          · exact ⟨_, round⟩
          · exact rounds j later upper
        · rw [dropped] at failed
          cases failed
    · obtain ⟨blocked, last⟩ := rest_of_blocked stopped failed
      exact ⟨i, Nat.le_refl i, fun j above below => by omega, blocked, last⟩

/-- A call that gives such an error has come to an attempt that is not made. -/
theorem result_blocked (isLocal : error.isLocal = true) (failed : course.result.1 = .error (.failed error)) :
    ∃ n, (∀ j, j < n → ∃ message, course.Round j message) ∧ course.Blocked n error ∧ course.result.2 = course.ready n := by
  have whole : course.result = course.rest course.start.time course.plan.maxRetries 0 (course.causes 0 0) := rfl
  rw [whole] at failed ⊢
  obtain ⟨n, _, rounds, blocked, last⟩ := rest_blocked isLocal (Nat.zero_add _) failed
  exact ⟨n, fun j below => rounds j (Nat.zero_le j) below, blocked, last⟩

/-- Behind the authorization of its attempt a round leaves the token alone. -/
theorem Round.cache_eq (round : course.Round i message) : (course.before (i + 1)).cache = (course.ready i).cache := by
  obtain ⟨outcome, t, sent, repeated⟩ := bind_eq_ok round.passed
  rcases sendOnce_cases round.authorized round.written with ⟨_, _, dropped⟩ | answered
  · cases sent.symm.trans dropped
  · cases sent.symm.trans answered
    have mild := lenient_untouched.toMild
    have untouched := mild.bind (mild.log (unreadRecords (course.outcome i)))
      (fun _ => respects_pause course.identity course.request course.plan mild i (course.outcome i))
      course.surroundings (course.met i message)
    rw [repeated] at untouched
    exact untouched

/-- Nothing is sent for a request that cannot be written as a target, whatever the attempt. -/
theorem round_zero_written (rounds : ∀ j, j < n → ∃ message, course.Round j message)
    (unbuilt : Target.parse? course.request.url.text = none) : n = 0 := by
  cases n with
  | zero => rfl
  | succ n =>
    obtain ⟨message, round⟩ := rounds 0 (Nat.succ_pos n)
    have built := parse?_of_written round.written
    rw [unbuilt] at built
    cases built

end Call.Course

namespace Token.Source

variable {source : Source} {w : Surroundings} {s t : Session} {error : ClientError}

theorem url_course : (source.course w s).request.url = source.endpoint := rfl

/-- An exchange gives such an error only if the token endpoint cannot be written as a target, and nothing happens then. -/
theorem exchange_blocked (isLocal : error.isLocal = true) (failed : source.exchange w s = (.error (.failed error), t)) :
    Target.parse? source.endpoint.text = none ∧ t = s := by
  have called : (source.course w s).result.1 = .error (.failed error) := by
    rcases exchange_eq_error (congrArg Prod.fst failed) with called | dropped | ⟨failure, broken⟩ | ⟨fault, unread⟩
    · exact called
    · cases dropped
    · cases broken
      cases isLocal
    · cases unread
      cases isLocal
  obtain ⟨n, rounds, blocked, last⟩ := Call.Course.result_blocked isLocal called
  have stopped : source.exchange w s = (.error (.failed error), (source.course w s).result.2) :=
    bind_error (Prod.ext called rfl)
  cases blocked with
  | unauthorized denied => cases denied
  | unwritten _ unbuilt =>
    cases Call.Course.round_zero_written rounds unbuilt
    refine ⟨url_course ▸ unbuilt, ?_⟩
    obtain ⟨-, same⟩ := Prod.mk.inj (failed.symm.trans stopped)
    rw [same, last]
    rfl

/-- A token is issued only at an endpoint that can be written as a target. -/
theorem parse?_of_exchange {token : AccessToken} (given : (source.exchange w s).1 = .ok token) :
    (Target.parse? source.endpoint.text).isSome = true := by
  obtain @⟨response, u, _, _, _, called, _⟩ := exchange_ok_iff.mp given
  obtain ⟨n, ended⟩ := (source.course w s).exists_ended
  have ends := ended.ends
  generalize (source.course w s).closing n = added at ends
  rw [called] at ends
  cases ends with
  | succeeded _ _ written =>
    have built := Call.Course.parse?_of_written written
    rwa [url_course] at built

/-- What an authorization by a source does: it takes the token held, has one issued and stored, or fails as the exchange
does. -/
theorem authorization_cases (source : Source) (w : Surroundings) (s : Session) :
    (∃ held, s.cache.held = some held ∧
      (Authorizer.issued source).authorization w s = (Authorizer.header (some held.token.value), looked s)) ∨
    (∃ token t, source.exchange w (looked s) = (.ok token, t) ∧ t.cache = s.cache ∧
      (Authorizer.issued source).authorization w s = (Authorizer.header (some token.value), source.stored token t)) ∨
    ∃ stop t, source.exchange w (looked s) = (.error stop, t) ∧
      (Authorizer.issued source).authorization w s = (.error stop, t) := by
  rw [authorization_issued]
  cases found : usable? w s with
  | some held =>
    rw [token_usable found]
    exact Or.inl ⟨held, (usable?_eq_some_iff.mp found).1, rfl⟩
  | none =>
    have untouched : (source.exchange w (looked s)).2.cache = s.cache :=
      source.respects_exchange lenient_untouched w (looked s)
    rcases token_stale source found with ⟨token, t, ended, same⟩ | ⟨stop, t, ended, same⟩
    · rw [ended] at untouched
      rw [same]
      exact Or.inr (Or.inl ⟨token, t, ended, untouched, rfl⟩)
    · rw [same]
      exact Or.inr (Or.inr ⟨stop, t, ended, rfl⟩)

end Token.Source

namespace Call

/-- Why a token was issued in vain: it cannot stand in a header, or the request it was issued for cannot be written. -/
inductive Futile (request : Request) (held : Token.Held) : ClientError → Prop
  | token : ¬held.token.value.IsSendable → Futile request held (.invalidParameter "accessToken" "Authorization")
  | target : Target.parse? request.url.text = none → Futile request held (.encode request.operation .unbuildable)

namespace Course

variable {course : Course} {source : Token.Source} {n i : Nat} {error : ClientError}

/-- How a source answers an attempt that asks for its authorization: with the token held, with a token that is issued and
stored, or with the failure of the exchange. -/
inductive Answers (course : Course) (source : Token.Source) (i : Nat) : Prop
  | held {held : Token.Held} (inside : (course.before i).cache.held = some held)
    (answer : course.authorization i = Authorizer.header (some held.token.value))
    (ready : course.ready i = Token.Source.looked (course.before i)) : Answers course source i
  | issued {token : AccessToken} {t : Session}
    (exchanged : source.exchange course.surroundings (Token.Source.looked (course.before i)) = (.ok token, t))
    (untouched : t.cache = (course.before i).cache)
    (answer : course.authorization i = Authorizer.header (some token.value))
    (ready : course.ready i = source.stored token t) : Answers course source i
  | refused {stop : Stop}
    (exchanged : source.exchange course.surroundings (Token.Source.looked (course.before i)) =
      (.error stop, course.ready i))
    (answer : course.authorization i = .error stop) : Answers course source i

theorem answers (issued : course.authorizer = .issued source) (i : Nat) : course.Answers source i := by
  have asked : course.authorizer.authorization course.surroundings (course.before i) =
      (course.authorization i, course.ready i) := rfl
  rw [issued] at asked
  rcases source.authorization_cases course.surroundings (course.before i) with ⟨held, inside, same⟩ |
    ⟨token, t, exchanged, untouched, same⟩ | ⟨stop, t, exchanged, same⟩
  · obtain ⟨answer, ready⟩ := Prod.mk.inj (asked.symm.trans same)
    exact .held inside answer ready
  · obtain ⟨answer, ready⟩ := Prod.mk.inj (asked.symm.trans same)
    exact .issued exchanged untouched answer ready
  · obtain ⟨answer, ready⟩ := Prod.mk.inj (asked.symm.trans same)
    exact .refused (ready ▸ exchanged) answer

/-- Whoever is authorized by a source is so with the token that is held then. -/
theorem held_of_authorized (issued : course.authorizer = .issued source) (authorized : course.Authorized i) :
    ∃ held, (course.ready i).cache.held = some held ∧ held.token.value.IsSendable := by
  obtain ⟨value, granted⟩ := authorized
  cases answers issued i with
  | held inside answer ready => exact ⟨_, ready ▸ inside, Authorizer.header_eq_ok (answer.symm.trans granted)⟩
  | issued _ _ answer ready =>
    rw [ready]
    exact ⟨_, rfl, Authorizer.header_eq_ok (answer.symm.trans granted)⟩
  | refused _ answer => cases answer.symm.trans granted

/-- Whoever is authorized by a source has found a token or had one issued. -/
theorem parse?_of_authorized (issued : course.authorizer = .issued source) (authorized : course.Authorized i)
    (reached : (course.before i).cache.held.isSome = true → (Target.parse? source.endpoint.text).isSome = true) :
    (Target.parse? source.endpoint.text).isSome = true := by
  obtain ⟨value, granted⟩ := authorized
  cases answers issued i with
  | held inside => exact reached (by rw [inside]; rfl)
  | issued exchanged => exact Token.Source.parse?_of_exchange (congrArg Prod.fst exchanged)
  | refused _ answer => cases answer.symm.trans granted

theorem stored_le_ready (issued : course.authorizer = .issued source) (i : Nat) :
    (course.before i).cache.stored ≤ (course.ready i).cache.stored := by
  cases answers issued i with
  | held _ _ ready =>
    rw [ready]
    exact Nat.le_refl _
  | issued _ untouched _ ready =>
    rw [ready, ← untouched]
    exact Nat.le_succ _
  | refused exchanged =>
    have untouched := source.respects_exchange lenient_untouched course.surroundings (Token.Source.looked (course.before i))
    rw [exchanged] at untouched
    exact Nat.le_of_eq (congrArg Token.Cache.stored untouched.symm)

theorem stored_le_before (issued : course.authorizer = .issued source)
    (rounds : ∀ j, j < n → ∃ message, course.Round j message) :
    course.start.cache.stored ≤ (course.before n).cache.stored := by
  induction n with
  | zero => exact Nat.le_refl _
  | succ n ih =>
    obtain ⟨message, round⟩ := rounds n (Nat.lt_succ_self n)
    have earlier := ih fun j below => rounds j (Nat.lt_succ_of_lt below)
    rw [round.cache_eq]
    exact Nat.le_trans earlier (stored_le_ready issued n)

/-- A call by nobody or with a fixed token is authorized in the same way each time, and nothing happens for it. -/
theorem untouched_of_unissued {value : Except Stop (Option HeaderValue)}
    (fixed : ∀ w s, course.authorizer.authorization w s = (value, s)) (isLocal : error.isLocal = true)
    (failed : course.result.1 = .error (.failed error)) : course.result.2 = course.start := by
  obtain ⟨n, rounds, blocked, last⟩ := result_blocked isLocal failed
  have same (i : Nat) : course.authorization i = value := congrArg Prod.fst (fixed ..)
  have first : n = 0 := by
    cases blocked with
    | unwritten _ unbuilt => exact round_zero_written rounds unbuilt
    | unauthorized denied =>
      cases n with
      | zero => rfl
      | succ n =>
        obtain ⟨message, round⟩ := rounds 0 (Nat.succ_pos n)
        obtain ⟨granted, authorized⟩ := round.authorized
        cases (denied.symm.trans ((same _).trans (same 0).symm)).trans authorized
  rw [last, first]
  exact congrArg Prod.snd (fixed ..)

/-- A request that cannot be written has a token issued unless one can be used. -/
theorem untouched_or_futile_of_unwritten (issued : course.authorizer = .issued source)
    (authorized : course.Authorized 0) (unbuilt : Target.parse? course.request.url.text = none) :
    (course.ready 0).messages = course.start.messages ∧ (course.ready 0).cache = course.start.cache ∨
      ∃ held, (course.ready 0).cache.held = some held ∧ course.start.cache.stored ≤ held.number ∧
        Futile course.request held (.encode course.request.operation .unbuildable) := by
  cases answers issued 0 with
  | held _ _ ready =>
    rw [ready]
    exact Or.inl ⟨rfl, rfl⟩
  | issued _ untouched _ ready =>
    rw [ready]
    exact Or.inr ⟨_, rfl, Nat.le_of_eq (congrArg Token.Cache.stored untouched.symm), .target unbuilt⟩
  | refused _ answer =>
    obtain ⟨value, granted⟩ := authorized
    cases answer.symm.trans granted

/-- An attempt that is not authorized is the first one, or has a token that was just issued. -/
theorem untouched_or_futile_of_unauthorized (issued : course.authorizer = .issued source) (isLocal : error.isLocal = true)
    (rounds : ∀ j, j < n → ∃ message, course.Round j message)
    (denied : course.authorization n = .error (.failed error))
    (reached : course.start.cache.held.isSome = true → (Target.parse? source.endpoint.text).isSome = true) :
    (course.ready n).messages = course.start.messages ∧ (course.ready n).cache = course.start.cache ∨
      ∃ held, (course.ready n).cache.held = some held ∧ course.start.cache.stored ≤ held.number ∧
        Futile course.request held error := by
  have number := stored_le_before issued rounds
  cases answers issued n with
  | held inside answer ready =>
    obtain ⟨-, broken⟩ := Authorizer.header_eq_error (answer.symm.trans denied)
    cases n with
    | zero =>
      rw [ready]
      exact Or.inl ⟨rfl, rfl⟩
    | succ n =>
      -- The token held was good for the attempt before.
      obtain ⟨message, round⟩ := rounds n (Nat.lt_succ_self n)
      obtain ⟨other, there, sendable⟩ := held_of_authorized issued round.authorized
      rw [← round.cache_eq, inside] at there
      cases there
      exact absurd sendable broken
  | issued _ untouched answer ready =>
    obtain ⟨unsendable, broken⟩ := Authorizer.header_eq_error (answer.symm.trans denied)
    cases unsendable
    rw [← untouched] at number
    rw [ready]
    exact Or.inr ⟨_, rfl, number, .token broken⟩
  | refused exchanged answer =>
    cases answer.symm.trans denied
    obtain ⟨unbuilt, quiet⟩ := Token.Source.exchange_blocked isLocal exchanged
    cases n with
    | zero =>
      rw [quiet]
      exact Or.inl ⟨rfl, rfl⟩
    | succ n =>
      -- The first attempt was authorized, so a token has been issued at the endpoint.
      obtain ⟨message, round⟩ := rounds 0 (Nat.succ_pos n)
      have built := parse?_of_authorized issued round.authorized reached
      rw [unbuilt] at built
      cases built

/-- A call authorized by a source leaves everything as it was but for the readings, or it had a token issued. -/
theorem untouched_or_futile (issued : course.authorizer = .issued source) (isLocal : error.isLocal = true)
    (failed : course.result.1 = .error (.failed error))
    (reached : course.start.cache.held.isSome = true → (Target.parse? source.endpoint.text).isSome = true) :
    course.result.2.messages = course.start.messages ∧ course.result.2.cache = course.start.cache ∨
      ∃ held, course.result.2.cache.held = some held ∧ course.start.cache.stored ≤ held.number ∧
        Futile course.request held error := by
  obtain ⟨n, rounds, blocked, last⟩ := result_blocked isLocal failed
  rw [last]
  cases blocked with
  | unwritten authorized unbuilt =>
    cases round_zero_written rounds unbuilt
    exact untouched_or_futile_of_unwritten issued authorized unbuilt
  | unauthorized denied => exact untouched_or_futile_of_unauthorized issued isLocal rounds denied reached

end Course

end Call

end AuthzClient
