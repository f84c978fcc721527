import AuthzClient.Proofs.Client.Classification
import AuthzClient.Proofs.Client.Departure

/-!
Encryption. A transport lets plain HTTP pass only if the configuration names it, for the server or for the issuer of tokens.
So it lets pass whatever the client writes itself; and where the configuration does not name it, a plain request of the
caller is refused, once.
-/

namespace AuthzClient

open Http

section Targets

variable {url : Url} {target : Target}

theorem Http.Target.opening_web {scheme : List Char} (web : scheme = "http".toList ∨ scheme = "https".toList)
    (rest : List Char) : Target.opening (scheme ++ ':' :: '/' :: '/' :: rest) = .scheme scheme rest := by
  rcases web with rfl | rfl <;> rfl

/-- The target that a URL of the web with a host is written as has its scheme, and an authority. -/
theorem Url.target_of_web (web : url.scheme = "http" ∨ url.scheme = "https") (hosted : url.host.isSome = true)
    (written : Target.parse? url.text = some target) :
    target.scheme = some url.scheme ∧ target.authority.isSome = true := by
  obtain ⟨host, named⟩ := Option.isSome_iff_exists.mp hosted
  obtain ⟨rest, text⟩ : ∃ rest, url.chars = url.scheme.toList ++ ':' :: '/' :: '/' :: rest := by
    rw [Url.chars, Url.authorityChars, named]
    exact ⟨_, by simp only [List.cons_append]; rfl⟩
  have web : url.scheme.toList = "http".toList ∨ url.scheme.toList = "https".toList :=
    web.imp (congrArg String.toList) (congrArg String.toList)
  have full : Target.readFull? url.chars = some target := by
    rw [Target.parse?, Url.text, String.toList_ofList, text] at written
    rw [text]
    split at written
    · cases written
    · rcases web with http | https
      · rwa [http] at written ⊢
      · rwa [https] at written ⊢
  rw [text, Target.readFull?, Target.opening_web web] at full
  obtain ⟨⟨authority, behind⟩, _, full⟩ := Option.bind_eq_some_iff.mp full
  dsimp only at full
  split at full
  · cases full
  · obtain ⟨⟨path, query⟩, _, full⟩ := Option.bind_eq_some_iff.mp full
    cases full
    exact ⟨congrArg some String.ofList_toList, rfl⟩

end Targets

/-- Encrypted targets pass, and plain ones where they are allowed. -/
theorem Http.Transport.screen_of_web {target : Target} {scheme : String} {security : Security}
    (web : scheme = "http" ∨ scheme = "https") (named : target.scheme = some scheme)
    (hosted : target.authority.isSome = true) (allowed : scheme = "http" → security = .plainAllowed) :
    Transport.screen security target = .ok () := by
  obtain ⟨authority, found⟩ := Option.isSome_iff_exists.mp hosted
  rcases web with rfl | rfl
  · rw [allowed rfl, screen, found, named]
    rfl
  · rw [screen.eq_def, found, named]
    rfl

theorem Http.Transport.screen_plain {target : Target} (named : target.scheme = some "http")
    (hosted : target.authority.isSome = true) :
    Transport.screen .tlsOnly target =
      .error (.invalidScheme "http" "HTTPS required (transport security is TlsOnly)") := by
  obtain ⟨authority, found⟩ := Option.isSome_iff_exists.mp hosted
  rw [screen, found, named]
  rfl

/-- An issuer's endpoint belongs to the web and names a host. -/
theorem Endpoint.web_of_resolve {issuer : String} {endpoint : Url} (resolved : resolve issuer = .ok endpoint) :
    (endpoint.scheme = "http" ∨ endpoint.scheme = "https") ∧ endpoint.host.isSome = true := by
  obtain ⟨parsed, _, web, hosted, rfl⟩ := resolve_eq_ok_iff.mp resolved
  have named := Url.isSome_host hosted
  split
  · exact ⟨web, named⟩
  · exact ⟨web, named⟩

namespace Call.Course

variable {course : Course} {failure : TransportError} {message : Message}

/-- Each message of a call goes through a transport, whatever the service behind it replies. -/
def Carried (course : Course) (transport : Transport) : Prop :=
  ∀ i message, course.Writes i message → ∃ served, course.outcome i = transport.execute message.target served

/-- A message that the transport does not let pass meets the refusal. -/
theorem Carried.outcome_of_screen {transport : Transport} {i : Nat} (carried : course.Carried transport)
    (writes : course.Writes i message) (refused : Transport.screen transport.security message.target = .error failure) :
    course.outcome i = .error failure := by
  obtain ⟨served, met⟩ := carried i message writes
  rw [met, Transport.execute, refused]
  rfl

/-- A call whose first message is refused for good has no other attempt. -/
theorem ended_of_refused (refused : ∀ message, course.Writes 0 message → course.outcome 0 = .error failure)
    (final : failure.isRetryable = false) : course.Ended 0 := by
  obtain ⟨n, ended⟩ := course.exists_ended
  cases n with
  | zero => exact ended
  | succ n =>
    obtain ⟨message, round⟩ := ended.rounds 0 (Nat.succ_pos n)
    have again := round.again
    rw [refused message ⟨round.authorized, round.written⟩] at again
    cases final.symm.trans again

/-- It gives the refusal, with no failure behind it, unless the caller does not wait for that. -/
theorem Writes.result_of_refused (writes : course.Writes 0 message) (refused : course.outcome 0 = .error failure)
    (final : failure.isRetryable = false) :
    course.result.1 = .error (.failed (.transport course.request.operation failure)) ∨
      course.surroundings.deadline.isSome = true ∧ course.result.1 = .error .dropped := by
  have settled : isRetryable (course.outcome 0) = false := by rw [refused]; exact final
  have unsuccessful : success? (course.outcome 0) = none := by rw [refused]; rfl
  have cause : course.cause 0 = .transport course.request.operation failure := by rw [Course.cause, refused]; rfl
  cases patience : course.surroundings.deadline with
  | none =>
    left
    obtain ⟨target, built, _⟩ := Option.map_eq_some_iff.mp writes.written
    have answer : course.result.1 = course.ending 0 [] :=
      (rest_last ⟨patience, built⟩ writes.authorized (Or.inr settled)).1
    rw [ending, unsuccessful, cause] at answer
    exact answer
  | some deadline =>
    have ends := (ended_of_refused (fun _ _ => refused) final).ends
    generalize course.closing 0 = added at ends
    generalize course.result.1 = result at ends ⊢
    cases ends with
    | unauthorized denied =>
      obtain ⟨value, granted⟩ := writes.authorized
      cases granted.symm.trans denied
    | unwritten _ unwritten => cases writes.written.symm.trans unwritten
    | unanswered => exact Or.inr ⟨rfl, rfl⟩
    | succeeded _ _ _ success => cases unsuccessful.symm.trans success
    | exhausted =>
      rw [cause]
      exact Or.inl rfl
    | unwaited _ _ again => cases settled.symm.trans again

/-- Nothing but that message is sent by the call itself. -/
theorem Writes.messages_of_refused (writes : course.Writes 0 message) (ended : course.Ended 0) :
    (course.own 0).filterMap Event.message? = [message] := by
  have alone : course.own 0 = course.closing 0 := rfl
  rw [alone]
  have ends := ended.ends
  generalize course.closing 0 = added at ends ⊢
  generalize course.result.1 = result at ends
  have only {other : Message} (written : course.request.message? 0 (course.granted 0) = some other) : other = message :=
    Option.some.inj (written.symm.trans writes.written)
  rcases ends.writes with none | ⟨other, one, written⟩
  · cases ends with
    | unauthorized denied =>
      obtain ⟨value, granted⟩ := writes.authorized
      cases granted.symm.trans denied
    | unwritten _ unwritten => cases writes.written.symm.trans unwritten
    | unanswered | succeeded | exhausted | unwaited => simp [setback, posted, Event.message?] at none
  · rw [one, only written.written]

end Call.Course

namespace Client

variable {config : Configuration} {there : Connected}

/-- The configuration names plain HTTP, for the server or for the issuer of tokens. -/
def NamesPlain (config : Configuration) : Prop :=
  (∃ url, config.parsedApiUrl = .ok url ∧ url.scheme = "http") ∨
    ∃ credentials endpoint, config.credentials.client? = some credentials ∧
      Endpoint.resolve credentials.issuer = .ok endpoint ∧ endpoint.scheme = "http"

theorem eq_true_iff_namesPlain {plain : Bool} (known : usesPlainHttp config = .ok plain) :
    plain = true ↔ NamesPlain config := by
  obtain ⟨url, parsed, known⟩ := Except.bind_eq_ok known
  rw [NamesPlain, parsed]
  split at known
  · rename_i bare
    cases known
    exact iff_of_true rfl (Or.inl ⟨url, rfl, bare⟩)
  · rename_i covered
    have server : ¬∃ other, Except.ok url = Except.ok (ε := ClientError) other ∧ other.scheme = "http" := by
      rintro ⟨_, ⟨⟩, bare⟩
      exact covered bare
    rw [or_iff_right server]
    split at known
    · rename_i credentials used
      obtain ⟨endpoint, resolved, known⟩ := Except.bind_eq_ok known
      cases known
      rw [decide_eq_true_iff]
      refine ⟨fun bare => ⟨credentials, endpoint, used, resolved, bare⟩, ?_⟩
      rintro ⟨_, _, same, found, bare⟩
      cases used.symm.trans same
      cases resolved.symm.trans found
      exact bare
    · rename_i unused
      cases known
      refine iff_of_false Bool.false_ne_true ?_
      rintro ⟨_, _, used, _⟩
      cases unused.symm.trans used

/-- The transport of a connected client allows plain HTTP exactly if the configuration names it. -/
theorem security_of_connect (connected : connect config = .ok there) :
    (there.transport.security = .plainAllowed ↔ NamesPlain config) ∧
      (there.transport.security = .tlsOnly ↔ ¬NamesPlain config) := by
  obtain ⟨_, valid, _⟩ := Except.bind_eq_ok connected
  obtain ⟨client, made, _⟩ := exists_ofConfiguration valid
  obtain ⟨plain, known⟩ := exists_usesPlainHttp valid
  rw [connect_eq valid made known] at connected
  split at connected
  · cases connected
    rw [← eq_true_iff_namesPlain known]
    cases plain <;> simp [transportOf]
  · cases connected

theorem parsedApiUrl_of_ofConfiguration (made : ofConfiguration config = .ok there.client) :
    config.parsedApiUrl = .ok there.client.baseUrl := by
  obtain ⟨_, valid, _⟩ := Except.bind_eq_ok made
  obtain ⟨client, same, url⟩ := exists_ofConfiguration valid
  cases made.symm.trans same
  exact url

theorem kept_of_prepare {client : Client} {request prepared : Request} {options : Options} {plan : RetryPlan}
    (taken : client.prepare request options = .ok (prepared, plan)) :
    prepared.url = request.url ∧ prepared.operation = request.operation := by
  obtain ⟨_, _, rest⟩ := Except.bind_eq_ok taken
  obtain ⟨headers, _, rest⟩ := Except.bind_eq_ok rest
  cases rest
  exact ⟨rfl, rfl⟩

/-- A client's own requests go to its server, with the scheme that its configuration names. -/
theorem screen_of_site (connected : connect config = .ok there) {url : Url} {target : Target}
    (stays : url.StaysAt there.client.baseUrl) (written : Target.parse? url.text = some target) :
    Transport.screen there.transport.security target = .ok () := by
  obtain ⟨made, _⟩ := of_connect connected
  obtain ⟨_, _, web, visible⟩ := baseUrl_of_ofConfiguration made
  have web : url.scheme = "http" ∨ url.scheme = "https" := stays.scheme ▸ web
  have hosted : url.host.isSome = true := stays.host ▸ Url.isSome_host visible
  obtain ⟨scheme, authority⟩ := Url.target_of_web web hosted written
  refine Transport.screen_of_web web scheme authority fun plain => ?_
  exact (security_of_connect connected).1.mpr
    (Or.inl ⟨there.client.baseUrl, parsedApiUrl_of_ofConfiguration made, stays.scheme ▸ plain⟩)

/-- So do its requests for tokens, with the scheme of the issuer. -/
theorem screen_of_issued (connected : connect config = .ok there) {source : Token.Source} {target : Target}
    (issued : there.client.authorizer = .issued source)
    (written : Target.parse? source.request.url.text = some target) :
    Transport.screen there.transport.security target = .ok () := by
  obtain ⟨made, _⟩ := of_connect connected
  cases used : config.credentials with
  | none | apiToken =>
    obtain ⟨plan, _, authorized⟩ := exists_plan made
    obtain ⟨_, fits⟩ := Authorizer.ofCredentials_eq_ok_iff.mp authorized
    rw [issued, used] at fits
    cases fits
  | client credentials =>
    obtain ⟨_, same, _, resolved, _⟩ := exists_source made used
    cases issued.symm.trans same
    obtain ⟨web, hosted⟩ := Endpoint.web_of_resolve resolved
    obtain ⟨scheme, authority⟩ := Url.target_of_web web hosted written
    refine Transport.screen_of_web web scheme authority fun plain => ?_
    refine (security_of_connect connected).1.mpr (Or.inr ⟨credentials, source.endpoint, ?_, resolved, plain⟩)
    rw [used]
    rfl

/-- The transport of a connected client lets pass all that the client itself builds, the requests of templates and of listed
objects and those for tokens. If its configuration names no plain HTTP, a plain request of the caller that is written is
refused, and not repeated. -/
theorem screen_of_connect (connected : connect config = .ok there) :
    (∀ request target,
      ((∃ template, there.client.fillTemplate template = .ok request) ∨
        ∃ storeId body, there.client.objectsRequest storeId body = .ok request) →
      Target.parse? request.url.text = some target → Transport.screen there.transport.security target = .ok ()) ∧
    (∀ source target, there.client.authorizer = .issued source → Target.parse? source.request.url.text = some target →
      Transport.screen there.transport.security target = .ok ()) ∧
    (¬NamesPlain config → ∀ request options prepared plan w s,
        request.url.scheme = "http" → request.url.host.isSome = true →
        there.client.prepare request options = .ok (prepared, plan) →
        (there.client.course prepared plan w s).Carried there.transport →
        there.client.attempt request options w s = (there.client.course prepared plan w s).result ∧
        (there.client.course prepared plan w s).Ended 0 ∧
        ∀ message, (there.client.course prepared plan w s).Writes 0 message →
          ∃ reason, Transport.screen there.transport.security message.target = .error (.invalidScheme "http" reason) ∧
            ((there.client.course prepared plan w s).own 0).filterMap Event.message? = [message] ∧
            ((there.client.attempt request options w s).1 =
                .error (.failed (.transport request.operation (.invalidScheme "http" reason))) ∨
              w.deadline.isSome = true ∧ (there.client.attempt request options w s).1 = .error .dropped)) := by
  obtain ⟨made, _⟩ := of_connect connected
  refine ⟨fun request target built written => ?_, fun source target => screen_of_issued connected,
    fun covered request options prepared plan w s plain hosted taken carried => ?_⟩
  · obtain ⟨base⟩ := exists_base made
    rcases built with ⟨template, done⟩ | ⟨storeId, body, done⟩
    · exact screen_of_site connected (base.staysAt_of_fillTemplate done) written
    · exact screen_of_site connected (base.staysAt_of_objectsRequest done) written
  · have secure : there.transport.security = .tlsOnly := (security_of_connect connected).2.mpr covered
    obtain ⟨sameUrl, sameOperation⟩ := kept_of_prepare taken
    have refused (i : Nat) (message : Message) (writes : (there.client.course prepared plan w s).Writes i message) :
        Transport.screen there.transport.security message.target =
          .error (.invalidScheme "http" "HTTPS required (transport security is TlsOnly)") := by
      obtain ⟨target, parsed, rfl⟩ := Option.map_eq_some_iff.mp writes.written
      change Target.parse? prepared.url.text = some target at parsed
      rw [sameUrl] at parsed
      obtain ⟨scheme, authority⟩ := Url.target_of_web (Or.inl plain) hosted parsed
      rw [secure]
      exact Transport.screen_plain (scheme.trans (congrArg some plain)) authority
    have outcome (message : Message) (writes : (there.client.course prepared plan w s).Writes 0 message) :=
      carried.outcome_of_screen writes (refused 0 message writes)
    have ended := Call.Course.ended_of_refused outcome rfl
    refine ⟨attempt_eq_course taken w s, ended, fun message writes => ?_⟩
    refine ⟨_, refused 0 message writes, writes.messages_of_refused ended, ?_⟩
    rw [attempt_eq_course taken, ← sameOperation]
    exact writes.result_of_refused (outcome message writes) rfl

/-- A request of a caller without encryption. -/
def bareRequest : Request :=
  .new "check" "GET" ⟨"http", "", none, some (.domain "evil.example"), none, .segments [""], none, none⟩

/-- The service would reply, but the transport of a covered client stands before it. -/
def strict : Surroundings :=
  { Call.Course.flaky.surroundings with
    replies := fun _ => ⟨(transportOf layered.config false).execute ⟨some "http", some "evil.example", "/", none⟩
      (.ok ⟨200, [], [], none⟩), .zero⟩ }

theorem connect_acting : connect acting.config = .ok ⟨acting, transportOf acting.config false⟩ := by
  have valid : acting.config.validate = .ok () := Except.eq_ok_of_toOption (by decide +kernel)
  have made : ofConfiguration acting.config = .ok acting := Except.eq_ok_of_toOption (by decide +kernel)
  have known : usesPlainHttp acting.config = .ok false := Except.eq_ok_of_toOption (by decide +kernel)
  exact (connect_eq valid made known).trans (if_pos (by decide +kernel))

theorem screen_of_connect_acting :
    connect acting.config = .ok ⟨acting, transportOf acting.config false⟩ ∧
      Transport.screen .tlsOnly ⟨some "https", some "issuer.fga.example", "/oauth/token", none⟩ = .ok () ∧
      connect layered.config = .ok ⟨layered, transportOf layered.config false⟩ ∧ ¬NamesPlain layered.config ∧
      (∃ request, layered.fillTemplate (.new "GET" "/stores") = .ok request ∧
        Transport.screen .tlsOnly ⟨some "https", some "api.fga.example", "/stores", none⟩ = .ok ()) ∧
      bareRequest.url.host.isSome = true ∧
      ∃ prepared plan, layered.prepare bareRequest .none = .ok (prepared, plan) ∧
        (layered.course prepared plan strict .fresh).Carried (transportOf layered.config false) ∧
        (∃ message, (layered.course prepared plan strict .fresh).Writes 0 message ∧
          ((layered.course prepared plan strict .fresh).own 0).filterMap Event.message? = [message]) ∧
        ∃ reason, (layered.attempt bareRequest .none strict .fresh).1 =
          .error (.failed (.transport "check" (.invalidScheme "http" reason))) := by
  obtain ⟨_, exchanges, _⟩ := screen_of_connect connect_acting
  obtain ⟨builds, _, refuses⟩ := screen_of_connect connect_layered
  have covered : ¬NamesPlain layered.config := (security_of_connect connect_layered).2.mp rfl
  have fills : (layered.fillTemplate (.new "GET" "/stores")).toOption.map (fun request => Target.parse? request.url.text) =
      some (some ⟨some "https", some "api.fga.example", "/stores", none⟩) := by decide +kernel
  obtain ⟨request, filled, written⟩ := Option.map_eq_some_iff.mp fills
  have filled := Except.eq_ok_of_toOption filled
  obtain ⟨⟨prepared, plan⟩, taken⟩ : ∃ both, layered.prepare bareRequest .none = .ok both :=
    ⟨_, Except.eq_ok_of_toOption rfl⟩
  have hosted : bareRequest.url.host.isSome = true := rfl
  obtain ⟨sameUrl, _⟩ := kept_of_prepare taken
  have target : Target.parse? prepared.url.text = some ⟨some "http", some "evil.example", "/", none⟩ := by
    rw [sameUrl]
    decide +kernel
  have writes : (layered.course prepared plan strict .fresh).Writes 0 _ :=
    ⟨⟨_, rfl⟩, congrArg (Option.map _) target⟩
  have carried : (layered.course prepared plan strict .fresh).Carried (transportOf layered.config false) := by
    intro i message writes
    obtain ⟨other, parsed, rfl⟩ := Option.map_eq_some_iff.mp writes.written
    cases target.symm.trans parsed
    exact ⟨_, rfl⟩
  obtain ⟨_, _, sent⟩ :=
    refuses covered bareRequest .none prepared plan strict .fresh rfl hosted taken carried
  obtain ⟨reason, _, alone, failed | ⟨impatient, _⟩⟩ := sent _ writes
  · exact ⟨connect_acting, exchanges _ _ rfl (by decide +kernel), connect_layered, covered,
      ⟨request, filled, builds request _ (Or.inl ⟨_, filled⟩) written⟩, hosted, prepared, plan, taken, carried,
      ⟨_, writes, alone⟩, reason, failed⟩
  · cases impatient

end Client

end AuthzClient
