import AuthzClient.Proofs.Client.Precedence
import AuthzClient.Proofs.Stream.Delivery
import AuthzClient.Proofs.Token.Authorization

/-!
One reading of the responses without success. A call that ends with one gives the error that the client makes of the same
response for a caller who has received it otherwise; so does an exchange of tokens on the way. The failures before it
are remembered behind the error and leave it as it is.
-/

namespace AuthzClient

open Http Act

namespace ApiError

/-- The status alone decides what kind of error a response is. -/
theorem name_kind_ofResponse (request : Request) (status : Nat) (headers : Headers) (body : List UInt8) :
    (ofResponse request status headers body).kind.name = (Kind.ofStatus status).name := by
  unfold ofResponse
  cases Kind.ofStatus status with
  | validation | authentication | notFound | rateLimitExceeded | internalServer | unclassified => rfl

end ApiError

namespace Call.Course

variable {course : Course} {n : Nat} {response : Response}

/-- A call ends with the response to one of its attempts, which is no success: the attempts before it were repeated, and
it is not. -/
structure EndsWith (course : Course) (n : Nat) (response : Response) : Prop where
  within : n ≤ course.plan.maxRetries
  rounds : ∀ i, i < n → ∃ message, course.Round i message
  sent : ∃ message, course.Writes n message
  met : course.outcome n = .ok response
  unsuccessful : Response.isSuccess response.status = false
  settled : n = course.plan.maxRetries ∨ isRetryable (course.outcome n) = false
  kept : course.result.1 ≠ .error .dropped

theorem EndsWith.success?_eq (endsWith : course.EndsWith n response) : success? (course.outcome n) = none := by
  rw [endsWith.met]
  exact if_neg (by simp [endsWith.unsuccessful])

/-- Such a call ends in the round of that attempt. -/
theorem EndsWith.ended (endsWith : course.EndsWith n response) : course.Ended n := by
  obtain ⟨m, ended⟩ := course.exists_ended
  rcases Nat.lt_trichotomy m n with fewer | rfl | more
  · obtain ⟨message, round⟩ := endsWith.rounds m fewer
    have kept := endsWith.kept
    have ends := ended.ends
    generalize course.closing m = added at ends
    generalize course.result.1 = result at kept ends
    cases ends with
    | unauthorized denied =>
      obtain ⟨value, granted⟩ := round.authorized
      cases granted.symm.trans denied
    | unwritten _ unwritten => cases round.written.symm.trans unwritten
    | unanswered | unwaited => exact absurd rfl kept
    | succeeded _ _ _ success => cases (success?_of_isRetryable round.again).symm.trans success
    | exhausted _ _ _ _ settled =>
      rcases settled with last | final
      · exact absurd endsWith.within (by omega)
      · cases round.again.symm.trans final
  · exact ended
  · obtain ⟨message, round⟩ := ended.rounds n more
    rcases endsWith.settled with last | final
    · exact absurd ended.within (by omega)
    · cases round.again.symm.trans final

theorem length_causes (course : Course) (i n : Nat) : (course.causes i n).length = n := by
  simp [causes]

/-- It gives the error of the response, with the failures of the attempts before it. -/
theorem EndsWith.result (endsWith : course.EndsWith n response) :
    course.result.1 =
      .error (.failed (.failed (.api (refusal course.identity course.request response)) (course.causes 0 n))) := by
  obtain ⟨message, sent⟩ := endsWith.sent
  have cause : course.cause n = .api (refusal course.identity course.request response) := by
    rw [cause, endsWith.met]
    rfl
  have kept := endsWith.kept
  have ends := endsWith.ended.ends
  generalize course.closing n = added at ends
  generalize course.result.1 = result at kept ends ⊢
  cases ends with
  | unauthorized denied =>
    obtain ⟨value, granted⟩ := sent.authorized
    cases granted.symm.trans denied
  | unwritten _ unwritten => cases sent.written.symm.trans unwritten
  | unanswered | unwaited => exact absurd rfl kept
  | succeeded _ _ _ success => cases endsWith.success?_eq.symm.trans success
  | exhausted => rw [cause]

/-- Only a response gives a call its error, unless an authorization does. -/
theorem endsWith_of_api {error : ApiError} {earlier : List Cause}
    (failed : course.result.1 = .error (.failed (.failed (.api error) earlier))) :
    (∃ response, course.EndsWith earlier.length response ∧ error = refusal course.identity course.request response) ∨
      ∃ i, course.authorization i = .error (.failed (.failed (.api error) earlier)) := by
  obtain ⟨n, ended⟩ := course.exists_ended
  have kept : course.result.1 ≠ .error .dropped := by
    rw [failed]
    nofun
  have ends := ended.ends
  rw [failed] at ends
  generalize course.closing n = added at ends
  generalize stopped : Except.error (Stop.failed (.failed (.api error) earlier)) = result at ends
  cases ends with
  | unauthorized denied =>
    cases stopped
    exact Or.inr ⟨n, denied⟩
  | unwritten | unanswered | succeeded | unwaited => cases stopped
  | exhausted _ authorized written unsuccessful settled =>
    left
    simp only [Except.error.injEq, Stop.failed.injEq, ClientError.failed.injEq] at stopped
    obtain ⟨same, rfl⟩ := stopped
    cases met : course.outcome n with
    | error failure =>
      rw [cause, met] at same
      cases same
    | ok response =>
      rw [cause, met] at same
      have refused : Response.isSuccess response.status = false := by
        rw [met, success?] at unsuccessful
        split at unsuccessful
        · cases unsuccessful
        · rename_i not
          exact Bool.eq_false_iff.mpr not
      rw [length_causes]
      exact ⟨response, ⟨ended.within, ended.rounds, ⟨_, authorized, written⟩, met, refused, settled, kept⟩,
        Cause.api.inj same⟩

/-- An authorization gives the error of the response that its exchange ends with. -/
theorem endsWith_of_authorization {i : Nat} {error : ApiError} {earlier : List Cause}
    (denied : course.authorization i = .error (.failed (.failed (.api error) earlier))) :
    ∃ source, course.authorizer = .issued source ∧ ∃ response,
      (source.course course.surroundings (Token.Source.looked (course.before i))).EndsWith earlier.length response ∧
      error = refusal source.identity source.request response := by
  rcases Authorizer.authorization_eq_error denied with ⟨source, issued, _, failed⟩ | ⟨unsendable, _⟩
  · refine ⟨source, issued, ?_⟩
    rcases Token.Source.exchange_eq_error failed with called | dropped | ⟨failure, broken⟩ | ⟨fault, unread⟩
    · rcases endsWith_of_api called with found | ⟨j, denied⟩
      · exact found
      · cases denied
    · cases dropped
    · cases broken
    · cases unread
  · cases unsendable

end Call.Course

namespace Client

open Call

theorem identity_eq (credentials : Credentials) :
    credentials.identity = ⟨credentials.client?.map (·.clientId), credentials.client?.bind (·.audience)⟩ := by
  cases credentials with
  | none | apiToken | client => rfl

variable {client : Client} {request prepared : Request} {options : Options} {plan : RetryPlan}

/-- What a client makes of a response is what a call for its credentials makes of it. -/
theorem classify_eq_refusal (client : Client) (request : Request) {response : Response}
    (unsuccessful : Response.isSuccess response.status = false) :
    client.classify request response.status response.headers (Body.beginning 8192 response.frames) =
      some (refusal client.config.credentials.identity request response) := by
  have kept : ApiError.keptBody response = Body.beginning 8192 response.frames := ApiError.keptBody_eq response
  rw [classify, ApiError.classify, if_neg (by simp [unsuccessful]), refusal, kept]
  rfl

/-- What an error is called depends on the status only. -/
theorem name_kind_classify (client : Client) (request : Request) (status : Nat) (headers : Headers)
    (body : List UInt8) :
    (client.classify request status headers body).map (·.kind.name) =
      if Response.isSuccess status then none else some (ApiError.Kind.ofStatus status).name := by
  rw [classify, ApiError.classify]
  split
  · rfl
  · exact congrArg some (ApiError.name_kind_ofResponse request status headers body)

theorem refusal_of_prepare (taken : client.prepare request options = .ok (prepared, plan)) (identity : Identity)
    (response : Response) : refusal identity prepared response = refusal identity request response := by
  obtain ⟨_, _, rest⟩ := Except.bind_eq_ok taken
  obtain ⟨headers, _, rest⟩ := Except.bind_eq_ok rest
  cases rest
  rfl

/-- A call that ends with a response without success gives the error that the client makes of that response to the request
that was asked for: of its status, its headers and the beginning of its body, on behalf of the credentials of the
configuration. The failures of as many attempts as there were before it stand behind it. No other error of the server is
given by a call but that of an exchange on its way, and there the same holds. What an error is called depends on the
status only. -/
theorem classify_of_attempts {config : Configuration} (accepted : ofConfiguration config = .ok client)
    (taken : client.prepare request options = .ok (prepared, plan)) (w : Surroundings) (s : Session) :
    (∀ n response, (client.course prepared plan w s).EndsWith n response →
      ∃ error earlier, client.classify request response.status response.headers
          (Body.beginning 8192 response.frames) = some error ∧
        (client.attempt request options w s).1 = .error (.failed (.failed (.api error) earlier)) ∧
        earlier.length = n) ∧
    (∀ error earlier, (client.attempt request options w s).1 = .error (.failed (.failed (.api error) earlier)) →
      (∃ response, (client.course prepared plan w s).EndsWith earlier.length response ∧
        client.classify request response.status response.headers (Body.beginning 8192 response.frames) = some error) ∨
      ∃ source i response, client.authorizer = .issued source ∧
        (source.course w (Token.Source.looked ((client.course prepared plan w s).before i))).EndsWith
          earlier.length response ∧
        client.classify source.request response.status response.headers (Body.beginning 8192 response.frames) =
          some error) ∧
    (∀ asked status headers body error, client.classify asked status headers body = some error →
      error.clientId = config.credentials.client?.map (·.clientId) ∧
      error.audience = config.credentials.client?.bind (·.audience)) ∧
    ∀ (other : Client) asked asked' status headers headers' body body',
      (client.classify asked status headers body).map (·.kind.name) =
        (other.classify asked' status headers' body').map (·.kind.name) := by
  have attempt : client.attempt request options w s = (client.course prepared plan w s).result :=
    attempt_eq_course taken w s
  have configured : client.config = config := config_of_ofConfiguration accepted
  obtain ⟨kept, copied⟩ := identity_of_ofConfiguration accepted
  have refused (asked : Request) {response : Response} (unsuccessful : Response.isSuccess response.status = false) :
      client.classify asked response.status response.headers (Body.beginning 8192 response.frames) =
        some (refusal config.credentials.identity asked response) := by
    rw [classify_eq_refusal client asked unsuccessful, configured]
  have same (response : Response) : refusal client.identity prepared response =
      refusal config.credentials.identity request response := by
    rw [kept]
    exact refusal_of_prepare taken _ response
  refine ⟨fun n response endsWith => ?_, fun error earlier failed => ?_, fun asked status headers body error found => ?_,
    fun other asked asked' status headers headers' body body' => ?_⟩
  · refine ⟨_, (client.course prepared plan w s).causes 0 n, refused request endsWith.unsuccessful,
      ?_, Call.Course.length_causes _ 0 n⟩
    rw [attempt, endsWith.result, ← same]
    rfl
  · rw [attempt] at failed
    rcases Call.Course.endsWith_of_api failed with ⟨response, endsWith, rfl⟩ | ⟨i, denied⟩
    · refine Or.inl ⟨response, endsWith, ?_⟩
      rw [refused request endsWith.unsuccessful, ← same]
      rfl
    · obtain ⟨source, issued, response, endsWith, rfl⟩ := Call.Course.endsWith_of_authorization denied
      refine Or.inr ⟨source, i, response, issued, endsWith, ?_⟩
      rw [refused source.request endsWith.unsuccessful, copied source issued]
  · obtain ⟨read, _, rfl⟩ := Option.map_eq_some_iff.mp found
    rw [ApiError.onBehalfOf, configured, identity_eq]
    exact ⟨rfl, rfl⟩
  · rw [name_kind_classify, name_kind_classify]

/-- A client with client credentials. -/
def acting : Client where
  config := { Configuration.standard with
    apiUrl := "https://api.fga.example"
    credentials := .client ⟨"client-1", ⟨"s3cret"⟩, "issuer.fga.example", some "https://api.fga.example/", none⟩ }
  baseUrl := ⟨"https", "", none, some (.domain "api.fga.example"), none, .segments [""], none, none⟩
  identity := ⟨some "client-1", some "https://api.fga.example/"⟩
  authorizer := .issued {
    endpoint := ⟨"https", "", none, some (.domain "issuer.fga.example"), none, .segments ["oauth", "token"], none, none⟩
    credentials := ⟨"client-1", ⟨"s3cret"⟩, "issuer.fga.example", some "https://api.fga.example/", none⟩
    plan := ⟨3, Span.ofMillis 100⟩ }

/-- A token is issued, the server is not available at first and then finds the request wrong, in two frames before its
body breaks. -/
def refusing : Surroundings :=
  { Call.Course.flaky.surroundings with
    replies := fun
      | 0 => ⟨.ok ⟨200, [], [.data (Text.Utf8.encodeChars "\x7b\"access_token\":\"first\"\x7d".toList)], none⟩, .zero⟩
      | 1 => ⟨.ok ⟨503, [], [], none⟩, .zero⟩
      | _ => ⟨.ok ⟨422, [], [.data (Text.Utf8.encodeChars "\x7b\"code\":".toList),
          .data (Text.Utf8.encodeChars "7\x7d".toList), .failure "reset"], none⟩, .zero⟩ }

def actingRequest : Request := .new "check" "GET" acting.baseUrl

theorem classify_of_attempts_acting :
    ofConfiguration acting.config = .ok acting ∧
    ∃ prepared plan, acting.prepare actingRequest .none = .ok (prepared, plan) ∧
      ∃ response, (acting.course prepared plan refusing .fresh).EndsWith 1 response ∧
      ∃ error earlier, acting.classify actingRequest response.status response.headers
          (Body.beginning 8192 response.frames) = some error ∧
        (acting.attempt actingRequest .none refusing .fresh).1 = .error (.failed (.failed (.api error) earlier)) ∧
        earlier.length = 1 ∧ error.clientId = some "client-1" ∧ error.audience = some "https://api.fga.example/" ∧
        error.kind.name = "validation" := by
  have accepted : ofConfiguration acting.config = .ok acting := Except.eq_ok_of_toOption (by decide +kernel)
  obtain ⟨⟨prepared, plan⟩, taken⟩ : ∃ both, acting.prepare actingRequest .none = .ok both :=
    ⟨_, Except.eq_ok_of_toOption rfl⟩
  obtain ⟨agrees, origin, identity, kinds⟩ := classify_of_attempts accepted taken refusing .fresh
  have refused : (match (acting.attempt actingRequest .none refusing .fresh).1 with
      | .error (.failed (.failed (.api error) earlier)) =>
        earlier.length == 1 && error.operation == "check" && error.kind.name == "validation"
      | .error (.failed (.failed (.transport _ _) _)) | .error (.failed (.invalidParameter _ _))
      | .error (.failed (.encode _ _)) | .error (.failed (.decode _ _)) | .error (.failed (.settings _ _))
      | .error .dropped | .ok _ => false) = true := by decide +kernel
  split at refused
  · rename_i error earlier failed
    simp only [Bool.and_eq_true, beq_iff_eq] at refused
    obtain ⟨⟨length, operation⟩, kind⟩ := refused
    rcases origin error earlier failed with ⟨response, endsWith, found⟩ | ⟨source, _, response, _, _, found⟩
    · rw [length] at endsWith
      obtain ⟨clientId, audience⟩ := identity _ _ _ _ _ found
      exact ⟨accepted, prepared, plan, taken, response, endsWith, error, earlier, found, failed, length, clientId,
        audience, kind⟩
    · obtain ⟨_, read, rfl⟩ := Option.map_eq_some_iff.mp found
      rw [ApiError.classify] at read
      split at read
      · cases read
      · cases read
        have other : Token.exchangeOperation = "check" := operation
        exact absurd other (by decide)
  all_goals cases refused

end Client

end AuthzClient
