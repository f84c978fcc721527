import AuthzClient.Proofs.Client.Precedence
import AuthzClient.Proofs.Client.Origin
import AuthzClient.Proofs.Token.Authorization

/-!
What a configuration that was checked still lacks. Its client is made, and every request without options of its own can be
prepared; but two of its texts are put into headers unseen. A control character in the user agent keeps the transport from
being built, and one in a token that calls carry as it is fails every call.
-/

namespace AuthzClient

open Http Text

namespace Client

variable {config : Configuration} {client : Client}

theorem exists_usesPlainHttp (valid : config.validate = .ok ()) : ∃ plain, usesPlainHttp config = .ok plain := by
  obtain ⟨url, _, parsed, _, _, credentials⟩ := Configuration.of_validate valid
  rw [usesPlainHttp, parsed]
  by_cases bare : url.scheme = "http"
  · exact ⟨true, if_pos bare⟩
  · cases used : config.credentials with
    | none | apiToken => exact ⟨false, if_neg bare⟩
    | client issued =>
      rw [used] at credentials
      obtain ⟨endpoint, resolved, _⟩ := ClientCredentials.exists_endpoint credentials
      refine ⟨endpoint.scheme = "http", (if_neg bare).trans ?_⟩
      change (Endpoint.resolve issued.issuer).bind _ = _
      rw [resolved]
      rfl

theorem build_transportOf (config : Configuration) (plain : Bool) :
    (transportOf config plain).build =
      if HeaderValue.IsText config.userAgent then .ok [(.userAgent, .ofText config.userAgent)] else .error .headerValue := by
  change DefaultHeaders.of config.userAgent [] = _
  rw [DefaultHeaders.of, HeaderValue.ofString?_eq]
  by_cases legal : HeaderValue.IsText config.userAgent
  · rw [if_pos legal, if_pos legal]
    rfl
  · rw [if_neg legal, if_neg legal]

/-- All that can keep a configuration that was checked from being connected is its user agent. -/
theorem connect_eq {plain : Bool} (valid : config.validate = .ok ()) (made : ofConfiguration config = .ok client)
    (known : usesPlainHttp config = .ok plain) :
    connect config =
      if HeaderValue.IsText config.userAgent then .ok ⟨client, transportOf config plain⟩
      else .error (.transport "buildClient" .headerValue) := by
  rw [connect, valid, known]
  simp only [bind, Except.bind, build_transportOf]
  by_cases legal : HeaderValue.IsText config.userAgent
  · simp only [if_pos legal, made]
    rfl
  · simp only [if_neg legal]
    rfl

theorem authorizer_of_apiToken {token : Secret} (made : ofConfiguration config = .ok client)
    (used : config.credentials = .apiToken token) : client.authorizer = .apiToken token := by
  obtain ⟨plan, _, authorized⟩ := exists_plan made
  obtain ⟨_, fits⟩ := Authorizer.ofCredentials_eq_ok_iff.mp authorized
  rw [used] at fits
  generalize client.authorizer = authorizer at fits ⊢
  cases fits
  rfl

/-- A token that calls carry as it is makes the same authorization every time, or none at all. -/
theorem authorization_apiToken (token : Secret) (w : Surroundings) (s : Session) :
    (Authorizer.apiToken token).authorization w s =
      (if token.IsSendable then .ok (some (Authorizer.bearer token)) else .error Authorizer.unsendable, s) := by
  rw [Authorizer.authorization_eq]
  rfl

/-- A configuration that was checked has headers for every call that brings none of its own. -/
theorem exists_requestHeaders (valid : config.validate = .ok ()) :
    ∃ headers, config.requestHeaders .none = .ok headers := by
  obtain ⟨_, _, _, _, legal, _⟩ := Configuration.of_validate valid
  obtain ⟨each, _⟩ := Configuration.gatherHeaders_eq_ok_iff.mp legal
  refine ⟨config.defaultHeaders.foldl Headers.place config.agentHeaders, ?_⟩
  rw [Configuration.requestHeaders, Configuration.gatherHeaders_eq_ok_iff.mpr ⟨each, rfl⟩]
  rfl

theorem exists_prepare (valid : config.validate = .ok ()) (made : ofConfiguration config = .ok client)
    (request : Request) : ∃ prepared plan, client.prepare request .none = .ok (prepared, plan) := by
  obtain ⟨_, _, _, few, _, _⟩ := Configuration.of_validate valid
  obtain ⟨headers, settled⟩ := exists_requestHeaders valid
  refine ⟨{ request with headers := Headers.fill headers request.headers }, ⟨config.maxRetries, config.minimumDelay⟩, ?_⟩
  rw [prepare, config_of_ofConfiguration made, Configuration.retryPlan_none few, settled]
  rfl

/-- What becomes of a configuration that was checked. Its client is made, and prepares every request without options. It is
connected if and only if the user agent can stand in a header; and if calls carry a token as it is, they are authorized
if and only if that token can. -/
theorem connect_of_valid (valid : config.validate = .ok ()) :
    ∃ client plain, ofConfiguration config = .ok client ∧ usesPlainHttp config = .ok plain ∧
      connect config =
        (if HeaderValue.IsText config.userAgent then .ok ⟨client, transportOf config plain⟩
        else .error (.transport "buildClient" .headerValue)) ∧
      (∀ request, ∃ prepared plan, client.prepare request .none = .ok (prepared, plan)) ∧
      ∀ token, config.credentials = .apiToken token → ∀ w s,
        client.authorizer.authorization w s =
          (if token.IsSendable then .ok (some (Authorizer.bearer token)) else .error Authorizer.unsendable, s) := by
  obtain ⟨client, made, _⟩ := exists_ofConfiguration valid
  obtain ⟨plain, known⟩ := exists_usesPlainHttp valid
  refine ⟨client, plain, made, known, connect_eq valid made known, exists_prepare valid made, ?_⟩
  intro token used w s
  rw [authorizer_of_apiToken made used]
  exact authorization_apiToken token w s

/-- A configuration with a token that calls carry as it is. -/
def carrying (token userAgent : String) : Configuration :=
  { Configuration.standard with apiUrl := "https://api.fga.example", credentials := .apiToken ⟨token⟩, userAgent }

theorem connect_of_valid_carrying :
    (carrying "t" "reader").validate = .ok () ∧
      ∃ connected, connect (carrying "t" "reader") = .ok connected ∧
        ∀ w s, connected.client.authorizer.authorization w s = (.ok (some ⟨Utf8.encode "Bearer t", true⟩), s) := by
  have valid : (carrying "t" "reader").validate = .ok () := Except.eq_ok_of_toOption (by decide +kernel)
  obtain ⟨client, plain, _, _, connected, _, authorized⟩ := connect_of_valid valid
  refine ⟨valid, ⟨client, transportOf _ plain⟩, connected.trans (if_pos (by decide +kernel)), fun w s => ?_⟩
  exact (authorized ⟨"t"⟩ rfl w s).trans (congrArg (·, s) (if_pos (by decide +kernel)))

/-- A user agent with a control character and a token with a line feed pass the check. -/
theorem not_connect_carrying :
    (carrying "t" "read\x01er").validate = .ok () ∧ (carrying "t\n1" "reader").validate = .ok () ∧
      connect (carrying "t" "read\x01er") = .error (.transport "buildClient" .headerValue) ∧
      ∃ client, ofConfiguration (carrying "t\n1" "reader") = .ok client ∧
        ∀ w s, (client.authorizer.authorization w s).1 = .error Authorizer.unsendable := by
  have valid : (carrying "t" "read\x01er").validate = .ok () := Except.eq_ok_of_toOption (by decide +kernel)
  have broken : (carrying "t\n1" "reader").validate = .ok () := Except.eq_ok_of_toOption (by decide +kernel)
  obtain ⟨client, made, _⟩ := exists_ofConfiguration valid
  obtain ⟨plain, known⟩ := exists_usesPlainHttp valid
  obtain ⟨other, taken, _⟩ := exists_ofConfiguration broken
  refine ⟨valid, broken, (connect_eq valid made known).trans (if_neg (by decide +kernel)), other, taken, fun w s => ?_⟩
  have refused : ¬(⟨"t\n1"⟩ : Secret).IsSendable := by decide +kernel
  rw [authorizer_of_apiToken taken rfl, authorization_apiToken, if_neg refused]

end Client

end AuthzClient
