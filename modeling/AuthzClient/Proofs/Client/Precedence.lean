import AuthzClient.Client
import AuthzClient.Proofs.Call.Ledger
import AuthzClient.Proofs.Token.Endpoint

/-!
Who decides the headers of a call: the authorizer and the number of the attempt, then the request, then the options of the
call, then the configuration. Names are taken exactly by the settings and without their case by the headers, so of several
keys for one name the last one counts.
-/

namespace AuthzClient

open Http Text

namespace Entries

variable {α : Type}

/-- A value stands under the greatest of the keys that are a header's name but for the case. -/
def IsLatest (name : HeaderName) (entries : Entries α) (value : α) : Prop :=
  ∃ key, (key, value) ∈ entries ∧ lower key = name.text ∧
    ∀ entry ∈ entries, lower entry.1 = name.text → entry.1 ≤ key

theorem latest?_eq_some_iff {entries : Entries α} (ascending : entries.Ascending) (name : HeaderName) (value : α) :
    latest? name entries = some value ↔ entries.IsLatest name value := by
  have sorted : (entries.filter fun entry => lower entry.1 = name.text).Pairwise fun a b => a.1 < b.1 :=
    ascending.filter _
  constructor
  · intro found
    obtain ⟨chosen, last, same⟩ := Option.map_eq_some_iff.mp found
    subst same
    obtain ⟨front, whole⟩ := List.getLast?_eq_some_iff.mp last
    rw [whole] at sorted
    obtain ⟨inside, named⟩ := List.mem_filter.mp (List.mem_of_getLast? last)
    refine ⟨chosen.1, inside, by simpa using named, fun entry member mine => ?_⟩
    have kept : entry ∈ front ++ [chosen] := whole ▸ List.mem_filter.mpr ⟨member, by simpa using mine⟩
    rcases List.mem_append.mp kept with before | here
    · have less : entry.1 < chosen.1 := (List.pairwise_append.mp sorted).2.2 entry before chosen List.mem_cons_self
      exact Std.le_of_lt less
    · have same : entry = chosen := List.mem_singleton.mp here
      subst same
      exact String.le_refl _
  · rintro ⟨key, inside, named, greatest⟩
    have kept : (key, value) ∈ entries.filter fun entry => lower entry.1 = name.text :=
      List.mem_filter.mpr ⟨inside, by simpa using named⟩
    rcases List.eq_nil_or_concat (entries.filter fun entry => lower entry.1 = name.text) with none | ⟨front, last, whole⟩
    · rw [none] at kept
      cases kept
    · rw [List.concat_eq_append] at whole
      obtain ⟨member, mine⟩ := List.mem_filter.mp (whole ▸ List.mem_append_right front List.mem_cons_self :
        last ∈ entries.filter fun entry => lower entry.1 = name.text)
      have upper : last.1 ≤ key := greatest last member (by simpa using mine)
      rw [whole] at sorted kept
      have same : (key, value) = last := by
        rcases List.mem_append.mp kept with before | here
        · have less : key < last.1 := (List.pairwise_append.mp sorted).2.2 _ before _ List.mem_cons_self
          exact absurd upper (String.not_le.mpr less)
        · exact List.mem_singleton.mp here
      rw [latest?, whole, List.getLast?_append_of_ne_nil _ (List.cons_ne_nil _ _), ← same]
      rfl

end Entries

namespace Request

/-- A request as callers can make it. -/
inductive IsMade : Request → Prop
  | new (operation method : String) (url : Url) : IsMade (.new operation method url)
  | setHeader {request : Request} (name : HeaderName) (value : HeaderValue) :
      IsMade request → IsMade (request.setHeader name value)
  | withBody {request : Request} (body : List UInt8) : IsMade request → IsMade (request.withBody body)

/-- No header of such a request has two values. -/
theorem IsMade.values {request : Request} (made : request.IsMade) (name : HeaderName) :
    Headers.values name request.headers = (Headers.first? name request.headers).toList := by
  have single : (Headers.values name request.headers).length ≤ 1 := by
    induction made with
    | new => exact Nat.zero_le 1
    | @setHeader request other value _ ih =>
      change (Headers.values name (Headers.set other value request.headers)).length ≤ 1
      by_cases same : name = other
      · rw [same, Headers.values_set_self]
        exact Nat.le_refl 1
      · rwa [Headers.values_set_of_ne same]
    | withBody _ _ ih => exact ih
  rw [Headers.first?_eq_head?]
  cases values : Headers.values name request.headers with
  | nil => rfl
  | cons value more =>
    rw [values, List.length_cons] at single
    have none : more = [] := List.eq_nil_of_length_eq_zero (by omega)
    rw [none]
    rfl

end Request

namespace Configuration

/-- The value that settings give a header of a call: the option of the call decides, if it has no value against the header,
then the default header, and for the user agent the configured one if it is legal. -/
def settled? (config : Configuration) (options : Options) (name : HeaderName) : Option HeaderValue :=
  match Entries.latest? name options.headers with
  | some option => option.map .ofText
  | none =>
    match Entries.latest? name config.defaultHeaders with
    | some value => some (.ofText value)
    | none => if name = .userAgent then HeaderValue.ofString? config.userAgent else none

theorem headerPair_eq (key value context : String) :
    headerPair key value context =
      if Headers.IsLegal (key, value) then .ok (⟨lower key⟩, .ofText value)
      else .error (.invalidParameter "headers" context) := by
  rw [headerPair, HeaderName.ofString?_eq, HeaderValue.ofString?_eq]
  by_cases named : HeaderName.IsName key
  · by_cases written : HeaderValue.IsText value
    · rw [if_pos named, if_pos written, if_pos ⟨named, written⟩]
    · rw [if_pos named, if_neg written, if_neg fun legal => written legal.2]
  · rw [if_neg named]
    exact (if_neg fun legal => named legal.1).symm

/-- Configured headers are gathered if each of them is legal, and are placed one after the other then. -/
theorem gatherHeaders_eq_ok_iff {entries : Entries String} {gathered headers : Headers} :
    gatherHeaders gathered entries = .ok headers ↔
      (∀ entry ∈ entries, Headers.IsLegal entry) ∧ entries.foldl Headers.place gathered = headers := by
  induction entries generalizing gathered with
  | nil => simp [gatherHeaders]
  | cons entry rest ih =>
    obtain ⟨key, value⟩ := entry
    rw [gatherHeaders, headerPair_eq, List.forall_mem_cons]
    by_cases legal : Headers.IsLegal (key, value)
    · rw [if_pos legal, and_iff_right legal]
      exact ih
    · rw [if_neg legal]
      simp [legal]

theorem values_remove_lower (name : HeaderName) (key : String) (headers : Headers) :
    Headers.values name (Headers.remove ⟨lower key⟩ headers) =
      if lower key = name.text then [] else Headers.values name headers := by
  by_cases named : lower key = name.text
  · rw [if_pos named, named]
    exact Headers.values_remove_self name headers
  · have different : name ≠ ⟨lower key⟩ := by
      rintro rfl
      exact named rfl
    rw [if_neg named, Headers.values_remove_of_ne different]

/-- The default headers stand in front of what was gathered before them. -/
theorem values_gatherHeaders {entries : Entries String} {gathered headers : Headers}
    (legal : gatherHeaders gathered entries = .ok headers) (name : HeaderName) :
    Headers.values name headers =
      match Entries.latest? name entries with
      | some value => [.ofText value]
      | none => Headers.values name gathered := by
  obtain ⟨_, rfl⟩ := gatherHeaders_eq_ok_iff.mp legal
  exact Headers.values_foldl_place name entries gathered

/-- The headers of the call stand in front of those again, and can take one away. -/
theorem values_overrideHeaders {entries : Entries (Option String)} {gathered headers : Headers}
    (legal : overrideHeaders gathered entries = .ok headers) (name : HeaderName) :
    Headers.values name headers =
      match Entries.latest? name entries with
      | some option => (option.map HeaderValue.ofText).toList
      | none => Headers.values name gathered := by
  induction entries generalizing gathered with
  | nil =>
    cases legal
    rfl
  | cons entry rest ih =>
    obtain ⟨key, value | value⟩ := entry
    · rw [overrideHeaders, HeaderName.ofString?_eq] at legal
      by_cases named : HeaderName.IsName key
      · rw [if_pos named] at legal
        rw [ih legal, Entries.latest?_cons, values_remove_lower]
        cases Entries.latest? name rest with
        | some later => rfl
        | none => by_cases named : lower key = name.text <;> simp [named]
      · rw [if_neg named] at legal
        cases legal
    · rw [overrideHeaders, headerPair_eq] at legal
      by_cases whole : Headers.IsLegal (key, value)
      · rw [if_pos whole] at legal
        rw [ih legal, Entries.latest?_cons, Headers.values_set_lower]
        cases Entries.latest? name rest with
        | some later => rfl
        | none => by_cases named : lower key = name.text <;> simp [named]
      · rw [if_neg whole] at legal
        cases legal

theorem values_agentHeaders (config : Configuration) (name : HeaderName) :
    Headers.values name config.agentHeaders =
      (if name = .userAgent then HeaderValue.ofString? config.userAgent else none).toList := by
  rw [agentHeaders]
  by_cases agent : name = .userAgent
  · rw [if_pos agent, agent]
    cases HeaderValue.ofString? config.userAgent with
    | none => rfl
    | some value => rfl
  · rw [if_neg agent]
    cases HeaderValue.ofString? config.userAgent with
    | none => rfl
    | some value => exact List.filterMap_cons_none (if_neg fun same => agent same.symm)

theorem values_requestHeaders {config : Configuration} {options : Options} {headers : Headers}
    (legal : config.requestHeaders options = .ok headers) (name : HeaderName) :
    Headers.values name headers = (config.settled? options name).toList := by
  rw [requestHeaders] at legal
  cases gathered : gatherHeaders config.agentHeaders config.defaultHeaders with
  | error failure =>
    rw [gathered] at legal
    cases legal
  | ok defaults =>
    rw [gathered] at legal
    rw [values_overrideHeaders legal, settled?]
    cases Entries.latest? name options.headers with
    | some option => rfl
    | none =>
      dsimp only
      rw [values_gatherHeaders gathered]
      cases Entries.latest? name config.defaultHeaders with
      | some value => rfl
      | none => exact values_agentHeaders config name

end Configuration

namespace Request

theorem values_withoutAttempt {name : HeaderName} (call : name ≠ .authorization) (retry : name ≠ .retryAttempt)
    (headers : Headers) : Headers.values name (withoutAttempt headers) = Headers.values name headers := by
  rw [withoutAttempt, Headers.values_remove_of_ne retry, Headers.values_remove_of_ne call]

/-- What an attempt adds to the headers of its request. -/
theorem values_attemptHeaders (attempt : Nat) (authorization : Option HeaderValue) (request : Request)
    (name : HeaderName) :
    Headers.values name (request.attemptHeaders attempt authorization) =
      if name = .authorization ∧ authorization.isSome then authorization.toList
      else if name = .retryAttempt ∧ 0 < attempt then [.ofText (toString attempt)]
      else Headers.values name request.headers := by
  by_cases call : name = .authorization
  · have other : ¬(HeaderName.authorization = .retryAttempt ∧ 0 < attempt) := fun both => absurd both.1 (by decide)
    rw [call, authorization_attemptHeaders, if_neg other]
    cases authorization with
    | none => rfl
    | some value => rfl
  · rw [if_neg fun both => call both.1]
    by_cases retry : name = .retryAttempt
    · rw [retry, retryAttempt_attemptHeaders]
      by_cases first : attempt = 0
      · rw [if_pos first, if_neg (by omega)]
      · rw [if_neg first, if_pos ⟨rfl, by omega⟩]
    · rw [if_neg fun both => retry both.1, ← values_withoutAttempt call retry, withoutAttempt_attemptHeaders,
        values_withoutAttempt call retry]

end Request

namespace Client

variable {client : Client} {request prepared : Request} {options : Options} {plan : RetryPlan}

/-- The value of a header in the message of an attempt, by who decides first: the authorizer and the number of the attempt
their own headers, the request what it has, and the settings the rest. -/
def decided? (config : Configuration) (options : Options) (request : Request) (attempt : Nat)
    (authorization : Option HeaderValue) (name : HeaderName) : Option HeaderValue :=
  if name = .authorization ∧ authorization.isSome then authorization
  else if name = .retryAttempt ∧ 0 < attempt then some (.ofText (toString attempt))
  else
    match Headers.first? name request.headers with
    | some value => some value
    | none => config.settled? options name

theorem config_of_ofConfiguration {config : Configuration} (accepted : ofConfiguration config = .ok client) :
    client.config = config := by
  obtain ⟨_, _, rest⟩ := Except.bind_eq_ok accepted
  obtain ⟨_, _, rest⟩ := Except.bind_eq_ok rest
  obtain ⟨_, _, rest⟩ := Except.bind_eq_ok rest
  obtain ⟨_, _, rest⟩ := Except.bind_eq_ok rest
  cases rest
  rfl

/-- The authorizer of a client keeps the retries of the configuration. -/
theorem exists_plan {config : Configuration} (accepted : ofConfiguration config = .ok client) :
    ∃ plan, config.retryPlan .none = .ok plan ∧
      Authorizer.ofCredentials config.credentials plan = .ok client.authorizer := by
  obtain ⟨_, _, rest⟩ := Except.bind_eq_ok accepted
  obtain ⟨_, _, rest⟩ := Except.bind_eq_ok rest
  obtain ⟨plan, planned, rest⟩ := Except.bind_eq_ok rest
  obtain ⟨authorizer, made, rest⟩ := Except.bind_eq_ok rest
  cases rest
  exact ⟨plan, planned, made⟩

/-- Credentials that are exchanged make a source at the endpoint of their issuer. -/
theorem issued_of_ofCredentials {credentials : ClientCredentials} {authorizer : Authorizer}
    (made : Authorizer.ofCredentials (.client credentials) plan = .ok authorizer) :
    ∃ endpoint, Endpoint.resolve credentials.issuer = .ok endpoint ∧
      authorizer = .issued ⟨endpoint, credentials, plan⟩ := by
  obtain ⟨_, fits⟩ := Authorizer.ofCredentials_eq_ok_iff.mp made
  cases fits with
  | issued resolved => exact ⟨_, resolved, rfl⟩

/-- The copies of the credentials agree: that of the calls and that of the source of tokens with the configuration. -/
theorem identity_of_ofConfiguration {config : Configuration} (accepted : ofConfiguration config = .ok client) :
    client.identity = config.credentials.identity ∧
      ∀ source, client.authorizer = .issued source → source.identity = config.credentials.identity := by
  obtain ⟨plan, _, made⟩ := exists_plan accepted
  obtain ⟨_, fits⟩ := Authorizer.ofCredentials_eq_ok_iff.mp made
  refine ⟨?_, fun source issued => ?_⟩
  · obtain ⟨_, _, rest⟩ := Except.bind_eq_ok accepted
    obtain ⟨_, _, rest⟩ := Except.bind_eq_ok rest
    obtain ⟨_, _, rest⟩ := Except.bind_eq_ok rest
    obtain ⟨_, _, rest⟩ := Except.bind_eq_ok rest
    cases rest
    rfl
  · rw [issued] at fits
    generalize config.credentials = credentials at fits
    cases fits
    rfl

/-- Client credentials give a client a source of tokens, at the endpoint of their issuer and with the retries of the
configuration. -/
theorem exists_source {config : Configuration} {credentials : ClientCredentials}
    (accepted : ofConfiguration config = .ok client) (used : config.credentials = .client credentials) :
    ∃ source, client.authorizer = .issued source ∧ source.credentials = credentials ∧
      Endpoint.resolve credentials.issuer = .ok source.endpoint ∧ config.retryPlan .none = .ok source.plan := by
  obtain ⟨plan, planned, made⟩ := exists_plan accepted
  rw [used] at made
  obtain ⟨endpoint, resolved, issued⟩ := issued_of_ofCredentials made
  exact ⟨⟨endpoint, credentials, plan⟩, issued, rfl, resolved, planned⟩

theorem headers_of_prepare (taken : client.prepare request options = .ok (prepared, plan)) :
    ∃ headers, client.config.requestHeaders options = .ok headers ∧
      prepared.headers = Headers.fill headers request.headers := by
  obtain ⟨_, _, rest⟩ := Except.bind_eq_ok taken
  obtain ⟨headers, gathered, rest⟩ := Except.bind_eq_ok rest
  cases rest
  exact ⟨headers, gathered, rfl⟩

/-- Each message of a prepared request has the decided value of every header, and no other. -/
theorem values_prepared (made : request.IsMade) (taken : client.prepare request options = .ok (prepared, plan))
    (attempt : Nat) (authorization : Option HeaderValue) (name : HeaderName) :
    Headers.values name (prepared.attemptHeaders attempt authorization) =
      (decided? client.config options request attempt authorization name).toList := by
  obtain ⟨headers, gathered, filled⟩ := headers_of_prepare taken
  rw [Request.values_attemptHeaders, decided?]
  by_cases call : name = .authorization ∧ authorization.isSome
  · rw [if_pos call, if_pos call]
  · rw [if_neg call, if_neg call]
    by_cases retry : name = .retryAttempt ∧ 0 < attempt
    · rw [if_pos retry, if_pos retry]
      rfl
    · rw [if_neg retry, if_neg retry, filled, Headers.values_fill, made.values]
      cases Headers.first? name request.headers with
      | some value => rfl
      | none => exact Configuration.values_requestHeaders gathered name

/-- The course of a call that could be prepared. -/
def course (client : Client) (prepared : Request) (plan : RetryPlan) (w : Surroundings) (s : Session) : Call.Course :=
  ⟨client.identity, prepared, plan, client.authorizer, w, s⟩

theorem attempt_eq_course (taken : client.prepare request options = .ok (prepared, plan)) (w : Surroundings)
    (s : Session) : client.attempt request options w s = (client.course prepared plan w s).result := by
  have lifted : Act.lift (client.prepare request options) w s = (.ok (prepared, plan), s) := by
    rw [taken]
    rfl
  exact Act.bind_ok lifted

/-- A call that cannot be prepared does nothing. -/
theorem attempt_of_unprepared {wrong : ClientError} {w : Surroundings} {s : Session}
    (refused : client.prepare request options = .error wrong) :
    client.attempt request options w s = (.error (.failed wrong), s) := by
  have lifted : Act.lift (client.prepare request options) w s = (.error (.failed wrong), s) := by
    rw [refused]
    rfl
  exact Act.bind_error lifted

/-- In every message of a call each header has the value that is decided for it, if there is one, and no other. The
authorizer decides about the authorization if it gives one, and the number of a retry stands for itself; otherwise the
request, the options of the call and the configuration decide in this order, the latter two by the greatest of their keys
for the name. -/
theorem headers_of_attempts {config : Configuration} (accepted : ofConfiguration config = .ok client)
    (made : request.IsMade) (taken : client.prepare request options = .ok (prepared, plan))
    (defaults : config.defaultHeaders.Ascending) (own : options.headers.Ascending) (w : Surroundings) (s : Session) :
    (∀ name value, Entries.latest? name config.defaultHeaders = some value ↔
      Entries.IsLatest name config.defaultHeaders value) ∧
    (∀ name option, Entries.latest? name options.headers = some option ↔ Entries.IsLatest name options.headers option) ∧
    client.attempt request options w s = (client.course prepared plan w s).result ∧
    ∃ n, (client.course prepared plan w s).Ended n ∧
      ∃ k, List.Forall₂ (fun i message =>
          ∃ authorization, (client.course prepared plan w s).authorization i = .ok authorization ∧
            ∀ name, Headers.values name message.headers =
              (decided? config options request i authorization name).toList)
        (List.range k) (((client.course prepared plan w s).own n).filterMap Event.message?) := by
  refine ⟨Entries.latest?_eq_some_iff defaults, Entries.latest?_eq_some_iff own, attempt_eq_course taken w s, ?_⟩
  obtain ⟨n, ended⟩ := (client.course prepared plan w s).exists_ended
  obtain ⟨k, writes⟩ := ended.writes
  refine ⟨n, ended, k, writes.imp fun i message written => ?_⟩
  refine ⟨_, written.authorized.granted, fun name => ?_⟩
  have values := values_prepared made taken i ((client.course prepared plan w s).granted i) name
  rw [config_of_ofConfiguration accepted] at values
  rw [← values, written.headers]
  rfl

/-- A client with default headers of which two differ only in case. -/
def layered : Client where
  config := { Configuration.standard with
    apiUrl := "https://api.fga.example"
    credentials := .apiToken ⟨"t"⟩
    defaultHeaders := Entries.ofPairs [("x-team", "core"), ("X-Team", "old"), ("X-Trace", "on"), ("Accept", "text/plain")] }
  baseUrl := ⟨"https", "", none, some (.domain "api.fga.example"), none, .segments [""], none, none⟩
  identity := .none
  authorizer := .apiToken ⟨"t"⟩

/-- Options that take a default header away under the later one of two keys. -/
def layers : Options :=
  { Options.none with
    headers := Entries.ofPairs [("x-trace", none), ("X-TRACE", some "off"), ("AUTHORIZATION", some "other")] }

def layeredRequest : Request :=
  (Request.new "check" "GET" layered.baseUrl).setHeader ⟨"accept"⟩ (.ofText "application/json")

theorem headers_of_attempts_layered :
    ofConfiguration layered.config = .ok layered ∧ layeredRequest.IsMade ∧
    layered.config.defaultHeaders.Ascending ∧ layers.headers.Ascending ∧
    (layered.attempt layeredRequest layers Call.Course.flaky.surroundings .fresh).2.messages.length = 3 ∧
    ∃ prepared plan, layered.prepare layeredRequest layers = .ok (prepared, plan) ∧
      Entries.IsLatest ⟨"x-team"⟩ layered.config.defaultHeaders "core" ∧
      Entries.IsLatest ⟨"x-trace"⟩ layers.headers none ∧
      ∃ n k, List.Forall₂ (fun i message =>
          Headers.values .authorization message.headers = [⟨Utf8.encode "Bearer t", true⟩] ∧
          Headers.values .retryAttempt message.headers = (if 0 < i then [.ofText (toString i)] else []) ∧
          Headers.values ⟨"accept"⟩ message.headers = [.ofText "application/json"] ∧
          Headers.values ⟨"x-team"⟩ message.headers = [.ofText "core"] ∧
          Headers.values ⟨"x-trace"⟩ message.headers = [] ∧
          Headers.values .userAgent message.headers = [.ofText "openfga-sdk rust/0.1.0"])
        (List.range k)
        (((layered.course prepared plan Call.Course.flaky.surroundings .fresh).own n).filterMap Event.message?) := by
  have accepted : ofConfiguration layered.config = .ok layered := Except.eq_ok_of_toOption (by decide +kernel)
  have made : layeredRequest.IsMade := .setHeader _ _ (.new _ _ _)
  have defaults : layered.config.defaultHeaders.Ascending := Entries.ascending_ofPairs _
  have own : layers.headers.Ascending := Entries.ascending_ofPairs _
  obtain ⟨⟨prepared, plan⟩, taken⟩ : ∃ both, layered.prepare layeredRequest layers = .ok both :=
    ⟨_, Except.eq_ok_of_toOption rfl⟩
  obtain ⟨latest, chosen, _, n, _, k, messages⟩ :=
    headers_of_attempts accepted made taken defaults own Call.Course.flaky.surroundings .fresh
  have sent : (layered.attempt layeredRequest layers Call.Course.flaky.surroundings .fresh).2.messages.length = 3 := by
    decide +kernel
  refine ⟨accepted, made, defaults, own, sent, prepared, plan, taken, (latest _ _).mp (by decide +kernel),
    (chosen _ _).mp (by decide +kernel), n, k, messages.imp ?_⟩
  rintro i message ⟨authorization, authorized, values⟩
  have token : some ⟨Utf8.encode "Bearer t", true⟩ = authorization := Except.ok.inj authorized
  have other (name : HeaderName) (call : name ≠ .authorization) (retry : name ≠ .retryAttempt) :
      Headers.values name message.headers = (match Headers.first? name layeredRequest.headers with
        | some value => some value
        | none => layered.config.settled? layers name).toList := by
    rw [values, decided?, if_neg fun both => call both.1, if_neg fun both => retry both.1]
  refine ⟨?_, ?_, (other _ (by decide) (by decide)).trans ?_, (other _ (by decide) (by decide)).trans ?_,
    (other _ (by decide) (by decide)).trans ?_, (other _ (by decide) (by decide)).trans ?_⟩
  · rw [values, ← token]
    rfl
  · rw [values, decided?, if_neg fun both => absurd both.1 (by decide)]
    by_cases later : 0 < i
    · rw [if_pos ⟨rfl, later⟩, if_pos later]
      rfl
    · rw [if_neg fun both => later both.2, if_neg later]
      decide +kernel
  · decide +kernel
  · decide +kernel
  · decide +kernel
  · decide +kernel

end Client

end AuthzClient
