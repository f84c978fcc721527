import AuthzClient.Proofs.Call.Durations
import AuthzClient.Proofs.Client.Precedence
import AuthzClient.Proofs.Url.Form

/-!
What an exchange sends. The messages of a source are settled by its credentials and its endpoint before any call is made:
each is a form with the credentials and nothing else, and no call, no session and no answer has a part in it but by how
often it is sent.
-/

namespace AuthzClient

open Http Act

namespace Token

/-- What the given attempt of an exchange has to be: a form that is read as the credentials, part by part, with the headers
that tell of a form and of a retry. -/
structure Posted (credentials : ClientCredentials) (endpoint : Url) (attempt : Nat) (message : Message) : Prop where
  method : message.method = "POST"
  target : Target.parse? endpoint.text = some message.target
  fields : Form.decode message.body =
    [("client_id", credentials.clientId), ("client_secret", credentials.clientSecret.exposed)] ++
      credentials.audience.toList.map (("audience", ·)) ++ [("grant_type", "client_credentials")] ++
      credentials.scopes.toList.map (("scope", ·))
  headers : message.headers = (.contentType, .ofText "application/x-www-form-urlencoded") ::
    if attempt = 0 then [] else [(.retryAttempt, .ofText (toString attempt))]

namespace Source

variable (source : Source)

/-- The message of an attempt to exchange. -/
def post? (attempt : Nat) : Option Message := source.request.message? attempt none

variable {source} {attempt : Nat} {message : Message}

theorem toList_optionalPart (name : String) (part : Option String) :
    optionalPart name part = part.toList.map ((name, ·)) := by
  cases part <;> rfl

theorem posted_of_post? (written : source.post? attempt = some message) :
    Posted source.credentials source.endpoint attempt message := by
  obtain ⟨target, parsed, rfl⟩ := Option.map_eq_some_iff.mp written
  refine ⟨rfl, parsed, ?_, ?_⟩
  · rw [← toList_optionalPart, ← toList_optionalPart]
    exact Form.decode_encode (form source.credentials)
  · cases attempt with
    | zero => rfl
    | succ attempt => rfl

/-- Messages were sent, and they are attempts to exchange. -/
def Posting (source : Source) (s t : Session) : Prop :=
  ∃ sent, t.messages = s.messages ++ sent ∧ ∀ message ∈ sent, ∃ attempt, source.post? attempt = some message

theorem posting_of_quiet {s t : Session} (quiet : Quiet s t) : source.Posting s t :=
  ⟨[], quiet.trans (List.append_nil _).symm, nofun⟩

theorem mild_posting (source : Source) : Mild source.Posting where
  trans := by
    rintro s t u ⟨first, grown, posted⟩ ⟨next, more, later⟩
    refine ⟨first ++ next, by rw [more, grown, List.append_assoc], fun message inside => ?_⟩
    exact (List.mem_append.mp inside).elim (posted message) (later message)
  silent _ same _ _ := posting_of_quiet same

/-- The attempts of an exchange are sent in order, and nothing else is. -/
theorem exchange_messages (source : Source) (w : Surroundings) (s : Session) :
    ∃ count sent, (source.exchange w s).2.messages = s.messages ++ sent ∧
      (List.range count).map source.post? = sent.map some := by
  obtain ⟨n, ended⟩ := (source.course w s).exists_ended
  obtain ⟨count, writes⟩ := ended.writes
  -- The call of an exchange is not authorized, so all it adds is its own.
  have alone (i : Nat) : (source.course w s).authorizing i = [] := List.drop_length
  have events : (source.course w s).result.2.events = s.events ++ (source.course w s).own n := by
    rw [ended.events_result]
    simp only [alone, List.nil_append, List.append_assoc]
    rfl
  refine ⟨count, ((source.course w s).own n).filterMap Event.message?, ?_, ?_⟩
  · rw [source.messages_exchange, Session.messages, events, List.filterMap_append]
    rfl
  · refine List.forall₂_eq_eq_eq ▸ List.forall₂_map_left_iff.mpr (List.forall₂_map_right_iff.mpr ?_)
    exact writes.imp fun attempt message written => written.written

theorem posting_exchange (source : Source) : Respects source.Posting source.exchange := by
  intro w s
  obtain ⟨count, sent, grown, posts⟩ := source.exchange_messages w s
  refine ⟨sent, grown, fun message inside => ?_⟩
  have listed : some message ∈ (List.range count).map source.post? := posts ▸ List.mem_map_of_mem inside
  obtain ⟨attempt, _, written⟩ := List.mem_map.mp listed
  exact ⟨attempt, written⟩

theorem posting_renew (source : Source) (seen : Option Nat) : Respects source.Posting (source.renew seen) := by
  have mild := source.mild_posting
  refine mild.bind mild.cache fun cache => ?_
  split
  · exact mild.bind (mild.log _) fun _ => mild.pure _
  · refine mild.bind source.posting_exchange fun _ => mild.bind mild.cache fun _ => mild.bind ?_ fun _ =>
      mild.bind ?_ fun _ => mild.pure _
    · exact fun _ _ => posting_of_quiet rfl
    · refine fun _ s => posting_of_quiet ?_
      exact (List.filterMap_append ..).trans (List.append_nil _)

end Source

end Token

namespace Client

variable {config : Configuration} {client : Client} {credentials : ClientCredentials}

/-- The source of a client's tokens sends forms to the endpoint of its issuer that are read as the credentials of the
configuration, part by part, with no headers but those of a form and of a retry. It sends them in order when it exchanges, and
nothing else whenever a token is asked for: by one caller or by several, for itself or to authorize any call whatsoever. -/
theorem posted_of_ofConfiguration (made : ofConfiguration config = .ok client)
    (used : config.credentials = .client credentials) :
    ∃ source, client.authorizer = .issued source ∧ Endpoint.resolve credentials.issuer = .ok source.endpoint ∧
      (∀ attempt message, source.post? attempt = some message →
        Token.Posted credentials source.endpoint attempt message) ∧
      (∀ w s, ∃ count sent, (source.exchange w s).2.messages = s.messages ++ sent ∧
        (List.range count).map source.post? = sent.map some) ∧
      (∀ w s, source.Posting s (source.token w s).2) ∧
      (∀ callers w s, source.Posting s (source.tokens callers w s).2) ∧
      ∀ request plan w s i, ∀ message ∈ (client.course request plan w s).exchanged i,
        ∃ attempt, source.post? attempt = some message := by
  obtain ⟨source, issued, rfl, resolved, _⟩ := exists_source made used
  have mild := source.mild_posting
  have asking : Respects source.Posting source.token := Token.Source.respects_token mild source.posting_renew
  refine ⟨source, issued, resolved, fun attempt message => Token.Source.posted_of_post?, source.exchange_messages, asking,
    fun callers => Token.Source.respects_tokens mild source.posting_renew callers, ?_⟩
  intro request plan w s i message inside
  have authorizing : Respects source.Posting client.authorizer.authorization := by
    rw [issued]
    exact Authorizer.respects_authorization mild (mild.bind asking fun _ => mild.pure _)
  obtain ⟨sent, grown, posted⟩ := authorizing w ((client.course request plan w s).before i)
  have added : (client.course request plan w s).exchanged i = sent :=
    List.append_cancel_left (((client.course request plan w s).messages_ready i).symm.trans grown)
  exact posted message (added ▸ inside)

/-- Credentials that look like parts of a form. -/
def intricate : ClientCredentials := ⟨"a&client_secret=b", ⟨"s+ %3dé"⟩, "issuer.fga.example", some "=", some "read write"⟩

/-- A client with such credentials, and with default headers. -/
def posting : Client where
  config := { layered.config with credentials := .client intricate }
  baseUrl := layered.baseUrl
  identity := ⟨some "a&client_secret=b", some "="⟩
  authorizer := .issued {
    endpoint := ⟨"https", "", none, some (.domain "issuer.fga.example"), none, .segments ["oauth", "token"], none, none⟩
    credentials := intricate
    plan := ⟨3, Span.ofMillis 100⟩ }

theorem posted_of_ofConfiguration_posting :
    ofConfiguration posting.config = .ok posting ∧ posting.config.credentials = .client intricate ∧
      ∃ source first second third, posting.authorizer = .issued source ∧
        (source.exchange Call.Course.flaky.surroundings .fresh).2.messages = [first, second, third] ∧
        third.method = "POST" ∧
        Form.decode third.body = [("client_id", "a&client_secret=b"), ("client_secret", "s+ %3dé"), ("audience", "="),
          ("grant_type", "client_credentials"), ("scope", "read write")] ∧
        third.headers = [(.contentType, .ofText "application/x-www-form-urlencoded"), (.retryAttempt, .ofText "2")] := by
  have made : ofConfiguration posting.config = .ok posting := Except.eq_ok_of_toOption (by decide +kernel)
  obtain ⟨source, issued, _, posted, exchanges, _⟩ := posted_of_ofConfiguration made rfl
  obtain ⟨count, sent, messages, posts⟩ := exchanges Call.Course.flaky.surroundings .fresh
  have three : sent.length = 3 := by
    have whole : (source.exchange Call.Course.flaky.surroundings .fresh).2.messages.length = 3 := by
      cases issued
      decide +kernel
    rwa [messages] at whole
  obtain ⟨first, second, third, rfl⟩ := List.length_eq_three.mp three
  have counted : count = 3 := by simpa using congrArg List.length posts
  subst counted
  have last : source.post? 2 = some third := by
    simp only [List.range, List.range.loop, List.map_cons, List.map_nil, List.cons.injEq] at posts
    exact posts.2.2.1
  have written := posted 2 third last
  exact ⟨made, rfl, source, first, second, third, issued, messages, written.method, written.fields, written.headers⟩

end Client

end AuthzClient
