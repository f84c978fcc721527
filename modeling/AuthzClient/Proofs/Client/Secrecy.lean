import AuthzClient.Client.Template
import AuthzClient.Proofs.Session.Pairs
import AuthzClient.Proofs.Token.Authorization

/-!
Secrets go nowhere but where they are sent. Two clients that hold different secrets are used step by step in the same
way and meet the same answers: they give the same answers, wait, measure and record the same, and send the same messages
except for the secret in the form of an exchange, or in the authorization of a call. The token that a client holds itself
is also what it answers when it is asked for its token.
-/

namespace AuthzClient

open Http Act Text

/-- Where a configuration holds a secret. -/
inductive SecretPlace
  /-- The secret that is exchanged for tokens, next to the other parts of the credentials. -/
  | clientSecret (credentials : ClientCredentials)
  /-- The token that calls carry as it is. -/
  | apiToken

/-- With another secret. -/
def ClientCredentials.keeping (credentials : ClientCredentials) (secret : Secret) : ClientCredentials :=
  { credentials with clientSecret := secret }

namespace SecretPlace

def hold : SecretPlace → Secret → Credentials
  | clientSecret credentials, secret => .client (credentials.keeping secret)
  | apiToken, secret => .apiToken secret

/-- The secret is no part of what the credentials are named by. -/
theorem identity_hold_eq (place : SecretPlace) (one other : Secret) :
    (place.hold one).identity = (place.hold other).identity := by
  cases place <;> rfl

/-- A secret that is of use there. -/
def Takes : SecretPlace → Secret → Prop
  | clientSecret _, secret => secret.isBlank = false
  | apiToken, secret => secret.isBlank = false ∧ secret.IsSendable

instance (place : SecretPlace) (secret : Secret) : Decidable (place.Takes secret) :=
  match place with
  | clientSecret _ => inferInstanceAs (Decidable (secret.isBlank = false))
  | apiToken => inferInstanceAs (Decidable (secret.isBlank = false ∧ secret.IsSendable))

end SecretPlace

/-- With a secret in place of all credentials. -/
def Configuration.keeping (config : Configuration) (place : SecretPlace) (secret : Secret) : Configuration :=
  { config with credentials := place.hold secret }

namespace Token.Source

def keeping (source : Source) (secret : Secret) : Source :=
  { source with credentials := source.credentials.keeping secret }

/-- The body of an exchange. -/
def formBytes (credentials : ClientCredentials) : List UInt8 := Utf8.encodeChars (Form.encode (form credentials))

/-- The endpoint is the one that the issuer's name stands for. -/
def IsResolved (source : Source) : Prop := Endpoint.resolve source.credentials.issuer = .ok source.endpoint

end Token.Source

section Likeness

variable (one other : Secret)

/-- Headers that differ at most in the token of an authorization. -/
inductive HeaderAlike : HeaderName × HeaderValue → HeaderName × HeaderValue → Prop
  | same (header : HeaderName × HeaderValue) : HeaderAlike header header
  | bearer : HeaderAlike (.authorization, Authorizer.bearer one) (.authorization, Authorizer.bearer other)

/-- Authorizations that differ at most in a token that calls carry as it is. -/
inductive GrantAlike : SecretPlace → Option HeaderValue → Option HeaderValue → Prop
  | same (place : SecretPlace) (value : Option HeaderValue) : GrantAlike place value value
  | bearer : GrantAlike .apiToken (some (Authorizer.bearer one)) (some (Authorizer.bearer other))

/-- Messages that differ at most where the secret is sent: in the form for the token endpoint, or in the authorization. -/
inductive MessageAlike : SecretPlace → Message → Message → Prop
  | same (place : SecretPlace) (message : Message) : MessageAlike place message message
  | exchanged {source : Token.Source} {target : Target} (headers : Headers) (resolved : source.IsResolved)
      (written : Target.parse? source.endpoint.text = some target) :
      MessageAlike (.clientSecret source.credentials)
        ⟨"POST", target, headers, Token.Source.formBytes (source.credentials.keeping one)⟩
        ⟨"POST", target, headers, Token.Source.formBytes (source.credentials.keeping other)⟩
  | carried {headers others : Headers} (method : String) (target : Target) (body : List UInt8)
      (alike : List.Forall₂ (HeaderAlike one other) headers others) :
      MessageAlike .apiToken ⟨method, target, headers, body⟩ ⟨method, target, others, body⟩

/-- The authorizers of two secrets in one place. -/
inductive AuthorizerAlike : SecretPlace → Authorizer → Authorizer → Prop
  | issued {source : Token.Source} (resolved : source.IsResolved) :
      AuthorizerAlike (.clientSecret source.credentials) (.issued (source.keeping one)) (.issued (source.keeping other))
  | fixed : AuthorizerAlike .apiToken (.apiToken one) (.apiToken other)

end Likeness

variable {one other : Secret} {place : SecretPlace}

namespace Request

theorem remove_alike {headers others : Headers} (name : HeaderName)
    (alike : List.Forall₂ (HeaderAlike one other) headers others) :
    List.Forall₂ (HeaderAlike one other) (Headers.remove name headers) (Headers.remove name others) := by
  refine List.rel_filter (fun {header header'} same => ?_) alike
  cases same <;> rfl

theorem set_alike {headers others : Headers} {name : HeaderName} {value value' : HeaderValue}
    (alike : List.Forall₂ (HeaderAlike one other) headers others)
    (last : HeaderAlike one other (name, value) (name, value')) :
    List.Forall₂ (HeaderAlike one other) (Headers.set name value headers) (Headers.set name value' others) :=
  List.rel_append (remove_alike name alike) (.cons last .nil)

/-- Only the authorization of an attempt can show the secret; the number of the attempt is written behind it. -/
theorem attemptHeaders_alike (request : Request) (attempt : Nat) :
    List.Forall₂ (HeaderAlike one other) (request.attemptHeaders attempt (some (Authorizer.bearer one)))
      (request.attemptHeaders attempt (some (Authorizer.bearer other))) := by
  have given : List.Forall₂ (HeaderAlike one other) request.headers request.headers :=
    List.forall₂_same.mpr fun header _ => .same header
  have authorized := set_alike given (.bearer : HeaderAlike one other (.authorization, _) (.authorization, _))
  unfold attemptHeaders
  dsimp only
  split
  · exact set_alike authorized (.same _)
  · exact authorized

theorem message_alike (request : Request) (attempt : Nat) {value value' : Option HeaderValue}
    (alike : GrantAlike one other place value value') :
    Option.Rel (MessageAlike one other place) (request.message? attempt value) (request.message? attempt value') := by
  unfold message?
  cases Target.parse? request.url.text with
  | none => exact .none
  | some target =>
    cases alike with
    | same place value => exact .some (.same _ _)
    | bearer => exact .some (.carried _ _ _ (request.attemptHeaders_alike attempt))

theorem withBody_withBody (request : Request) (earlier body : List UInt8) :
    (request.withBody earlier).withBody body = request.withBody body := rfl

theorem message?_withBody (request : Request) (body : List UInt8) (attempt : Nat) (value : Option HeaderValue) :
    (request.withBody body).message? attempt value = (Target.parse? request.url.text).map fun target =>
      ⟨request.method, target, request.attemptHeaders attempt value, body⟩ := rfl

/-- A form with another secret makes a message that differs in its body only. -/
theorem message_alike_of_form {request : Request} {source : Token.Source} (resolved : source.IsResolved)
    (method : request.method = "POST") (url : request.url = source.endpoint)
    (body : request.body = Token.Source.formBytes (source.credentials.keeping one)) (attempt : Nat)
    (value : Option HeaderValue) :
    Option.Rel (MessageAlike one other (.clientSecret source.credentials)) (request.message? attempt value)
      ((request.withBody (Token.Source.formBytes (source.credentials.keeping other))).message? attempt value) := by
  rw [message?_withBody]
  unfold message?
  rw [method, url, body]
  cases parsed : Target.parse? source.endpoint.text with
  | none => exact .none
  | some target => exact .some (.exchanged _ resolved parsed)

end Request

namespace Token.Source

theorem request_eq (source : Source) : source.request =
    ((Request.new exchangeOperation "POST" source.endpoint).setHeader .contentType Request.formType).withBody
      (formBytes source.credentials) := rfl

variable {source : Source} (resolved : source.IsResolved)

include resolved

/-- The secret is in the form and nowhere else; the answer and all that is recorded of it do not know it. -/
theorem agree_exchange :
    Agree (MessageAlike one other (.clientSecret source.credentials)) Eq (source.keeping one).exchange
      (source.keeping other).exchange := by
  have form : (source.keeping other).request =
      (source.keeping one).request.withBody (formBytes (source.credentials.keeping other)) := by
    rw [request_eq, request_eq, Request.withBody_withBody]
    rfl
  have body : (source.keeping one).request.body = formBytes (source.credentials.keeping one) := by
    rw [request_eq]
    rfl
  unfold exchange
  rw [form]
  refine Agree.bind_eq (Call.agree_run _ _ (Agree.pure rfl) ?_) fun response => ?_
  · intro attempt value value' same
    subst same
    exact Request.message_alike_of_form resolved rfl rfl body attempt value
  · exact Agree.receive.bind_eq fun _ => (Agree.lift _).bind_eq fun answer => (Agree.log _).bind_eq fun _ =>
      Agree.readClock.bind_eq fun reading => Agree.pure rfl

theorem agree_renew (seen : Option Nat) :
    Agree (MessageAlike one other (.clientSecret source.credentials)) Eq ((source.keeping one).renew seen)
      ((source.keeping other).renew seen) := by
  refine Agree.cache.bind_eq fun cache => ?_
  split
  · exact (Agree.log _).bind_eq fun _ => Agree.pure rfl
  · exact (agree_exchange resolved).bind_eq fun token => Agree.cache.bind_eq fun cache =>
      (Agree.setCache _).bind_eq fun _ => (Agree.measure _).bind_eq fun _ => Agree.pure rfl

theorem agree_token :
    Agree (MessageAlike one other (.clientSecret source.credentials)) Eq (source.keeping one).token
      (source.keeping other).token := by
  refine Agree.look.bind_eq fun found => ?_
  cases found with
  | ok token => exact Agree.pure rfl
  | error seen => exact agree_renew resolved seen

theorem agree_turns (looked : List (Except (Option Nat) AccessToken)) :
    Agree (MessageAlike one other (.clientSecret source.credentials)) Eq ((source.keeping one).turns looked)
      ((source.keeping other).turns looked) := by
  induction looked with
  | nil => exact Agree.pure rfl
  | cons found rest ih =>
    cases found with
    | ok token => exact ih.bind_eq fun later => Agree.pure rfl
    | error seen => exact (agree_renew resolved seen).settle.bind_eq fun first => ih.bind_eq fun later => Agree.pure rfl

theorem agree_tokens (callers : Nat) :
    Agree (MessageAlike one other (.clientSecret source.credentials)) Eq ((source.keeping one).tokens callers)
      ((source.keeping other).tokens callers) := by
  induction callers with
  | zero => exact Agree.pure rfl
  | succ callers ih =>
    refine Agree.look.bind_eq fun found => ?_
    cases found with
    | ok token => exact ih.bind_eq fun later => Agree.pure rfl
    | error seen =>
      have turn : Agree (MessageAlike one other (.clientSecret source.credentials)) Eq _ _ :=
        agree_renew resolved seen
      refine turn.takesTime.bind_eq fun slow => ?_
      split
      · exact (Agree.looks callers).bind_eq fun others => agree_turns resolved _
      · exact turn.settle.bind_eq fun first => ih.bind_eq fun later => Agree.pure rfl

end Token.Source

namespace Authorizer

variable {left right : Authorizer}

theorem describe_alike (alike : AuthorizerAlike one other place left right) : left.describe = right.describe := by
  cases alike <;> rfl

section Issued

variable {source : Token.Source} (resolved : source.IsResolved)

include resolved

theorem agree_token_issued :
    Agree (MessageAlike one other (.clientSecret source.credentials)) Eq (issued (source.keeping one)).token
      (issued (source.keeping other)).token :=
  (Token.Source.agree_token resolved).bind_eq fun _ => Agree.pure rfl

theorem agree_tokens_issued (callers : Nat) :
    Agree (MessageAlike one other (.clientSecret source.credentials)) Eq ((issued (source.keeping one)).tokens callers)
      ((issued (source.keeping other)).tokens callers) :=
  (Token.Source.agree_tokens resolved callers).bind_eq fun _ => Agree.pure rfl

end Issued

theorem agree_authorization (alike : AuthorizerAlike one other place left right) (first : place.Takes one)
    (second : place.Takes other) :
    Agree (MessageAlike one other place) (GrantAlike one other place) left.authorization right.authorization := by
  cases alike with
  | issued resolved =>
    refine (agree_token_issued resolved).bind_eq fun token => ?_
    cases token with
    | none => exact Agree.pure (.same _ _)
    | some token =>
      dsimp only
      split
      · exact Agree.pure (.same _ _)
      · exact Agree.fail _
  | fixed =>
    have carried (secret : Secret) (takes : SecretPlace.apiToken.Takes secret) :
        (apiToken secret).authorization = pure (some (bearer secret)) := by
      funext w s
      refine (authorization_eq (.apiToken secret) w s).trans ?_
      change ((header (some secret)), s) = _
      rw [header, if_pos takes.2]
      rfl
    rw [carried one first, carried other second]
    exact Agree.pure .bearer

theorem agree_invalidate (alike : AuthorizerAlike one other place left right) :
    Agree (MessageAlike one other place) Eq left.invalidate right.invalidate := by
  cases alike with
  | issued resolved => exact Agree.cache.bind_eq fun cache => Agree.setCache _
  | fixed => exact Agree.pure rfl

end Authorizer

namespace Client

/-- The clients of a configuration with one secret and with another one. -/
structure Pair (config : Configuration) (place : SecretPlace) (one other : Secret) (left right : Client) : Prop where
  config_left : left.config = config.keeping place one
  config_right : right.config = config.keeping place other
  baseUrl : left.baseUrl = right.baseUrl
  identity : left.identity = right.identity
  authorizer : AuthorizerAlike one other place left.authorizer right.authorizer
  first : place.Takes one
  second : place.Takes other

namespace Pair

variable {config : Configuration} {left right : Client} (pair : Pair config place one other left right)

include pair

/-- Nothing of a call but its authorization depends on the credentials. -/
theorem prepare_eq (request : Request) (options : Options) :
    left.prepare request options = right.prepare request options := by
  rw [prepare, prepare, pair.config_left, pair.config_right]
  rfl

theorem fillTemplate_eq (template : Template) : left.fillTemplate template = right.fillTemplate template := by
  rw [fillTemplate, fillTemplate, templateUrl, templateUrl, pair.config_left, pair.config_right]
  unfold join basePart
  rw [pair.baseUrl]
  rfl

theorem objectsRequest_eq (storeId : String) (body : Except Json.Fault Json) :
    left.objectsRequest storeId body = right.objectsRequest storeId body := by
  unfold objectsRequest join basePart
  rw [pair.baseUrl]

theorem classify_eq (request : Request) (status : Nat) (headers : Headers) (body : List UInt8) :
    left.classify request status headers body = right.classify request status headers body := by
  rw [classify, classify, pair.config_left, pair.config_right]
  exact congrArg (fun identity => Option.map (ApiError.onBehalfOf identity) _) (place.identity_hold_eq one other)

theorem agree_attempt (request : Request) (options : Options) :
    Agree (MessageAlike one other place) Eq (left.attempt request options) (right.attempt request options) := by
  unfold attempt
  rw [pair.prepare_eq, pair.identity]
  refine (Agree.lift _).bind_eq fun prepared => ?_
  exact Call.agree_run _ _ (Authorizer.agree_authorization pair.authorizer pair.first pair.second)
    fun attempt _ _ => prepared.1.message_alike attempt

theorem agree_sendJson {α : Type} (item : Json.Decoder α) (request : Request) (options : Options) :
    Agree (MessageAlike one other place) Eq (left.sendJson item request options) (right.sendJson item request options) :=
  (pair.agree_attempt request options).bind_eq fun _ => Agree.receive.bind_eq fun _ => Agree.lift _

theorem agree_sendText (request : Request) (options : Options) :
    Agree (MessageAlike one other place) Eq (left.sendText request options) (right.sendText request options) :=
  (pair.agree_attempt request options).bind_eq fun _ => Agree.receive.bind_eq fun _ => Agree.lift _

theorem agree_stream {α : Type} (item : Json.Decoder α) (request : Request) (options : Options) :
    Agree (MessageAlike one other place) Eq (left.stream item request options) (right.stream item request options) :=
  (pair.agree_attempt request options).bind_eq fun _ => (Agree.log _).bind_eq fun _ => Agree.pure rfl

end Pair

/-- Where a request comes from. -/
inductive Draft
  | written (request : Request)
  | filled (template : Template)

def Draft.request (client : Client) : Draft → Except ClientError Request
  | .written request => .ok request
  | .filled template => client.fillTemplate template

/-- What a client is asked for, by the kind of its answer. -/
inductive Operation : Type → Type 1
  | token : Operation (Option Secret)
  /-- The token, by a number of callers at the same moment. -/
  | tokens (callers : Nat) : Operation (List (Except ClientError (Option Secret)))
  | invalidate : Operation Unit
  | build (draft : Draft) : Operation Request
  | attempt (draft : Draft) (options : Options) : Operation Response
  | json {α : Type} (item : Json.Decoder α) (draft : Draft) (options : Options) : Operation α
  | text (draft : Draft) (options : Options) : Operation String
  | stream {α : Type} (item : Json.Decoder α) (draft : Draft) (options : Options) : Operation (Stream.Delivery α)
  | listObjects (storeId : String) (body : Except Json.Fault Json) (options : Options) :
      Operation (Stream.Delivery String)
  | classify (request : Request) (status : Nat) (headers : Headers) (body : List UInt8) : Operation (Option ApiError)

def Operation.run (client : Client) : {α : Type} → Operation α → Act α
  | _, .token => client.authorizer.token
  | _, .tokens callers => client.authorizer.tokens callers
  | _, .invalidate => client.authorizer.invalidate
  | _, .build draft => Act.lift (draft.request client)
  | _, .attempt draft options => do client.attempt (← Act.lift (draft.request client)) options
  | _, .json item draft options => do client.sendJson item (← Act.lift (draft.request client)) options
  | _, .text draft options => do client.sendText (← Act.lift (draft.request client)) options
  | _, .stream item draft options => do client.stream item (← Act.lift (draft.request client)) options
  | _, .listObjects storeId body options => client.listObjects storeId body options
  | _, .classify request status headers body => return client.classify request status headers body

/-- One operation, in surroundings of its own; only the caller's patience is expected to differ from step to step. -/
structure Step where
  {Answer : Type}
  operation : Operation Answer
  surroundings : Surroundings

/-- A step that was taken. -/
structure Turn where
  step : Step
  answer : Except Stop step.Answer

/-- A client in use, one step after the other. -/
def serve (client : Client) : List Step → Session → List Turn × Session
  | [], s => ([], s)
  | step :: steps, s =>
    let taken := step.operation.run client step.surroundings s
    let later := client.serve steps taken.2
    (⟨step, taken.1⟩ :: later.1, later.2)

/-- Turns with the same answer, unless a client was asked for the token that it holds itself. -/
inductive TurnAlike (one other : Secret) : SecretPlace → Turn → Turn → Prop
  | same (place : SecretPlace) (turn : Turn) : TurnAlike one other place turn turn
  | token (w : Surroundings) :
      TurnAlike one other .apiToken ⟨⟨.token, w⟩, .ok (some one)⟩ ⟨⟨.token, w⟩, .ok (some other)⟩
  | tokens (callers : Nat) (w : Surroundings) :
      TurnAlike one other .apiToken ⟨⟨.tokens callers, w⟩, .ok (List.replicate callers (.ok (some one)))⟩
        ⟨⟨.tokens callers, w⟩, .ok (List.replicate callers (.ok (some other)))⟩

/-- Clients that cannot be told apart by anything they show, answer, send or wait for, but for the secret where it is
sent. -/
structure Alike (one other : Secret) (place : SecretPlace) (left right : Client) : Prop where
  baseUrl : left.baseUrl = right.baseUrl
  describe : left.authorizer.describe = right.authorizer.describe
  serve : ∀ steps s, List.Forall₂ (TurnAlike one other place) (left.serve steps s).1 (right.serve steps s).1 ∧
    Session.Alike (MessageAlike one other place) (left.serve steps s).2 (right.serve steps s).2

section Asking

variable (w : Surroundings) {s t : Session} (before : s.Alike (MessageAlike one other place) t)

include before

/-- An operation that is done alike is answered in the same way. -/
theorem turn_alike_of_agree {α : Type} {operation : Operation α} {x y : Act α}
    (agree : Agree (MessageAlike one other place) Eq x y) :
    TurnAlike one other place ⟨⟨operation, w⟩, (x w s).1⟩ ⟨⟨operation, w⟩, (y w t).1⟩ ∧
      Session.Alike (MessageAlike one other place) (x w s).2 (y w t).2 := by
  obtain ⟨ends, after⟩ := agree w s t before
  have same := ends.eq
  rw [same]
  exact ⟨.same _ _, after⟩

variable {left right : Authorizer} (alike : AuthorizerAlike one other place left right)

include alike

/-- Whoever asks for the token gets the secret itself, or the same from both. -/
theorem turn_alike_token :
    TurnAlike one other place ⟨⟨.token, w⟩, (left.token w s).1⟩ ⟨⟨.token, w⟩, (right.token w t).1⟩ ∧
      Session.Alike (MessageAlike one other place) (left.token w s).2 (right.token w t).2 := by
  cases alike with
  | issued resolved => exact turn_alike_of_agree w before (Authorizer.agree_token_issued resolved)
  | fixed => exact ⟨.token w, before⟩

theorem turn_alike_tokens (callers : Nat) :
    TurnAlike one other place ⟨⟨.tokens callers, w⟩, (left.tokens callers w s).1⟩
        ⟨⟨.tokens callers, w⟩, (right.tokens callers w t).1⟩ ∧
      Session.Alike (MessageAlike one other place) (left.tokens callers w s).2 (right.tokens callers w t).2 := by
  cases alike with
  | issued resolved => exact turn_alike_of_agree w before (Authorizer.agree_tokens_issued resolved callers)
  | fixed => exact ⟨.tokens callers w, before⟩

end Asking

namespace Pair

variable {config : Configuration} {left right : Client} (pair : Pair config place one other left right)

include pair

theorem request_eq (draft : Draft) : draft.request left = draft.request right := by
  cases draft with
  | written request => rfl
  | filled template => exact pair.fillTemplate_eq template

theorem agree_draft {α : Type} (draft : Draft) {f g : Request → Act α}
    (next : ∀ request, Agree (MessageAlike one other place) Eq (f request) (g request)) :
    Agree (MessageAlike one other place) Eq (Act.lift (draft.request left) >>= f)
      (Act.lift (draft.request right) >>= g) := by
  rw [pair.request_eq]
  exact (Agree.lift _).bind_eq next

theorem agree_listObjects (storeId : String) (body : Except Json.Fault Json) (options : Options) :
    Agree (MessageAlike one other place) Eq (left.listObjects storeId body options)
      (right.listObjects storeId body options) := by
  unfold listObjects
  rw [pair.objectsRequest_eq]
  exact (Agree.lift _).bind_eq fun request => pair.agree_stream Stream.objectDecoder request options

/-- Every step is answered in the same way, unless it asks for the token and that is the secret. -/
theorem turn_alike (step : Step) {s t : Session} (before : s.Alike (MessageAlike one other place) t) :
    TurnAlike one other place ⟨step, (step.operation.run left step.surroundings s).1⟩
        ⟨step, (step.operation.run right step.surroundings t).1⟩ ∧
      Session.Alike (MessageAlike one other place) (step.operation.run left step.surroundings s).2
        (step.operation.run right step.surroundings t).2 := by
  obtain ⟨operation, w⟩ := step
  cases operation with
  | token => exact turn_alike_token w before pair.authorizer
  | tokens callers => exact turn_alike_tokens w before pair.authorizer callers
  | invalidate => exact turn_alike_of_agree w before (Authorizer.agree_invalidate pair.authorizer)
  | build draft =>
    refine turn_alike_of_agree w before ?_
    change Agree _ Eq (Act.lift (draft.request left)) (Act.lift (draft.request right))
    rw [pair.request_eq]
    exact Agree.lift _
  | attempt draft options =>
    exact turn_alike_of_agree w before (pair.agree_draft draft fun request => pair.agree_attempt request options)
  | json item draft options =>
    exact turn_alike_of_agree w before (pair.agree_draft draft fun request => pair.agree_sendJson item request options)
  | text draft options =>
    exact turn_alike_of_agree w before (pair.agree_draft draft fun request => pair.agree_sendText request options)
  | stream item draft options =>
    exact turn_alike_of_agree w before (pair.agree_draft draft fun request => pair.agree_stream item request options)
  | listObjects storeId body options =>
    exact turn_alike_of_agree w before (pair.agree_listObjects storeId body options)
  | classify request status headers body =>
    exact turn_alike_of_agree w before (Agree.pure (pair.classify_eq request status headers body))

/-- By induction on the steps; from alike sessions each step leads to alike sessions again. -/
theorem serve_alike (steps : List Step) {s t : Session} (before : s.Alike (MessageAlike one other place) t) :
    List.Forall₂ (TurnAlike one other place) (left.serve steps s).1 (right.serve steps t).1 ∧
      Session.Alike (MessageAlike one other place) (left.serve steps s).2 (right.serve steps t).2 := by
  induction steps generalizing s t with
  | nil => exact ⟨.nil, before⟩
  | cons step steps ih =>
    obtain ⟨turn, between⟩ := pair.turn_alike step before
    obtain ⟨turns, after⟩ := ih between
    exact ⟨.cons turn turns, after⟩

theorem alike : Alike one other place left right where
  baseUrl := pair.baseUrl
  describe := Authorizer.describe_alike pair.authorizer
  serve steps s := pair.serve_alike steps s.alike_self

end Pair

end Client

namespace SecretPlace

theorem validate_hold_eq (first : place.Takes one) (second : place.Takes other) :
    (place.hold one).validate = (place.hold other).validate := by
  cases place with
  | clientSecret credentials =>
    change ClientCredentials.validate _ = ClientCredentials.validate _
    have filled : one.isBlank = false ∧ other.isBlank = false := ⟨first, second⟩
    unfold ClientCredentials.validate ClientCredentials.keeping
    dsimp only
    rw [filled.1, filled.2]
  | apiToken =>
    have filled : one.isBlank = false ∧ other.isBlank = false := ⟨first.1, second.1⟩
    simp only [hold, Credentials.validate, filled]

end SecretPlace

namespace Client

section Keeping

variable (config : Configuration) (first : place.Takes one) (second : place.Takes other)

include first second

theorem ofCredentials_alike (plan : RetryPlan) :
    Except.Alike (AuthorizerAlike one other place) (Authorizer.ofCredentials (place.hold one) plan)
      (Authorizer.ofCredentials (place.hold other) plan) := by
  have same := SecretPlace.validate_hold_eq first second
  unfold Authorizer.ofCredentials
  rw [same]
  cases valid : (place.hold other).validate with
  | error error => exact .error error
  | ok _ =>
    cases place with
    | apiToken => exact .ok .fixed
    | clientSecret credentials =>
      have both : (credentials.keeping one).validate = .ok () ∧ (credentials.keeping other).validate = .ok () :=
        ⟨same.trans valid, valid⟩
      change Except.Alike _ ((Token.Source.ofCredentials _ plan).map _) ((Token.Source.ofCredentials _ plan).map _)
      unfold Token.Source.ofCredentials
      rw [both.1, both.2]
      dsimp only
      have issuer (secret : Secret) : (credentials.keeping secret).issuer = credentials.issuer := rfl
      rw [issuer, issuer]
      cases resolved : Endpoint.resolve credentials.issuer with
      | error error => exact .error error
      | ok endpoint =>
        let source : Token.Source := ⟨endpoint, credentials, plan⟩
        have whole : source.IsResolved := resolved
        exact .ok (.issued whole)

omit first second in
theorem parsedApiUrl_keeping_eq :
    (config.keeping place one).parsedApiUrl = (config.keeping place other).parsedApiUrl := by
  have url : (config.keeping place one).apiUrl = (config.keeping place other).apiUrl := rfl
  unfold Configuration.parsedApiUrl Configuration.apiUrlText
  rw [url]

theorem validate_keeping_eq : (config.keeping place one).validate = (config.keeping place other).validate := by
  have credentials : (config.keeping place one).credentials.validate = (config.keeping place other).credentials.validate :=
    SecretPlace.validate_hold_eq first second
  have url : (config.keeping place one).parsedApiUrl = (config.keeping place other).parsedApiUrl :=
    parsedApiUrl_keeping_eq config
  have headers : (config.keeping place one).defaultHeaders = (config.keeping place other).defaultHeaders := rfl
  have retries : (config.keeping place one).maxRetries = (config.keeping place other).maxRetries := rfl
  unfold Configuration.validate
  rw [url, credentials, headers, retries]

theorem pair_of_keeping :
    Except.Alike (Pair config place one other) (ofConfiguration (config.keeping place one))
      (ofConfiguration (config.keeping place other)) := by
  have url : (config.keeping place one).parsedApiUrl = (config.keeping place other).parsedApiUrl :=
    parsedApiUrl_keeping_eq config
  have plan : (config.keeping place one).retryPlan .none = (config.keeping place other).retryPlan .none := rfl
  unfold ofConfiguration
  rw [validate_keeping_eq config first second, url, plan]
  refine (Except.alike_self _).bind fun _ => (Except.alike_self _).bind fun same => ?_
  refine (Except.alike_self _).bind fun agreed => ?_
  subst same agreed
  exact (ofCredentials_alike first second _).bind fun alike => .ok ⟨rfl, rfl, rfl, place.identity_hold_eq one other, alike, first, second⟩

theorem usesPlainHttp_keeping_eq :
    usesPlainHttp (config.keeping place one) = usesPlainHttp (config.keeping place other) := by
  have url : (config.keeping place one).parsedApiUrl = (config.keeping place other).parsedApiUrl :=
    parsedApiUrl_keeping_eq config
  unfold usesPlainHttp
  rw [url]
  cases place <;> rfl

theorem connect_alike :
    Except.Alike (fun left right => left.client.Alike one other place right.client ∧ left.transport = right.transport)
      (connect (config.keeping place one)) (connect (config.keeping place other)) := by
  have transport (plain : Bool) :
      transportOf (config.keeping place one) plain = transportOf (config.keeping place other) plain := rfl
  unfold connect
  rw [validate_keeping_eq config first second, usesPlainHttp_keeping_eq config first second]
  refine (Except.alike_self _).bind fun _ => (Except.alike_self _).bind fun {plain plain'} same => ?_
  subst same
  rw [transport]
  dsimp only
  cases (transportOf (config.keeping place other) plain).build with
  | error failure => exact .error _
  | ok built => exact (pair_of_keeping config first second).bind fun pair => .ok ⟨pair.alike, rfl⟩

/-- Two configurations that differ in a secret cannot be told apart, nor can their clients in use. -/
theorem alike_of_secrets :
    (config.keeping place one).describe = (config.keeping place other).describe ∧
      (config.keeping place one).toSettings = (config.keeping place other).toSettings ∧
      Except.Alike (Alike one other place) (ofConfiguration (config.keeping place one))
        (ofConfiguration (config.keeping place other)) ∧
      Except.Alike (fun left right => left.client.Alike one other place right.client ∧ left.transport = right.transport)
        (connect (config.keeping place one)) (connect (config.keeping place other)) := by
  have text : (place.hold one).describe = (place.hold other).describe := by
    cases place <;> rfl
  have settings : (place.hold one).toSettings = (place.hold other).toSettings := by
    cases place <;> rfl
  have made := pair_of_keeping config first second
  refine ⟨?_, ?_, made.mono Pair.alike, connect_alike config first second⟩
  · unfold Configuration.describe Configuration.keeping
    dsimp only
    rw [text]
  · unfold Configuration.toSettings Configuration.keeping
    dsimp only
    rw [settings]

end Keeping

/-- Credentials at an issuer, whatever their secret. -/
def registered : ClientCredentials := ⟨"client", ⟨""⟩, "issuer.example", some "api", none⟩

def registeredClient (secret : Secret) : Client where
  config := Configuration.standard.keeping (.clientSecret registered) secret
  baseUrl := ⟨"http", "", none, some (.domain "localhost"), some 8080, .segments [""], none, none⟩
  identity := ⟨some "client", some "api"⟩
  authorizer := .issued { Token.Source.issuer with
    credentials := registered.keeping secret, plan := ⟨3, Span.ofMillis 100⟩ }

theorem alike_of_secrets_registered :
    (SecretPlace.clientSecret registered).Takes ⟨"first"⟩ ∧ (SecretPlace.clientSecret registered).Takes ⟨"sec&nd="⟩ ∧
      Alike ⟨"first"⟩ ⟨"sec&nd="⟩ (.clientSecret registered) (registeredClient ⟨"first"⟩)
        (registeredClient ⟨"sec&nd="⟩) := by
  have first : (SecretPlace.clientSecret registered).Takes ⟨"first"⟩ := by decide
  have second : (SecretPlace.clientSecret registered).Takes ⟨"sec&nd="⟩ := by decide
  have left : ofConfiguration (registeredClient ⟨"first"⟩).config = .ok (registeredClient ⟨"first"⟩) :=
    Except.eq_ok_of_toOption (by decide +kernel)
  have right : ofConfiguration (registeredClient ⟨"sec&nd="⟩).config = .ok (registeredClient ⟨"sec&nd="⟩) :=
    Except.eq_ok_of_toOption (by decide +kernel)
  obtain ⟨_, _, made, _⟩ := alike_of_secrets Configuration.standard first second
  refine ⟨first, second, ?_⟩
  change Except.Alike _ (ofConfiguration (registeredClient ⟨"first"⟩).config)
    (ofConfiguration (registeredClient ⟨"sec&nd="⟩).config) at made
  rw [left, right] at made
  cases made with
  | ok alike => exact alike

/-- A client with a token of its own. -/
def holding (token : Secret) : Client where
  config := Configuration.standard.keeping .apiToken token
  baseUrl := ⟨"http", "", none, some (.domain "localhost"), some 8080, .segments [""], none, none⟩
  identity := .none
  authorizer := .apiToken token

/-- Asked for its token, such a client gives just that. -/
theorem not_serve_eq_holding :
    SecretPlace.apiToken.Takes ⟨"a"⟩ ∧ SecretPlace.apiToken.Takes ⟨"b"⟩ ∧
      ofConfiguration (Configuration.standard.keeping .apiToken ⟨"a"⟩) = .ok (holding ⟨"a"⟩) ∧
      ofConfiguration (Configuration.standard.keeping .apiToken ⟨"b"⟩) = .ok (holding ⟨"b"⟩) ∧
      ((holding ⟨"a"⟩).serve [⟨.token, Token.Source.meeting 200 "" none⟩] .fresh).1 ≠
        ((holding ⟨"b"⟩).serve [⟨.token, Token.Source.meeting 200 "" none⟩] .fresh).1 := by
  have first : SecretPlace.apiToken.Takes ⟨"a"⟩ := by decide +kernel
  have second : SecretPlace.apiToken.Takes ⟨"b"⟩ := by decide +kernel
  refine ⟨first, second, Except.eq_ok_of_toOption (by decide +kernel), Except.eq_ok_of_toOption (by decide +kernel), ?_⟩
  intro same
  have answers := List.head_eq_of_cons_eq same
  injection answers with _ answer
  have text : "a" = "b" := Secret.mk.inj (Option.some.inj (Except.ok.inj answer))
  exact absurd text (by decide)

end Client

end AuthzClient
