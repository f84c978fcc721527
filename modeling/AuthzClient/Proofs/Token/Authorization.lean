import AuthzClient.Proofs.Call.Ledger
import AuthzClient.Proofs.Text.Percent
import AuthzClient.Proofs.Token.History

/-!
The `Authorization` that a held token makes. A token is taken from any answer in which it is not blank, but a header
holds no control characters. As long as a token with one is held and can be used, every call fails before it is sent.
-/

namespace AuthzClient

open Http Act Text

/-- A token that can stand in a header as it is. -/
def Secret.IsSendable (token : Secret) : Prop := ∀ b ∈ Utf8.encode token.exposed, HeaderValue.isLegal b = true

instance (token : Secret) : Decidable token.IsSendable :=
  inferInstanceAs (Decidable (∀ b ∈ Utf8.encode token.exposed, HeaderValue.isLegal b = true))

namespace Authorizer

/-- The header that announces a token. -/
def bearer (token : Secret) : HeaderValue := ⟨Utf8.encode ("Bearer " ++ token.exposed), true⟩

theorem headerValue?_eq (token : Secret) :
    headerValue? token = if token.IsSendable then some (bearer token) else .none := by
  have whole : Utf8.encode ("Bearer " ++ token.exposed) = Utf8.encode "Bearer " ++ Utf8.encode token.exposed := by
    rw [Utf8.encode, String.toList_append, Utf8.encodeChars_append]
    rfl
  have front : (Utf8.encode "Bearer ").all HeaderValue.isLegal = true := by decide
  have legal : (Utf8.encode ("Bearer " ++ token.exposed)).all HeaderValue.isLegal = true ↔ token.IsSendable := by
    rw [whole, List.all_append, front, Bool.true_and]
    exact List.all_eq_true
  rw [headerValue?, HeaderValue.ofString?, HeaderValue.ofBytes?]
  by_cases sendable : token.IsSendable
  · rw [if_pos sendable, if_pos (legal.mpr sendable)]
    rfl
  · rw [if_neg sendable, if_neg fun all => sendable (legal.mp all)]
    rfl

/-- The failure of a call whose token cannot stand in a header. -/
def unsendable : Stop := .failed (.invalidParameter "accessToken" "Authorization")

/-- What a token comes to in a call. -/
def header : Option Secret → Except Stop (Option HeaderValue)
  | .none => .ok .none
  | some token => if token.IsSendable then .ok (some (bearer token)) else .error unsendable

theorem header_eq_ok {token : Secret} {value : Option HeaderValue} (taken : header (some token) = .ok value) :
    token.IsSendable := by
  rw [header] at taken
  split at taken
  · assumption
  · cases taken

theorem header_eq_error {token : Secret} {stop : Stop} (refused : header (some token) = .error stop) :
    stop = unsendable ∧ ¬token.IsSendable := by
  rw [header] at refused
  split at refused
  · cases refused
  · rename_i broken
    exact ⟨(Except.error.inj refused).symm, broken⟩

/-- An authorization asks for the token and does nothing else. -/
theorem authorization_eq (authorizer : Authorizer) (w : Surroundings) (s : Session) :
    authorizer.authorization w s = ((authorizer.token w s).1.bind header, (authorizer.token w s).2) := by
  rcases asked : authorizer.token w s with ⟨stop | token, t⟩
  · exact bind_error asked
  · refine (bind_ok asked).trans ?_
    cases token with
    | none => rfl
    | some token =>
      dsimp only
      rw [headerValue?_eq]
      by_cases sendable : token.IsSendable
      · simp only [if_pos sendable, Except.bind, header]
        rfl
      · simp only [if_neg sendable, Except.bind, header]
        rfl

end Authorizer

namespace Token.Source

variable {source : Source} {w : Surroundings} {s : Session}

/-- An authorization with an issued token is what becomes of that token. -/
theorem authorization_issued (source : Source) (w : Surroundings) (s : Session) :
    (Authorizer.issued source).authorization w s =
      ((source.token w s).1.bind fun token => Authorizer.header (some token.value), (source.token w s).2) := by
  rw [Authorizer.authorization_eq]
  rcases given : source.token w s with ⟨stop | token, t⟩
  · have asked : (Authorizer.issued source).token w s = (.error stop, t) := bind_error given
    rw [asked]
    rfl
  · have asked : (Authorizer.issued source).token w s = (.ok (some token.value), t) := bind_ok given
    rw [asked]
    rfl

/-- A token that is given to a caller is held then. -/
theorem held_of_given {token : AccessToken} (given : (source.token w s).1 = .ok token) :
    (source.token w s).2.cache.held.map (·.token) = some token := by
  cases found : usable? w s with
  | some held =>
    rw [token_usable found] at given ⊢
    cases given
    exact congrArg (Option.map _) (usable?_eq_some_iff.mp found).1
  | none =>
    rcases token_stale source found with ⟨issued, t, _, same⟩ | ⟨stop, t, _, same⟩
    · rw [same] at given ⊢
      cases given
      rfl
    · rw [same] at given
      cases given

/-- A held token that can be used settles the authorization; nothing happens but that the clock is read. -/
theorem authorization_of_held {held : Held} (inside : s.cache.held = some held)
    (valid : held.token.isValidAt (w.clock s.readings) (w.jitter s.readings) = true) :
    (Authorizer.issued source).authorization w s =
      (Authorizer.header (some held.token.value), { s with readings := s.readings + 1 }) := by
  have read : looked s = { s with readings := s.readings + 1 } := by
    rw [looked, inside]
    rfl
  rw [authorization_issued, token_usable (usable?_eq_some_iff.mpr ⟨inside, valid⟩), read]
  rfl

theorem answerOf_eq_error {response : Response} {error : ClientError} (failed : answerOf response = .error error) :
    (∃ failure, error = .transport exchangeOperation failure) ∨ ∃ fault, error = .decode exchangeOperation fault := by
  unfold answerOf at failed
  split at failed
  · rename_i failure _
    exact Or.inl ⟨failure, (Except.error.inj failed).symm⟩
  · rename_i body _
    cases read : Answer.read body with
    | error fault =>
      rw [read] at failed
      exact Or.inr ⟨fault, (Except.error.inj failed).symm⟩
    | ok answer =>
      rw [read] at failed
      cases failed

/-- An exchange fails with its call, while its answer is read, or for an answer that has no token. -/
theorem exchange_eq_error {stop : Stop} (failed : (source.exchange w s).1 = .error stop) :
    (source.course w s).result.1 = .error stop ∨ stop = .dropped ∨
      (∃ failure, stop = .failed (.transport exchangeOperation failure)) ∨
        ∃ fault, stop = .failed (.decode exchangeOperation fault) := by
  rcases bind_eq_error failed with called | ⟨response, t, _, failed⟩
  · exact Or.inl called
  right
  rcases bind_eq_error failed with received | ⟨_, u, _, failed⟩
  · exact Or.inl (receive_eq_error received)
  right
  rcases bind_eq_error failed with read | ⟨answer, v, _, failed⟩
  · obtain ⟨error, unread, rfl⟩ := lift_eq_error read
    rcases answerOf_eq_error unread with ⟨failure, rfl⟩ | ⟨fault, rfl⟩
    · exact Or.inl ⟨failure, rfl⟩
    · exact Or.inr ⟨fault, rfl⟩
  · cases failed

/-- A caller gets no token only if none can be used and the exchange fails. -/
theorem token_eq_error {stop : Stop} (failed : (source.token w s).1 = .error stop) :
    usable? w s = none ∧ (source.exchange w (looked s)).1 = .error stop := by
  cases found : usable? w s with
  | some held =>
    rw [token_usable found] at failed
    cases failed
  | none =>
    refine ⟨rfl, ?_⟩
    rcases token_stale source found with ⟨token, t, _, same⟩ | ⟨other, t, exchanged, same⟩
    · rw [same] at failed
      cases failed
    · rw [same] at failed
      rw [exchanged]
      exact congrArg _ (Except.error.inj failed)

end Token.Source

namespace Authorizer

variable {authorizer : Authorizer} {w : Surroundings} {s : Session} {stop : Stop}

/-- An authorization fails with the exchange of its source, or for a token that cannot stand in a header. -/
theorem authorization_eq_error (failed : (authorizer.authorization w s).1 = .error stop) :
    (∃ source, authorizer = .issued source ∧ Token.Source.usable? w s = .none ∧
        (source.exchange w (Token.Source.looked s)).1 = .error stop) ∨
      stop = unsendable ∧ ∃ token, (authorizer.token w s).1 = .ok (some token) ∧ ¬token.IsSendable := by
  rw [authorization_eq] at failed
  cases asked : (authorizer.token w s).1 with
  | error other =>
    rw [asked] at failed
    cases failed
    cases authorizer with
    | none | apiToken token => cases asked
    | issued source =>
      rcases bind_eq_error asked with refused | ⟨_, _, _, given⟩
      · exact Or.inl ⟨source, rfl, Token.Source.token_eq_error refused⟩
      · cases given
  | ok given =>
    rw [asked] at failed
    cases given with
    | none => cases failed
    | some token =>
      obtain ⟨same, broken⟩ := header_eq_error failed
      exact Or.inr ⟨same, token, rfl, broken⟩

end Authorizer

namespace Call

namespace Course

/-- Calls that are made one after the other, the first one in a given session. -/
inductive Successive : Session → List Course → Prop
  | nil {s : Session} : Successive s []
  | cons {course : Course} {later : List Course} :
      Successive course.result.2 later → Successive course.start (course :: later)

variable {course : Course} {source : Token.Source} {held : Token.Held}

/-- A call that is not authorized at first does nothing else. -/
theorem result_of_denied {stop : Stop} (denied : course.authorization 0 = .error stop) :
    course.result = (.error stop, course.ready 0) := by
  have asked : course.authorizer.authorization course.surroundings (course.before 0) = (.error stop, course.ready 0) :=
    Prod.ext denied rfl
  have whole : course.result = course.rest course.start.time course.plan.maxRetries 0 [] := rfl
  rw [whole]
  exact rest_of_stop (bind_error asked)

/-- A call that is authorized by a source and begins while a given token can be used. -/
structure Finds (course : Course) (source : Token.Source) (token : AccessToken) : Prop where
  authorizer : course.authorizer = .issued source
  valid : token.isValidAt (course.surroundings.clock course.start.readings)
    (course.surroundings.jitter course.start.readings) = true

/-- A call that finds a token which cannot stand in a header fails, and leaves all but the readings as they are. -/
theorem Finds.result (finds : course.Finds source held.token) (inside : course.start.cache.held = some held)
    (broken : ¬held.token.value.IsSendable) :
    course.result = (.error Authorizer.unsendable, { course.start with readings := course.start.readings + 1 }) := by
  have asked : course.authorizer.authorization course.surroundings course.start =
      (.error Authorizer.unsendable, { course.start with readings := course.start.readings + 1 }) := by
    rw [finds.authorizer, Token.Source.authorization_of_held inside finds.valid, Authorizer.header, if_neg broken]
  have denied : course.authorization 0 = .error Authorizer.unsendable := by
    change (course.authorizer.authorization course.surroundings course.start).1 = _
    rw [asked]
  have ready : course.ready 0 = { course.start with readings := course.start.readings + 1 } := by
    change (course.authorizer.authorization course.surroundings course.start).2 = _
    rw [asked]
  rw [result_of_denied denied, ready]

/-- As long as such a token can be used no call comes through. -/
theorem Successive.results {s : Session} {courses : List Course} (successive : Successive s courses)
    (inside : s.cache.held = some held) (finds : ∀ course ∈ courses, course.Finds source held.token)
    (broken : ¬held.token.value.IsSendable) :
    ∀ course ∈ courses, course.result.1 = .error Authorizer.unsendable ∧ course.result.2.events = course.start.events := by
  induction successive with
  | nil =>
    intro course member
    cases member
  | @cons first later behind ih =>
    have here : first.Finds source held.token := finds first List.mem_cons_self
    have ended := here.result inside broken
    -- The call leaves the cache as it was, so the next one finds the same token.
    have still : first.result.2.cache.held = some held := by
      rw [ended]
      exact inside
    intro course member
    rcases List.mem_cons.mp member with rfl | further
    · rw [ended]
      exact ⟨rfl, rfl⟩
    · exact ih still (fun other below => finds other (List.mem_cons_of_mem _ below)) course further

end Course

end Call

namespace Token.Source

open Call

/-- A caller who gets a token leaves it held. Whoever is authorized while it can be used makes no exchange: the header is
the word for a bearer and the token if the token can stand in a header, and there is none otherwise. Then every call that
is made fails for it and sends nothing, one after the other, until the token cannot be used any more. -/
theorem authorization_of_given (source : Source) (w : Surroundings) (s : Session) (token : AccessToken)
    (given : (source.token w s).1 = .ok token) :
    (source.token w s).2.cache.held.map (·.token) = some token ∧
    (∀ (v : Surroundings) (t : Session), t.cache = (source.token w s).2.cache →
      token.isValidAt (v.clock t.readings) (v.jitter t.readings) = true →
      (Authorizer.issued source).authorization v t =
        (if token.value.IsSendable then
            .ok (some ⟨Utf8.encode ("Bearer " ++ token.value.exposed), true⟩)
          else .error (.failed (.invalidParameter "accessToken" "Authorization")),
          { t with readings := t.readings + 1 })) ∧
    (¬token.value.IsSendable → ∀ courses, Course.Successive (source.token w s).2 courses →
      (∀ course ∈ courses, course.Finds source token) →
      ∀ course ∈ courses,
        course.result.1 = .error (.failed (.invalidParameter "accessToken" "Authorization")) ∧
          course.result.2.events = course.start.events) := by
  have stays := held_of_given given
  obtain ⟨held, inside, same⟩ := Option.map_eq_some_iff.mp stays
  subst same
  refine ⟨stays, fun v t kept valid => ?_, fun broken courses successive finds => ?_⟩
  · exact authorization_of_held (kept ▸ inside) valid
  · exact successive.results inside finds broken

/-- Surroundings in which tokens are issued with a line feed in them. -/
def breaking : Surroundings := meeting 200 "\x7b\"access_token\":\"a\\nb\"\x7d" none

def broken : AccessToken := ⟨⟨"a\nb"⟩, none⟩

theorem token_broken : (issuer.token breaking .fresh).1 = .ok broken := by
  have issued : issuer.note breaking .fresh .ask = .issued broken := by decide +kernel
  obtain ⟨_, stale, issues⟩ := note_eq_issued_iff.mp issued
  exact token_ok_iff.mpr (Or.inr ⟨stale, issues⟩)

/-- A call that begins in a given session, with a token of the issuer. -/
def called (s : Session) : Course :=
  { Course.flaky with identity := issuer.identity, authorizer := .issued issuer, start := s }

theorem authorization_of_given_broken :
    (issuer.token breaking .fresh).1 = .ok broken ∧ ¬broken.value.IsSendable ∧
    (issuer.token breaking .fresh).2.cache.held.map (·.token) = some broken ∧
    (called (issuer.token breaking .fresh).2).result.1 =
      .error (.failed (.invalidParameter "accessToken" "Authorization")) ∧
    (called (called (issuer.token breaking .fresh).2).result.2).result.1 =
      .error (.failed (.invalidParameter "accessToken" "Authorization")) := by
  have sendable : ¬broken.value.IsSendable := by decide
  obtain ⟨held, _, fail⟩ := authorization_of_given issuer breaking .fresh broken token_broken
  let first := called (issuer.token breaking .fresh).2
  let second := called first.result.2
  have last : Course.Successive second.start [second] := .cons .nil
  have successive : Course.Successive first.start [first, second] := .cons last
  have finds : ∀ course ∈ [first, second], course.Finds issuer broken := by
    intro course member
    simp only [List.mem_cons, List.not_mem_nil, or_false] at member
    rcases member with rfl | rfl
    · exact ⟨rfl, rfl⟩
    · exact ⟨rfl, rfl⟩
  have results := fail sendable [first, second] successive finds
  exact ⟨token_broken, sendable, held, (results first (by simp)).1, (results second (by simp)).1⟩

/-- The token was given to a caller, and none can be authorized with it. -/
theorem not_bearer_broken :
    (issuer.token breaking .fresh).1 = .ok broken ∧
    ((Authorizer.issued issuer).authorization breaking (issuer.token breaking .fresh).2).1 =
      .error (.failed (.invalidParameter "accessToken" "Authorization")) := by
  obtain ⟨held, inside, same⟩ := Option.map_eq_some_iff.mp (held_of_given token_broken)
  have endless : ∀ now jitter, held.token.isValidAt now jitter = true := by
    rw [same]
    exact fun _ _ => rfl
  have sendable : ¬broken.value.IsSendable := by decide
  refine ⟨token_broken, ?_⟩
  rw [authorization_of_held inside (endless _ _), same, Authorizer.header, if_neg sendable]
  rfl

end Token.Source

end AuthzClient
