import AuthzClient.Proofs.Call.Rounds
import AuthzClient.Proofs.Json.Records

/-!
The token that is held, over any history of a source. Each use of it either has a token issued, forgets the one that is
held, or leaves it as it is, and what an exchange comes to is settled by what its messages meet. The token held is the
last one issued since it was last forgotten, and as many tokens are counted as were issued.
-/

namespace AuthzClient

open Http Act

namespace Call.Course

variable {course : Course}

/-- The messages of a call are one more after each round. -/
theorem le_messages_before {n : Nat} (rounds : ∀ i, i < n → ∃ message, course.Round i message) :
    course.start.messages.length + n ≤ (course.before n).messages.length := by
  induction n with
  | zero => exact Nat.le_refl _
  | succ n ih =>
    obtain ⟨message, round⟩ := rounds n (Nat.lt_succ_self n)
    have earlier := ih fun i below => rounds i (Nat.lt_succ_of_lt below)
    have authorizing : (course.before n).messages.length ≤ (course.ready n).messages.length := by
      rw [messages_ready, List.length_append]
      exact Nat.le_add_right ..
    have sent : (course.before (n + 1)).messages = (course.ready n).messages ++ [message] := by
      rw [Session.messages, round.events, List.filterMap_append, messages_setback]
      rfl
    rw [sent, List.length_append, List.length_singleton]
    omega

/-- A call that may be sent is sent, unless it cannot be written. -/
theorem sent_or_unbuildable (course : Course) (authorized : ∀ i, course.Authorized i) :
    course.result.2.messages ≠ course.start.messages ∨
      course.result.1 = .error (.failed (.encode course.request.operation .unbuildable)) := by
  obtain ⟨n, _, rounds, added, ends, events⟩ := course.result_rounds
  have before := le_messages_before rounds
  have sent : course.result.2.messages =
      (course.before n).messages ++ course.exchanged n ++ added.filterMap Event.message? := by
    rw [Session.messages, events, List.filterMap_append, ← messages_ready]
    rfl
  have grown (some : 0 < (added.filterMap Event.message?).length) :
      course.result.2.messages ≠ course.start.messages := by
    intro same
    have length := congrArg List.length same
    rw [sent, List.length_append, List.length_append] at length
    omega
  generalize course.result.1 = result at ends ⊢
  cases ends with
  | unauthorized denied =>
    obtain ⟨value, granted⟩ := authorized n
    cases granted.symm.trans denied
  | unwritten => exact Or.inr rfl
  | unanswered => exact Or.inl (grown (Nat.succ_pos _))
  | succeeded => exact Or.inl (grown (Nat.succ_pos _))
  | exhausted => exact Or.inl (grown (Nat.succ_pos _))
  | unwaited => exact Or.inl (grown (Nat.succ_pos _))

end Call.Course

namespace Token

theorem Answer.credential_not_blank {fuel room : Nat} {bs rest : List UInt8} {secret : Secret}
    (read : credential fuel room bs = .ok (secret, rest)) : secret.isBlank = false := by
  simp only [credential, Json.Decoder.check] at read
  split at read
  · cases read
  · split at read
    · rename_i judged
      split at judged
      · cases judged
      · rename_i solid
        cases judged
        cases read
        exact Bool.not_eq_true _ ▸ solid
    · cases read

/-- No answer with a blank token is taken. -/
theorem Answer.read_not_blank {body : List UInt8} {answer : Answer} (read : Answer.read body = .ok answer) :
    answer.accessToken.isBlank = false := by
  let P (answer : Answer) : Prop := answer.accessToken.isBlank = false
  let field := Json.Decoder.Field.required "access_token" credential fun value (answer : Answer) =>
    { answer with accessToken := value }
  have needed : field.Needed P := .required _ fun read _ => credential_not_blank read
  have keeps : ∀ other ∈ fields, other = field ∨ other.Keeps P := by
    intro other inside
    simp only [fields, List.mem_cons, List.not_mem_nil, or_false] at inside
    rcases inside with rfl | rfl | rfl
    · exact Or.inl rfl
    · exact Or.inr (.defaulted _ fun _ _ before => before)
    · exact Or.inr (.defaulted _ fun _ _ before => before)
  unfold Answer.read Json.Decoder.read at read
  split at read
  · cases read
  · rename_i decoded
    split at read
    · cases read
      exact Json.Decoder.record_needed needed keeps rfl decoded
    · cases read

namespace Source

variable (source : Source) (w : Surroundings) (s : Session)

/-- The call that exchanges the credentials. -/
def course : Call.Course := ⟨source.identity, source.request, source.plan, .none, w, s⟩

/-- An exchange yields a token: its call ends with a response whose body arrives in time and within its limit, and the
answer in it has the token and how long it lives from then on. -/
inductive Issues : AccessToken → Prop
  | intro {response : Response} {t u : Session} {body : List UInt8} {answer : Answer} :
      (source.course w s).result = (.ok response, t) → Act.receive w t = (.ok (), u) → response.bytes = .ok body →
      Answer.read body = .ok answer →
      Issues (.livingFor answer.accessToken (w.clock u.readings) (answer.expiresIn.map Span.ofSeconds))

variable {source w s}

theorem answerOf_eq_ok_iff {response : Response} {answer : Answer} :
    answerOf response = .ok answer ↔ ∃ body, response.bytes = .ok body ∧ Answer.read body = .ok answer := by
  unfold answerOf
  cases response.bytes with
  | error failure => simp
  | ok body =>
    cases h : Answer.read body <;> simp [Except.mapError, h]

theorem exchange_ok_iff {token : AccessToken} :
    (source.exchange w s).1 = .ok token ↔ source.Issues w s token := by
  constructor
  · intro given
    obtain ⟨_, exchanged⟩ : ∃ v, source.exchange w s = (.ok token, v) := ⟨_, Prod.ext given rfl⟩
    obtain ⟨response, t, called, exchanged⟩ := bind_eq_ok exchanged
    obtain ⟨_, u, received, exchanged⟩ := bind_eq_ok exchanged
    obtain ⟨answer, _, lifted, exchanged⟩ := bind_eq_ok exchanged
    cases answered : answerOf response with
    | error failure =>
      rw [answered] at lifted
      cases lifted
    | ok found =>
      rw [answered] at lifted
      cases lifted
      obtain ⟨body, arrived, read⟩ := answerOf_eq_ok_iff.mp answered
      cases exchanged
      exact .intro (u := u) called received arrived read
  · rintro @⟨response, t, u, body, answer, called, received, arrived, read⟩
    have lifted : Act.lift (answerOf response) w u = (.ok answer, u) := by
      rw [answerOf_eq_ok_iff.mpr ⟨body, arrived, read⟩]
      rfl
    obtain ⟨v, exchanged⟩ : ∃ v, source.exchange w s =
        (.ok (.livingFor answer.accessToken (w.clock u.readings) (answer.expiresIn.map Span.ofSeconds)), v) :=
      ⟨_, (bind_ok called).trans ((bind_ok received).trans (bind_ok lifted))⟩
    exact congrArg Prod.fst exchanged

theorem Issues.not_blank {token : AccessToken} (issues : source.Issues w s token) : token.value.isBlank = false := by
  obtain ⟨_, _, _, read⟩ := issues
  exact Answer.read_not_blank read

variable (w s) in
/-- The token held, if it can be used at what the clock shows next. -/
def usable? : Option Held := s.cache.usable? (w.clock s.readings) (w.jitter s.readings)

variable (s) in
/-- The session of a caller who has looked. -/
def looked : Session := { s with readings := s.readings + if s.cache.held.isNone then 0 else 1 }

theorem look_usable {held : Held} (usable : usable? w s = some held) : look w s = (.ok (.ok held.token), looked s) := by
  obtain ⟨inside, _⟩ := Option.filter_eq_some_iff.mp usable
  have found : Act.cache w s = (.ok s.cache, s) := rfl
  have read : Act.readClock w s = (.ok (w.clock s.readings, w.jitter s.readings), looked s) := by
    simp only [looked, inside, Option.isNone_some, Bool.false_eq_true, if_false]
    rfl
  rw [look, bind_ok found, if_neg (by simp [inside]), bind_ok read]
  dsimp only
  rw [show s.cache.usable? _ _ = some held from usable]
  rfl

theorem look_stale (stale : usable? w s = none) : look w s = (.ok (.error s.cache.mark), looked s) := by
  have found : Act.cache w s = (.ok s.cache, s) := rfl
  rw [look, bind_ok found]
  cases inside : s.cache.held with
  | none =>
    rw [if_pos Option.isNone_none, Cache.mark, inside, looked, inside]
    rfl
  | some held =>
    have read : Act.readClock w s = (.ok (w.clock s.readings, w.jitter s.readings), looked s) := by
      simp only [looked, inside, Option.isNone_some, Bool.false_eq_true, if_false]
      rfl
    rw [if_neg (by simp), bind_ok read]
    dsimp only
    rw [show s.cache.usable? _ _ = none from stale]
    rfl

theorem token_usable {held : Held} (usable : usable? w s = some held) :
    source.token w s = (.ok held.token, looked s) :=
  bind_ok (look_usable usable)

/-- A session in which a token was stored and counted. -/
def stored (source : Source) (token : AccessToken) (s : Session) : Session :=
  { s with
    cache := s.cache.store token
    events := s.events ++ [.measured (Measurement.ofIssue source.credentials.clientId)] }

/-- A caller without a usable token exchanges; what the exchange gives is stored, counted and handed out. -/
theorem token_stale (source : Source) (stale : usable? w s = none) :
    (∃ token t, source.exchange w (looked s) = (.ok token, t) ∧
        source.token w s = (.ok token, source.stored token t)) ∨
      ∃ stop t, source.exchange w (looked s) = (.error stop, t) ∧ source.token w s = (.error stop, t) := by
  have turn : source.token w s = (source.exchange >>= fun token => Act.cache >>= fun cache =>
      Act.setCache (cache.store token) >>= fun _ =>
        Act.measure [Measurement.ofIssue source.credentials.clientId] >>= fun _ => pure token) w (looked s) := by
    have found : Act.cache w (looked s) = (.ok s.cache, looked s) := rfl
    refine (bind_ok (look_stale stale)).trans ?_
    dsimp only
    rw [renew, bind_ok found, s.cache.renewed?_mark]
  rcases exchanged : source.exchange w (looked s) with ⟨stop | token, t⟩
  · exact Or.inr ⟨stop, t, rfl, turn.trans (bind_error exchanged)⟩
  · exact Or.inl ⟨token, t, rfl, turn.trans (bind_ok exchanged)⟩

theorem token_ok_iff {token : AccessToken} :
    (source.token w s).1 = .ok token ↔ (∃ held, usable? w s = some held ∧ held.token = token) ∨
      usable? w s = none ∧ source.Issues w (looked s) token := by
  rw [← exchange_ok_iff]
  cases found : usable? w s with
  | some held => simp [token_usable found]
  | none =>
    rcases token_stale source found with ⟨given, t, exchanged, same⟩ | ⟨stop, t, exchanged, same⟩
    · simp [exchanged, same]
    · simp [exchanged, same]

variable (source w s) in
/-- An exchange is made when a token is asked for: a message goes out, or cannot be written. -/
def Exchanges : Prop :=
  (source.token w s).2.messages ≠ s.messages ∨
    (source.token w s).1 = .error (.failed (.encode exchangeOperation .unbuildable))

/-- Nothing that the call for a token has sent is taken back by what follows. -/
theorem grown_call (source : Source) (w : Surroundings) (s : Session) : Grown (source.course w s).result.2 (source.exchange w s).2 := by
  have mild := lenient_grown.toMild
  exact grown_bind (fun _ => mild.bind mild.receive fun _ => mild.bind (mild.lift _) fun _ =>
    mild.bind (mild.log _) fun _ => mild.bind mild.readClock fun _ => mild.pure _) w s

theorem exchanges_of_stale (stale : usable? w s = none) : source.Exchanges w s := by
  have grown : (source.course w (looked s)).result.2.messages <+: (source.token w s).2.messages := by
    have exchanged := (grown_call source w (looked s)).messages_grow
    rcases token_stale source stale with ⟨token, t, ended, same⟩ | ⟨stop, t, ended, same⟩
    · rw [ended] at exchanged
      rw [same]
      refine exchanged.trans (List.IsPrefix.filterMap _ (List.prefix_append _ _))
    · rw [ended] at exchanged
      rw [same]
      exact exchanged
  have started : s.messages <+: (source.course w (looked s)).result.2.messages :=
    Grown.messages (Call.respects_run lenient_grown (lenient_grown.pure _) _ _ _) w (looked s)
  rcases Call.Course.sent_or_unbuildable (source.course w (looked s)) (fun _ => ⟨none, rfl⟩) with sent | unbuildable
  · refine Or.inl fun same => sent ?_
    rw [same] at grown
    exact (started.eq_of_length_le grown.length_le).symm
  · right
    have stopped : source.exchange w (looked s) = (.error _, _) := bind_error (Prod.ext unbuildable rfl)
    rcases token_stale source stale with ⟨token, t, ended, same⟩ | ⟨stop, t, ended, same⟩
    · cases stopped.symm.trans ended
    · rw [same]
      exact congrArg Prod.fst (ended.symm.trans stopped)

theorem exchanges_iff : source.Exchanges w s ↔ usable? w s = none := by
  refine ⟨fun exchanges => ?_, exchanges_of_stale⟩
  cases found : usable? w s with
  | none => rfl
  | some held =>
    rcases exchanges with sent | unbuildable
    · exact absurd (by rw [token_usable found]; rfl) sent
    · rw [token_usable found] at unbuildable
      cases unbuildable

end Source

/-- What is done with a source. -/
inductive Use
  | ask
  /-- A token is asked for, and the caller is dropped if it has to wait for its turn to exchange. -/
  | leave
  | forget
  deriving DecidableEq, Repr

def Use.act (source : Source) : Use → Act (Option AccessToken)
  | ask => return some (← source.token)
  | leave => do
    match ← Source.look with
    | .ok token => return some token
    | .error _ => throw .dropped
  | forget => do
    (Authorizer.issued source).invalidate
    return none

/-- What a use comes to. -/
inductive Note
  | issued (token : AccessToken)
  | forgotten
  | kept
  deriving DecidableEq, Repr

namespace Note

def token? : Note → Option AccessToken
  | issued token => some token
  | _ => none

/-- What is held after a use. -/
def next : Note → Option AccessToken → Option AccessToken
  | issued token, _ => some token
  | forgotten, _ => none
  | kept, held => held

/-- The last token issued since one was last forgotten. -/
def lastIssued (notes : List Note) : Option AccessToken :=
  (notes.reverse.takeWhile (· ≠ forgotten)).findSome? token?

theorem foldl_next (notes : List Note) : notes.foldl (fun held note => note.next held) none = lastIssued notes := by
  rw [← List.foldr_reverse, lastIssued]
  induction notes.reverse with
  | nil => rfl
  | cons note earlier ih =>
    rw [List.foldr_cons, ih]
    cases note with
    | issued token => rfl
    | forgotten => rfl
    | kept => rfl

end Note

namespace Source

variable (source : Source)

def note (w : Surroundings) (s : Session) : Use → Note
  | .ask =>
    match usable? w s, (source.exchange w (looked s)).1 with
    | none, .ok token => .issued token
    | _, _ => .kept
  | .leave => .kept
  | .forget => .forgotten

/-- The session after a number of uses, each in surroundings of its own. -/
def after (s : Session) : List (Use × Surroundings) → Session
  | [] => s
  | (use, w) :: uses => after (use.act source w s).2 uses

/-- What a number of uses come to. -/
def notes (s : Session) : List (Use × Surroundings) → List Note
  | [] => []
  | (use, w) :: uses => source.note w s use :: notes (use.act source w s).2 uses

variable {source} {w : Surroundings} {s : Session}

theorem note_eq_issued_iff {use : Use} {token : AccessToken} :
    source.note w s use = .issued token ↔ use = .ask ∧ usable? w s = none ∧ source.Issues w (looked s) token := by
  rw [← exchange_ok_iff]
  cases use with
  | ask =>
    simp only [note, true_and]
    split
    · rename_i stale given
      simp [stale, given]
    · rename_i other
      refine iff_of_false nofun fun ⟨stale, given⟩ => other token stale given
  | leave => exact iff_of_false nofun nofun
  | forget => exact iff_of_false nofun nofun

theorem note_eq_forgotten_iff {use : Use} : source.note w s use = .forgotten ↔ use = .forget := by
  cases use with
  | ask =>
    refine iff_of_false ?_ nofun
    simp only [note]
    split <;> nofun
  | leave => exact iff_of_false nofun nofun
  | forget => exact iff_of_true rfl rfl

theorem act_ask : Use.ask.act source w s = ((source.token w s).1.map some, (source.token w s).2) := by
  rcases asked : source.token w s with ⟨stop | token, t⟩
  · exact bind_error asked
  · exact bind_ok asked

theorem unissued_leave (source : Source) (w : Surroundings) (s : Session) : Unissued s (Use.leave.act source w s).2 := by
  refine lenient_unissued.bind (respects_look lenient_unissued.toMild) (fun found => ?_) w s
  cases found with
  | ok token => exact lenient_unissued.pure _
  | error seen => exact fun _ s => lenient_unissued.refl s

/-- A caller who gets a token has not changed what is held, or has had it issued; any other has changed nothing. -/
theorem ask_cases (source : Source) (w : Surroundings) (s : Session) :
    (∃ token, source.note w s .ask = .issued token ∧ (source.token w s).1 = .ok token ∧
        (source.token w s).2.cache.held.map (·.token) = some token ∧ (source.token w s).2.issues = s.issues + 1) ∨
      source.note w s .ask = .kept ∧ Unissued s (source.token w s).2 := by
  have exchanging : Unissued s (source.exchange w (looked s)).2 :=
    source.respects_exchange lenient_unissued w (looked s)
  cases found : usable? w s with
  | some held => exact Or.inr ⟨by simp [note, found], by rw [token_usable found]; exact ⟨rfl, rfl⟩⟩
  | none =>
    rcases token_stale source found with ⟨token, t, ended, same⟩ | ⟨stop, t, ended, same⟩
    · rw [ended] at exchanging
      refine Or.inl ⟨token, by simp [note, found, ended], by rw [same], by rw [same]; rfl, ?_⟩
      rw [same, ← exchanging.2]
      exact List.countP_append ..
    · rw [ended] at exchanging
      exact Or.inr ⟨by simp [note, found, ended], by rw [same]; exact exchanging⟩

/-- One use leads from what is held to what its note says, and counts the token that it has issued. -/
theorem act_spec (source : Source) (w : Surroundings) (s : Session) (use : Use) :
    (use.act source w s).2.cache.held.map (·.token) =
        (source.note w s use).next (s.cache.held.map (·.token)) ∧
      (use.act source w s).2.issues = s.issues + if (source.note w s use).token?.isSome then 1 else 0 := by
  cases use with
  | ask =>
    rw [act_ask]
    rcases ask_cases source w s with ⟨token, issued, _, held, counted⟩ | ⟨kept, cache, count⟩
    · rw [issued]
      exact ⟨held, counted⟩
    · rw [kept, cache, count]
      exact ⟨rfl, rfl⟩
  | leave =>
    obtain ⟨cache, count⟩ := unissued_leave source w s
    rw [cache, count]
    exact ⟨rfl, rfl⟩
  | forget => exact ⟨rfl, rfl⟩

theorem act_error {use : Use} {stop : Stop} (failed : (use.act source w s).1 = .error stop) :
    Unissued s (use.act source w s).2 := by
  cases use with
  | ask =>
    rw [act_ask] at failed ⊢
    rcases ask_cases source w s with ⟨token, _, given, _⟩ | ⟨_, unissued⟩
    · rw [given] at failed
      cases failed
    · exact unissued
  | leave => exact unissued_leave source w s
  | forget => cases failed

theorem after_spec (source : Source) (uses : List (Use × Surroundings)) (s : Session) :
    (source.after s uses).cache.held.map (·.token) =
        (source.notes s uses).foldl (fun held note => note.next held) (s.cache.held.map (·.token)) ∧
      (source.after s uses).issues = s.issues + (source.notes s uses).countP (·.token?.isSome) := by
  induction uses generalizing s with
  | nil => exact ⟨rfl, rfl⟩
  | cons first uses ih =>
    obtain ⟨use, w⟩ := first
    obtain ⟨held, count⟩ := act_spec source w s use
    obtain ⟨later, more⟩ := ih (use.act source w s).2
    rw [held] at later
    rw [count] at more
    refine ⟨later, more.trans ?_⟩
    rw [notes, List.countP_cons]
    omega

theorem usable?_eq_some_iff {held : Held} :
    usable? w s = some held ↔
      s.cache.held = some held ∧ held.token.isValidAt (w.clock s.readings) (w.jitter s.readings) = true :=
  Option.filter_eq_some_iff

/-- After any number of uses the token held is the last one issued since one was last forgotten, and as many tokens are
counted as were issued. A token is issued only if the one held cannot be used and the exchange yields one, which is never
blank. Whoever asks makes an exchange unless the token held can be used, and gets that token then; whoever gets no token
has changed nothing. -/
theorem held_of_history (source : Source) (s : Session) (empty : s.cache.held = none)
    (uses : List (Use × Surroundings)) :
    ((source.after s uses).cache.held.map (·.token) = Note.lastIssued (source.notes s uses) ∧
      (source.after s uses).issues = s.issues + (source.notes s uses).countP (·.token?.isSome)) ∧
    ∀ (w : Surroundings) (s : Session),
      (∀ use token, source.note w s use = .issued token ↔
        use = .ask ∧ usable? w s = none ∧ source.Issues w (looked s) token) ∧
      (∀ token, source.Issues w (looked s) token → token.value.isBlank = false) ∧
      (∀ use, source.note w s use = .forgotten ↔ use = .forget) ∧
      (¬source.Exchanges w s ↔ ∃ held, s.cache.held = some held ∧
        held.token.isValidAt (w.clock s.readings) (w.jitter s.readings) = true) ∧
      (∀ held, s.cache.held = some held → held.token.isValidAt (w.clock s.readings) (w.jitter s.readings) = true →
        (source.token w s).1 = .ok held.token) ∧
      (∀ token, (source.token w s).1 = .ok token ↔
        (∃ held, usable? w s = some held ∧ held.token = token) ∨
          usable? w s = none ∧ source.Issues w (looked s) token) ∧
      ∀ use stop, (Use.act source use w s).1 = .error stop →
        (use.act source w s).2.cache = s.cache ∧ (use.act source w s).2.issues = s.issues := by
  obtain ⟨held, count⟩ := after_spec source uses s
  rw [empty, Option.map_none, Note.foldl_next] at held
  refine ⟨⟨held, count⟩, fun w s => ⟨fun use token => note_eq_issued_iff, fun token issues => issues.not_blank,
    fun use => note_eq_forgotten_iff, ?_, ?_, fun token => token_ok_iff, fun use stop failed => act_error failed⟩⟩
  · rw [exchanges_iff, Option.eq_none_iff_forall_ne_some]
    simp only [ne_eq, usable?_eq_some_iff, not_forall, not_not]
  · intro held inside valid
    rw [token_usable (usable?_eq_some_iff.mpr ⟨inside, valid⟩)]

/-- A source for its endpoint and nothing else. -/
def issuer : Source :=
  ⟨⟨"https", "", none, some (.domain "issuer.example"), none, .segments ["oauth", "token"], none, none⟩,
    ⟨"client", ⟨"secret"⟩, "issuer.example", none, none⟩, ⟨0, Span.ofMillis 100⟩⟩

/-- Surroundings in which every message meets the same response. -/
def meeting (status : Nat) (body : String) (deadline : Option Nat) : Surroundings where
  replies := fun _ => ⟨.ok ⟨status, [], [.data (Text.Utf8.encodeChars body.toList)], none⟩, Span.ofSeconds 1⟩
  clock := fun _ => .epoch
  jitter := fun _ => .zero
  draws := fun _ _ => 0
  deadline := deadline

/-- A token is issued, used and forgotten; the next callers are refused, get no token in the answer, and are dropped on
the way; the last one has another token issued. -/
def busy : List (Use × Surroundings) := [
  (.ask, meeting 200 "\x7b\"access_token\":\"first\"\x7d" none),
  (.ask, meeting 500 "" none),
  (.forget, meeting 500 "" none),
  (.ask, meeting 401 "" none),
  (.ask, meeting 200 "\x7b\"access_token\":\" \"\x7d" none),
  (.ask, meeting 200 "\x7b\"access_token\":\"late\"\x7d" (some 0)),
  (.leave, meeting 200 "\x7b\"access_token\":\"late\"\x7d" none),
  (.ask, meeting 200 "\x7b\"access_token\":\"second\"\x7d" none)]

theorem held_of_history_busy :
    Session.fresh.cache.held = none ∧
    issuer.notes .fresh busy = [.issued ⟨⟨"first"⟩, none⟩, .kept, .forgotten, .kept, .kept, .kept, .kept,
      .issued ⟨⟨"second"⟩, none⟩] ∧
    (issuer.after .fresh busy).cache.held.map (·.token) = some ⟨⟨"second"⟩, none⟩ ∧
    (issuer.after .fresh busy).issues = 2 := by
  have notes : issuer.notes .fresh busy = [.issued ⟨⟨"first"⟩, none⟩, .kept, .forgotten, .kept, .kept, .kept, .kept,
      .issued ⟨⟨"second"⟩, none⟩] := by decide +kernel
  obtain ⟨⟨held, count⟩, _⟩ := held_of_history issuer .fresh rfl busy
  rw [notes] at held count
  exact ⟨rfl, notes, held, count⟩

end Source

end Token

end AuthzClient
