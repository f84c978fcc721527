import AuthzClient.Proofs.Client.Classification
import AuthzClient.Proofs.Text.Lossy

/-!
What errors keep of bodies. Of a reply that a call meets, 8192 bytes are kept at most, and of bytes that are handed over all
of them. They become the text of the error, and where they are not UTF-8 that text is longer than they are.
-/

namespace AuthzClient

open Http Act Text

theorem Http.Body.length_beginning (limit : Nat) (frames : List Frame) : (beginning limit frames).length ≤ limit := by
  unfold beginning
  split
  · exact Nat.zero_le limit
  · exact List.length_take_le ..

theorem Http.Body.beginning_whole {limit : Nat} {bytes : List UInt8} (fits : bytes.length ≤ limit) :
    beginning limit [.data bytes] = bytes := by
  rw [beginning, arriving, arriving, List.append_nil, List.take_of_length_le fits]
  rfl

namespace ApiError

/-- The body of an error is the text of some bytes. It is as long as they are and as their pieces are short of; so it is at
most three times as long, and exactly as long if they are UTF-8. -/
structure Keeps (error : ApiError) (bytes : List UInt8) : Prop where
  text : error.body = String.ofList (Utf8.decodeLossy bytes)
  size : Utf8.size error.body = bytes.length + Utf8.shortage bytes
  most : Utf8.size error.body ≤ 3 * bytes.length
  whole : (Utf8.decode? bytes).isSome = true → Utf8.size error.body = bytes.length

theorem keeps_of_text {error : ApiError} {bytes : List UInt8}
    (text : error.body = String.ofList (Utf8.decodeLossy bytes)) : error.Keeps bytes := by
  have size : Utf8.size error.body = bytes.length + Utf8.shortage bytes := by rw [text, Utf8.size_decodeLossy]
  have short := Utf8.shortage_le bytes
  refine ⟨text, size, by omega, fun read => ?_⟩
  obtain ⟨cs, read⟩ := Option.isSome_iff_exists.mp read
  rw [size, Utf8.shortage_of_decode? read, Nat.add_zero]

theorem keeps_ofResponse (request : Request) (status : Nat) (headers : Headers) (bytes : List UInt8) :
    (ofResponse request status headers bytes).Keeps bytes := keeps_of_text rfl

theorem keeps_of_classify {request : Request} {status : Nat} {headers : Headers} {bytes : List UInt8} {error : ApiError}
    (found : classify request status headers bytes = some error) : error.Keeps bytes := by
  rw [classify] at found
  split at found
  · cases found
  · cases found
    exact keeps_ofResponse request status headers bytes

end ApiError

/-- The errors of the server that a failure holds, that of the last attempt first. -/
def ClientError.apiErrors : ClientError → List ApiError
  | failed cause earlier => (cause :: earlier).filterMap Cause.api?
  | _ => []

/-- An error of the server is that of a reply: it has its status and keeps the beginning of its body. -/
def Surroundings.Explains (w : Surroundings) (error : ApiError) : Prop :=
  ∃ i response, (w.replies i).outcome = .ok response ∧ error.status = response.status ∧
    error.Keeps (Body.beginning 8192 response.frames)

theorem Call.keeps_refusal (identity : Identity) (request : Request) (response : Response) :
    (refusal identity request response).Keeps (Body.beginning 8192 response.frames) := by
  have kept : ApiError.keptBody response = Body.beginning 8192 response.frames := ApiError.keptBody_eq response
  rw [refusal, kept]
  exact ApiError.keeps_of_text rfl

namespace Call.Course

variable {course : Course} {error : ClientError}

theorem explains_cause {i : Nat} {found : ApiError} (inside : (course.cause i).api? = some found) :
    course.surroundings.Explains found := by
  cases met : course.outcome i with
  | error failure =>
    rw [cause, met] at inside
    cases inside
  | ok response =>
    rw [cause, met] at inside
    cases inside
    exact ⟨_, response, met, rfl, keeps_refusal course.identity course.request response⟩

/-- All errors of the server that a call fails with are those of replies, unless an authorization fails. -/
theorem explains_of_failed (failed : course.result.1 = .error (.failed error)) :
    (∃ i, course.authorization i = .error (.failed error)) ∨
      ∀ found ∈ error.apiErrors, course.surroundings.Explains found := by
  obtain ⟨n, ended⟩ := course.exists_ended
  have ends := ended.ends
  rw [failed] at ends
  generalize course.closing n = added at ends
  cases ends with
  | unauthorized denied => exact Or.inl ⟨n, denied⟩
  | unwritten => exact Or.inr fun found inside => absurd inside List.not_mem_nil
  | exhausted =>
    refine Or.inr fun found inside => ?_
    rw [ClientError.apiErrors, ← causes_snoc] at inside
    obtain ⟨cause, among, same⟩ := List.mem_filterMap.mp inside
    simp only [causes, List.mem_reverse, List.mem_map] at among
    obtain ⟨i, _, rfl⟩ := among
    exact explains_cause same

end Call.Course

namespace Authorizer

variable {authorizer : Authorizer} {w : Surroundings} {s : Session} {error : ClientError}

theorem explains_of_exchange {source : Token.Source} (failed : (source.exchange w s).1 = .error (.failed error)) :
    ∀ found ∈ error.apiErrors, w.Explains found := by
  rcases Token.Source.exchange_eq_error failed with called | dropped | ⟨failure, broken⟩ | ⟨fault, unread⟩
  · rcases Call.Course.explains_of_failed called with ⟨i, denied⟩ | explained
    · cases denied
    · exact explained
  · cases dropped
  · cases broken
    exact fun found inside => absurd inside List.not_mem_nil
  · cases unread
    exact fun found inside => absurd inside List.not_mem_nil

theorem explains_of_token (failed : (authorizer.token w s).1 = .error (.failed error)) :
    ∀ found ∈ error.apiErrors, w.Explains found := by
  cases authorizer with
  | none | apiToken => cases failed
  | issued source =>
    rcases bind_eq_error failed with refused | ⟨_, _, _, given⟩
    · exact explains_of_exchange (Token.Source.token_eq_error refused).2
    · cases given

theorem explains_of_authorization (failed : (authorizer.authorization w s).1 = .error (.failed error)) :
    ∀ found ∈ error.apiErrors, w.Explains found := by
  rcases authorization_eq_error failed with ⟨source, _, _, refused⟩ | ⟨unsendable, _⟩
  · exact explains_of_exchange refused
  · cases unsendable
    exact fun found inside => absurd inside List.not_mem_nil

end Authorizer

theorem Stream.keeps_of_deliver {α : Type} {item : Json.Decoder α} {request : Request} {response : Response}
    {error : ClientError} (failed : (deliver item request response).result = .error error) :
    ∀ found ∈ error.apiErrors, found.Keeps (Body.beginning 8192 response.frames) := by
  have kept : ApiError.keptBody response = Body.beginning 8192 response.frames := ApiError.keptBody_eq response
  rw [deliver, kept] at failed
  split at failed
  · rw [handOn_eq_pullAll] at failed
    generalize (pullAll item [] (.start response.frames)).failure = failure at failed
    cases failure with
    | none => cases failed
    | some failure =>
      cases failed
      exact fun found inside => absurd inside List.not_mem_nil
  · cases failed
    rintro found inside
    rw [List.mem_singleton.mp inside]
    exact ApiError.keeps_ofResponse ..

namespace Configuration

variable {error : ClientError}

theorem headerPair_eq_error {name value context : String} (failed : headerPair name value context = .error error) :
    error = .invalidParameter "headers" context := by
  unfold headerPair at failed
  split at failed
  · cases failed
  · exact (Except.error.inj failed).symm

theorem gatherHeaders_eq_error {entries : List (String × String)} {gathered : Headers}
    (failed : gatherHeaders gathered entries = .error error) : error = .invalidParameter "headers" "Configuration" := by
  induction entries generalizing gathered with
  | nil => cases failed
  | cons entry rest ih =>
    rw [gatherHeaders] at failed
    split at failed
    · rename_i wrong
      cases failed
      exact headerPair_eq_error wrong
    · exact ih failed

theorem overrideHeaders_eq_error {entries : List (String × Option String)} {gathered : Headers}
    (failed : overrideHeaders gathered entries = .error error) :
    error = .invalidParameter "headers" "RequestOptions" := by
  induction entries generalizing gathered with
  | nil => cases failed
  | cons entry rest ih =>
    obtain ⟨name, _ | value⟩ := entry
    · rw [overrideHeaders] at failed
      split at failed
      · exact (Except.error.inj failed).symm
      · exact ih failed
    · rw [overrideHeaders] at failed
      split at failed
      · rename_i wrong
        cases failed
        exact headerPair_eq_error wrong
      · exact ih failed

end Configuration

namespace Client

variable {client : Client} {request : Request} {options : Options} {error : ClientError}

/-- A request that cannot be prepared fails for what it was given. -/
theorem prepare_eq_error (failed : client.prepare request options = .error error) :
    ∃ parameter context, error = .invalidParameter parameter context := by
  rcases Except.bind_eq_error failed with many | ⟨plan, _, failed⟩
  · rw [Configuration.retryPlan] at many
    split at many
    · exact ⟨_, _, (Except.error.inj many).symm⟩
    · cases many
  · rcases Except.bind_eq_error failed with illegal | ⟨headers, _, made⟩
    · rw [Configuration.requestHeaders] at illegal
      split at illegal
      · rename_i wrong
        cases illegal
        exact ⟨_, _, Configuration.gatherHeaders_eq_error wrong⟩
      · exact ⟨_, _, Configuration.overrideHeaders_eq_error illegal⟩
    · cases made

theorem explains_of_attempt {w : Surroundings} {s : Session}
    (failed : (client.attempt request options w s).1 = .error (.failed error)) :
    ∀ found ∈ error.apiErrors, w.Explains found := by
  cases taken : client.prepare request options with
  | error wrong =>
    rw [attempt_of_unprepared taken] at failed
    cases failed
    obtain ⟨parameter, context, rfl⟩ := prepare_eq_error taken
    exact fun found inside => absurd inside List.not_mem_nil
  | ok both =>
    rw [attempt_eq_course taken] at failed
    rcases Call.Course.explains_of_failed failed with ⟨i, denied⟩ | explained
    · exact Authorizer.explains_of_authorization denied
    · exact explained

/-- What the errors of the server keep. One that is read off bytes keeps the text of all of them, however many there are. Of
those that a call or an exchange of tokens fails with, each keeps the text of at most 8192 bytes of a reply, and so does that
of a delivery: a text of at most 24576 bytes, and of 8192 if the bytes are UTF-8. -/
theorem keeps_of_failures {α : Type} (item : Json.Decoder α) (client : Client) (authorizer : Authorizer) (request : Request)
    (options : Options) (w : Surroundings) (s : Session) :
    (∀ status headers bytes error, ApiError.classify request status headers bytes = some error → error.Keeps bytes) ∧
    (∀ status headers bytes error, client.classify request status headers bytes = some error → error.Keeps bytes) ∧
    (∀ error, (client.attempt request options w s).1 = .error (.failed error) →
      ∀ found ∈ error.apiErrors, w.Explains found) ∧
    (∀ error, (authorizer.token w s).1 = .error (.failed error) → ∀ found ∈ error.apiErrors, w.Explains found) ∧
    (∀ response error, (Stream.deliver item request response).result = .error error →
      ∀ found ∈ error.apiErrors, found.Keeps (Body.beginning 8192 response.frames)) ∧
    ∀ (error : ApiError) frames, error.Keeps (Body.beginning 8192 frames) →
      Utf8.size error.body ≤ 8192 + Utf8.shortage (Body.beginning 8192 frames) ∧ Utf8.size error.body ≤ 24576 ∧
        ((Utf8.decode? (Body.beginning 8192 frames)).isSome = true → Utf8.size error.body ≤ 8192) := by
  refine ⟨fun status headers bytes error => ApiError.keeps_of_classify, fun status headers bytes error found => ?_,
    fun error => explains_of_attempt, fun error => Authorizer.explains_of_token,
    fun response error => Stream.keeps_of_deliver, fun error frames keeps => ?_⟩
  · obtain ⟨read, classified, rfl⟩ := Option.map_eq_some_iff.mp found
    exact ApiError.keeps_of_text (ApiError.keeps_of_classify classified).text
  · have within := Body.length_beginning 8192 frames
    have size := keeps.size
    have most := keeps.most
    exact ⟨by omega, by omega, fun read => keeps.whole read ▸ within⟩

/-- A response of which no byte belongs to a character. -/
def gibberish : Response := ⟨400, [], [.data (List.replicate 8192 0xff)], none⟩

def mangled : Surroundings :=
  { Call.Course.flaky.surroundings with replies := fun _ => ⟨.ok gibberish, .zero⟩ }

theorem attempt_mangled :
    ∃ error, (layered.attempt layeredRequest .none mangled .fresh).1 = .error (.failed (.failed (.api error) [])) := by
  have refused : (match (layered.attempt layeredRequest .none mangled .fresh).1 with
      | .error (.failed (.failed (.api _) [])) => true
      | .error (.failed (.failed (.api _) (_ :: _))) | .error (.failed (.failed (.transport _ _) _))
      | .error (.failed (.invalidParameter _ _)) | .error (.failed (.encode _ _)) | .error (.failed (.decode _ _))
      | .error (.failed (.settings _ _)) | .error .dropped | .ok _ => false) = true := by decide +kernel
  split at refused
  · rename_i error failed
    exact ⟨error, failed⟩
  all_goals cases refused

theorem keeps_of_failures_mangled :
    (∃ error, ApiError.classify layeredRequest 400 [] [0x61, 0xff, 0xe2, 0x82] = some error ∧
        Utf8.size error.body = 7) ∧
      ∃ error, (layered.attempt layeredRequest .none mangled .fresh).1 = .error (.failed (.failed (.api error) [])) ∧
        error.status = 400 ∧ Utf8.size error.body ≤ 24576 := by
  obtain ⟨classified, _, attempted, _, _, bounds⟩ := keeps_of_failures Stream.objectDecoder layered layered.authorizer
    layeredRequest .none mangled .fresh
  have short : Utf8.shortage [0x61, 0xff, 0xe2, 0x82] = 3 := by
    simp [Utf8.shortage, Utf8.cut, Utf8.follows, Utf8.isTail, Utf8.Piece.shortage]
  obtain ⟨error, failed⟩ := attempt_mangled
  obtain ⟨_, _, met, status, keeps⟩ := attempted _ failed error (List.mem_singleton_self error)
  cases met
  refine ⟨⟨_, rfl, ?_⟩, error, failed, status, (bounds error _ keeps).2.1⟩
  exact (classified 400 [] _ _ rfl).size.trans (by rw [short]; rfl)

/-- Bytes that are handed over become a text without a limit, and 8192 bytes of a reply one of 24576. -/
theorem not_capped_mangled :
    (∃ error, ApiError.classify layeredRequest 400 [] (List.replicate 8193 0x61) = some error ∧
        8192 < Utf8.size error.body) ∧
      (∃ error, (layered.attempt layeredRequest .none mangled .fresh).1 = .error (.failed (.failed (.api error) [])) ∧
        Utf8.size error.body = 24576) ∧
      ∃ error, (Stream.deliver Stream.objectDecoder Stream.streaming gibberish).result =
          .error (.failed (.api error) []) ∧ Utf8.size error.body = 24576 := by
  have whole : Body.beginning 8192 gibberish.frames = List.replicate 8192 0xff :=
    Body.beginning_whole (Nat.le_of_eq List.length_replicate)
  have size {error : ApiError} (keeps : error.Keeps (Body.beginning 8192 gibberish.frames)) :
      Utf8.size error.body = 24576 := by
    rw [keeps.size, whole, Utf8.shortage_replicate, List.length_replicate]
  obtain ⟨error, failed⟩ := attempt_mangled
  obtain ⟨_, _, met, _, keeps⟩ := explains_of_attempt failed error (List.mem_singleton_self error)
  cases met
  have delivered : (Stream.deliver Stream.objectDecoder Stream.streaming gibberish).result = .error (.failed (.api _) []) :=
    congrArg Stream.Delivery.result (if_neg (by decide))
  refine ⟨⟨_, rfl, ?_⟩, ⟨error, failed, size keeps⟩, _, delivered,
    size (Stream.keeps_of_deliver delivered _ (List.mem_singleton_self _))⟩
  rw [(ApiError.keeps_ofResponse ..).size, List.length_replicate]
  omega

end Client

end AuthzClient
