import AuthzClient.Proofs.Call.Blocked
import AuthzClient.Proofs.Client.Classification
import AuthzClient.Proofs.Client.Operations
import AuthzClient.Proofs.Stream.Delivery

/-!
Errors that are found on this side, over any history of a client. An operation that gives one has sent nothing and left
the token alone, unless it had a token issued first: one that cannot stand in a header, or one for a request that cannot
be written.
-/

namespace AuthzClient

open Http Act

namespace Token.Source

variable {source : Source}

/-- Behind a change a token is held only if one was before, or if its endpoint can be written as a target. -/
def Reached (source : Source) (s t : Session) : Prop :=
  t.cache.held.isSome = true → s.cache.held.isSome = true ∨ (Target.parse? source.endpoint.text).isSome = true

theorem lenient_reached (source : Source) : Lenient source.Reached where
  trans first next held := (next held).elim first Or.inr
  silent _ _ same _ held := Or.inl (same ▸ held)
  sending _ same _ held := Or.inl (same ▸ held)

theorem reached_renew (source : Source) (seen : Option Nat) : Respects source.Reached (source.renew seen) := by
  intro w s held
  have opened : source.renew seen w s = _ := bind_ok (show Act.cache w s = (.ok s.cache, s) from rfl)
  rw [opened] at held
  cases renewed : s.cache.renewed? seen with
  | some found =>
    rw [renewed] at held
    exact Or.inl held
  | none =>
    rw [renewed] at held
    rcases ended : source.exchange w s with ⟨stop | token, t⟩
    · have kept := source.respects_exchange (lenient_reached source) w s
      rw [ended] at kept
      simp only [bind_error ended] at held
      exact kept held
    · exact Or.inr (parse?_of_exchange (congrArg Prod.fst ended))

theorem suits_reached (source : Source) : (Authorizer.issued source).Suits source.Reached where
  toLenient := lenient_reached source
  renew := by
    rintro _ ⟨⟩
    exact source.reached_renew
  invalidate _ _ held := by cases held

end Token.Source

/-- Who has no token issued is authorized in the same way each time. -/
theorem Authorizer.issued_or_fixed (authorizer : Authorizer) :
    (∃ source, authorizer = .issued source) ∨ ∃ value, ∀ w s, authorizer.authorization w s = (value, s) := by
  cases authorizer with
  | none => exact Or.inr ⟨.ok .none, fun _ _ => rfl⟩
  | apiToken token => exact Or.inr ⟨header (some token), fun w s => authorization_eq (.apiToken token) w s⟩
  | issued source => exact Or.inl ⟨source, rfl⟩

namespace Client

variable {client : Client} {α : Type} {w : Surroundings} {s : Session} {error : ClientError}

/-- The request and the options of an operation that sends a message of its own. -/
def Operation.call? (client : Client) : {α : Type} → Operation α → Option (Except ClientError Request × Options)
  | _, .attempt draft options | _, .json _ draft options | _, .text draft options | _, .stream _ draft options =>
    some (draft.request client, options)
  | _, .listObjects storeId body options => some (client.objectsRequest storeId body, options)
  | _, _ => none

/-- The error that an operation gives, be it in the place of an answer or at the end of a delivery. -/
def Operation.error? : {α : Type} → Operation α → Except Stop α → Option ClientError
  | _, .stream _ _ _, .ok ⟨_, .error error⟩ | _, .listObjects _ _ _, .ok ⟨_, .error error⟩ => some error
  | _, _, .error (.failed error) => some error
  | _, _, _ => none

/-- An action that finds nothing wrong on this side. -/
def Foreign (action : Act α) : Prop := ∀ w s error, (action w s).1 = .error (.failed error) → error.isLocal = false

theorem foreign_pure (a : α) : Foreign (pure a : Act α) := by
  intro w s error failed
  cases failed

theorem foreign_bind {β : Type} {x : Act α} {f : α → Act β} (first : Foreign x) (next : ∀ a, Foreign (f a)) :
    Foreign (x >>= f) := by
  intro w s error failed
  rcases bind_eq_error failed with stopped | ⟨a, t, _, behind⟩
  · exact first w s error stopped
  · exact next a w t error behind

theorem foreign_receive : Foreign Act.receive := fun _ _ _ failed => by cases receive_eq_error failed

theorem foreign_lift {value : Except ClientError α} (foreign : ∀ error, value = .error error → error.isLocal = false) :
    Foreign (Act.lift value) := by
  intro w s error failed
  obtain ⟨_, wrong, same⟩ := lift_eq_error failed
  cases same
  exact foreign error wrong

/-- An error that a part of a response is turned into is not of this side, if none of its kind is. -/
theorem isLocal_of_mapError {ε : Type} {value : Except ε α} {f : ε → ClientError} (foreign : ∀ e, (f e).isLocal = false)
    (failed : value.mapError f = .error error) : error.isLocal = false := by
  cases value with
  | ok a => cases failed
  | error e =>
    cases failed
    exact foreign e

theorem isLocal_of_decodeBody {item : Json.Decoder α} {operation : String} {response : Response}
    (failed : decodeBody item operation response = .error error) : error.isLocal = false := by
  rcases Except.bind_eq_error failed with unread | ⟨bytes, _, wrong⟩
  · exact isLocal_of_mapError (fun _ => rfl) unread
  · exact isLocal_of_mapError (fun _ => rfl) wrong

theorem isLocal_of_deliver {item : Json.Decoder α} {request : Request} {response : Response}
    (failed : (Stream.deliver item request response).result = .error error) : error.isLocal = false := by
  rw [Stream.deliver] at failed
  split at failed
  · rw [Stream.handOn_eq_pullAll] at failed
    dsimp only at failed
    cases broken : (Stream.pullAll item [] (.start response.frames)).failure with
    | none =>
      rw [broken] at failed
      cases failed
    | some failure =>
      rw [broken] at failed
      cases failed
      rfl
  · cases failed
    rfl

theorem Operation.eq_failed_of_error? {operation : Operation α} {stop : Stop}
    (given : operation.error? (.error stop) = some error) : stop = .failed error := by
  cases stop with
  | failed other => cases operation <;> exact congrArg _ (Option.some.inj given)
  | dropped => cases operation <;> cases given

theorem Operation.result_of_stream {item : Json.Decoder α} {draft : Draft} {options : Options}
    {delivery : Stream.Delivery α} (given : (Operation.stream item draft options).error? (.ok delivery) = some error) :
    delivery.result = .error error := by
  rcases delivery with ⟨_, last | _⟩
  · exact congrArg _ (Option.some.inj given)
  · cases given

theorem Operation.result_of_listObjects {storeId : String} {body : Except Json.Fault Json} {options : Options}
    {delivery : Stream.Delivery String}
    (given : (Operation.listObjects storeId body options).error? (.ok delivery) = some error) :
    delivery.result = .error error := by
  rcases delivery with ⟨_, last | _⟩
  · exact congrArg _ (Option.some.inj given)
  · cases given

/-- An action that finds nothing wrong on this side gives no such error where an answer is none. -/
theorem Foreign.isLocal_eq_false {action : Act α} (foreign : Foreign action) {operation : Operation α}
    (answers : ∀ a, operation.error? (.ok a) = none) (given : operation.error? (action w s).1 = some error) :
    error.isLocal = false := by
  refine foreign w s error ?_
  cases ended : (action w s).1 with
  | ok a =>
    rw [ended, answers] at given
    cases given
  | error stop =>
    rw [ended] at given
    rw [Operation.eq_failed_of_error? given]

/-- An operation whose answers are made of the response alone finds its errors of this side before its call or with it. -/
theorem attempt_of_tail {operation : Operation α} {asked : Except ClientError Request} {options : Options}
    {tail : Request → Response → Act α}
    (made : operation.run client = Act.lift asked >>= fun request => client.attempt request options >>= tail request)
    (foreign : ∀ request response {w s error}, operation.error? (tail request response w s).1 = some error →
      error.isLocal = false)
    (isLocal : error.isLocal = true) (given : operation.error? (operation.run client w s).1 = some error) :
    (operation.run client w s).2 = s ∨ ∃ request, asked = .ok request ∧
      (client.attempt request options w s).1 = .error (.failed error) ∧
      (operation.run client w s).2 = (client.attempt request options w s).2 := by
  rw [made] at given ⊢
  cases asked with
  | error wrong =>
    have refused : Act.lift (.error wrong : Except ClientError Request) w s = (.error (.failed wrong), s) := rfl
    rw [bind_error refused]
    exact Or.inl rfl
  | ok request =>
    have accepted : Act.lift (.ok request) w s = (.ok request, s) := rfl
    rw [bind_ok accepted] at given ⊢
    refine Or.inr ⟨request, rfl, ?_⟩
    -- Behind an answer only the answer can be at fault.
    rcases called : client.attempt request options w s with ⟨stop | response, t⟩
    · rw [bind_error called] at given ⊢
      cases Operation.eq_failed_of_error? given
      exact ⟨rfl, rfl⟩
    · rw [bind_ok called] at given
      cases isLocal.symm.trans (foreign request response given)

/-- An operation with a call that gives an error of this side does so before its call or with it. -/
theorem attempt_of_call {operation : Operation α} {asked : Except ClientError Request} {options : Options}
    (call : operation.call? client = some (asked, options)) (isLocal : error.isLocal = true)
    (given : operation.error? (operation.run client w s).1 = some error) :
    (operation.run client w s).2 = s ∨ ∃ request, asked = .ok request ∧
      (client.attempt request options w s).1 = .error (.failed error) ∧
      (operation.run client w s).2 = (client.attempt request options w s).2 := by
  cases operation with
  | token | tokens | invalidate | build | classify => cases call
  | attempt draft options =>
    cases call
    have made : (Operation.attempt draft options).run client = Act.lift (draft.request client) >>= fun request =>
        client.attempt request options >>= pure := by
      simp only [bind_pure]
      rfl
    refine attempt_of_tail made (fun request response => Foreign.isLocal_eq_false ?_ fun _ => rfl) isLocal given
    exact foreign_pure response
  | json item draft options =>
    cases call
    refine attempt_of_tail rfl (fun request response => Foreign.isLocal_eq_false ?_ fun _ => rfl) isLocal given
    exact foreign_bind foreign_receive fun _ => foreign_lift fun _ => isLocal_of_decodeBody
  | text draft options =>
    cases call
    refine attempt_of_tail rfl (fun request response => Foreign.isLocal_eq_false ?_ fun _ => rfl) isLocal given
    exact foreign_bind foreign_receive fun _ => foreign_lift fun _ => isLocal_of_mapError fun _ => rfl
  | stream item draft options =>
    cases call
    refine attempt_of_tail rfl (fun request response _ _ _ delivered => ?_) isLocal given
    exact isLocal_of_deliver (Operation.result_of_stream delivered)
  | listObjects storeId body options =>
    cases call
    refine attempt_of_tail rfl (fun request response _ _ _ delivered => ?_) isLocal given
    exact isLocal_of_deliver (Operation.result_of_listObjects delivered)

/-- Wherever a token is held its endpoint can be written as a target. -/
theorem Reachable.parse?_of_held {source : Token.Source} (reachable : client.Reachable s)
    (issued : client.authorizer = .issued source) (held : s.cache.held.isSome = true) :
    (Target.parse? source.endpoint.text).isSome = true := by
  have suits : client.authorizer.Suits source.Reached := issued ▸ source.suits_reached
  rcases reachable.respects suits held with before | reached
  · cases before
  · exact reached

theorem futile_of_prepared {request prepared : Request} {options : Options} {plan : RetryPlan} {held : Token.Held}
    (taken : client.prepare request options = .ok (prepared, plan)) (futile : Call.Futile prepared held error) :
    Call.Futile request held error := by
  obtain ⟨_, _, rest⟩ := Except.bind_eq_ok taken
  obtain ⟨_, _, rest⟩ := Except.bind_eq_ok rest
  cases rest
  cases futile with
  | token broken => exact .token broken
  | target unbuilt => exact .target unbuilt

/-- A call that gives an error of this side leaves the messages and the token as they are, or had a token issued. -/
theorem untouched_or_futile_of_attempt {request : Request} {options : Options} (reachable : client.Reachable s)
    (isLocal : error.isLocal = true)
    (failed : (client.attempt request options w s).1 = .error (.failed error)) :
    (client.attempt request options w s).2.messages = s.messages ∧
        (client.attempt request options w s).2.cache = s.cache ∨
      ∃ source held, client.authorizer = .issued source ∧
        (client.attempt request options w s).2.cache.held = some held ∧ s.cache.stored ≤ held.number ∧
        Call.Futile request held error := by
  cases taken : client.prepare request options with
  | error wrong =>
    rw [attempt_of_unprepared taken]
    exact Or.inl ⟨rfl, rfl⟩
  | ok both =>
    obtain ⟨prepared, plan⟩ := both
    rw [attempt_eq_course taken] at failed ⊢
    rcases client.authorizer.issued_or_fixed with ⟨source, issued⟩ | ⟨value, fixed⟩
    · rcases Call.Course.untouched_or_futile issued isLocal failed (reachable.parse?_of_held issued) with quiet |
        ⟨held, inside, number, futile⟩
      · exact Or.inl quiet
      · exact Or.inr ⟨source, held, issued, inside, number, futile_of_prepared taken futile⟩
    · rw [Call.Course.untouched_of_unissued fixed isLocal failed]
      exact Or.inl ⟨rfl, rfl⟩

/-- After any history, an operation that gives an error of this side has handed nothing to the transport and left the token
as it was. The one exception is a token issued in that very operation and in vain: it cannot stand in a header, or the
request that it was issued for could not be written from the first. -/
theorem untouched_or_futile_of_call (reachable : client.Reachable s) {operation : Operation α}
    {asked : Except ClientError Request} {options : Options} (call : operation.call? client = some (asked, options))
    (isLocal : error.isLocal = true) (given : operation.error? (operation.run client w s).1 = some error) :
    (operation.run client w s).2.messages = s.messages ∧ (operation.run client w s).2.cache = s.cache ∨
      ∃ source request held, client.authorizer = .issued source ∧ asked = .ok request ∧
        (operation.run client w s).2.cache.held = some held ∧ s.cache.stored ≤ held.number ∧
        Call.Futile request held error := by
  rcases attempt_of_call call isLocal given with same | ⟨request, built, failed, same⟩
  · rw [same]
    exact Or.inl ⟨rfl, rfl⟩
  · rw [same]
    rcases untouched_or_futile_of_attempt reachable isLocal failed with quiet | ⟨source, held, issued, inside, number, futile⟩
    · exact Or.inl quiet
    · exact Or.inr ⟨source, request, held, issued, built, inside, number, futile⟩

def checking (request : Request) : Operation Response := .attempt (.written request) .none

/-- The session of a client that has been told to forget its token. -/
def forgotten : Session := (acting.serve [⟨.invalidate, Token.Source.breaking⟩] .fresh).2

theorem untouched_or_futile_of_call_breaking :
    acting.Reachable forgotten ∧ (checking actingRequest).call? acting = some (.ok actingRequest, .none) ∧
      (checking actingRequest).error? ((checking actingRequest).run acting Token.Source.breaking forgotten).1 =
        some (.invalidParameter "accessToken" "Authorization") ∧
      ∃ held, ((checking actingRequest).run acting Token.Source.breaking forgotten).2.cache.held = some held ∧
        forgotten.cache.stored ≤ held.number ∧ ¬held.token.value.IsSendable := by
  have given : (checking actingRequest).error?
      ((checking actingRequest).run acting Token.Source.breaking forgotten).1 =
        some (.invalidParameter "accessToken" "Authorization") := by
    have refused : (match (checking actingRequest).error?
          ((checking actingRequest).run acting Token.Source.breaking forgotten).1 with
        | some (.invalidParameter parameter context) => parameter == "accessToken" && context == "Authorization"
        | some _ | none => false) = true := by decide +kernel
    split at refused
    · rename_i found
      simp only [Bool.and_eq_true, beq_iff_eq] at refused
      rw [found, refused.1, refused.2]
    all_goals cases refused
  have reachable : acting.Reachable forgotten := ⟨[⟨.invalidate, Token.Source.breaking⟩], rfl⟩
  refine ⟨reachable, rfl, given, ?_⟩
  rcases untouched_or_futile_of_call reachable rfl rfl given with ⟨quiet, _⟩ | ⟨_, _, held, _, _, inside, number, futile⟩
  · have sent : ((checking actingRequest).run acting Token.Source.breaking forgotten).2.messages.length ≠
        forgotten.messages.length := by decide +kernel
    exact absurd (congrArg List.length quiet) sent
  · cases futile with
    | token broken => exact ⟨held, inside, number, broken⟩

/-- A request for a URL without a server. -/
def serverless : Request := .new "check" "GET" ⟨"data", "", none, none, none, .plain "text/plain", none, none⟩

/-- It cannot be written, and has a token issued all the same. -/
theorem not_untouched_serverless :
    ofConfiguration acting.config = .ok acting ∧
      (checking serverless).error? ((checking serverless).run acting refusing .fresh).1 =
        some (.encode "check" .unbuildable) ∧
      ((checking serverless).run acting refusing .fresh).2.messages.length = 1 ∧
      ((checking serverless).run acting refusing .fresh).2.cache ≠ Session.fresh.cache := by
  refine ⟨Except.eq_ok_of_toOption (by decide +kernel), ?_, by decide +kernel, by decide +kernel⟩
  have refused : (match (checking serverless).error? ((checking serverless).run acting refusing .fresh).1 with
      | some (.encode operation .unbuildable) => operation == "check"
      | some _ | none => false) = true := by decide +kernel
  split at refused
  · rename_i found
    rw [found, beq_iff_eq.mp refused]
  all_goals cases refused

end Client

end AuthzClient
