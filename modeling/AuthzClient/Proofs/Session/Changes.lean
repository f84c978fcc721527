import AuthzClient.Proofs.Session.Actions
import AuthzClient.Token.Crowd

/-!
What calls, token sources and authorizers do to their session: nothing that has happened is taken back, and a call does
not touch the token cache unless its authorization does.
-/

namespace AuthzClient

open Http Act

variable {R : Session → Session → Prop} {α : Type}

namespace Act

theorem respects_settle {action : Act α} (inside : Respects R action) : Respects R (settle action) := by
  intro w s
  have before := inside w s
  simp only [settle, of]
  rcases ended : action w s with ⟨stop | a, t⟩
  · rw [ended] at before
    cases stop with
    | failed error => exact before
    | dropped => exact before
  · rw [ended] at before
    exact before

end Act

/-- No token is issued by a call that ends. -/
theorem Measurement.ofCall_value_ne_issued (request : Request) (clientId : Option String) (retries : Nat)
    (response : Option (Nat × Headers)) (time : Span) :
    ∀ m ∈ Measurement.ofCall request clientId retries response time, m.value ≠ .issued := by
  intro m inside
  simp only [ofCall, List.mem_cons] at inside
  rcases inside with rfl | inside
  · simp
  · split at inside
    · rw [List.mem_singleton.mp inside]
      simp
    · cases inside

namespace Call

section Steps

variable (identity : Identity) (request : Request) (plan : RetryPlan)

theorem respects_serverDelay (mild : Mild R) (outcome : Except TransportError Response) :
    Respects R (serverDelay outcome) := by
  cases outcome with
  | error => exact mild.pure _
  | ok response => exact mild.bind mild.readClock fun reading => mild.pure _

theorem respects_pause (mild : Mild R) (attempt : Nat) (outcome : Except TransportError Response) :
    Respects R (pause identity request plan attempt outcome) :=
  mild.bind (respects_serverDelay mild outcome) fun server =>
    mild.bind (mild.log _) fun _ => mild.backOff server attempt _

theorem respects_measureEnd (mild : Mild R) (began attempt : Nat) (response : Option (Nat × Headers)) :
    Respects R (measureEnd identity request began attempt response) :=
  mild.bind mild.session fun _ => mild.measure (Measurement.ofCall_value_ne_issued _ _ _ _ _)

theorem respects_giveUp (mild : Mild R) (began attempt : Nat) (cause : Cause) (earlier : List Cause) :
    Respects R (giveUp identity request began attempt cause earlier) :=
  mild.bind (respects_measureEnd identity request mild began attempt _) fun _ => mild.fail _

end Steps

variable {authorize : Act (Option HeaderValue)} (lenient : Lenient R) (authorizing : Respects R authorize)
variable (identity : Identity) (request : Request) (plan : RetryPlan)

include lenient authorizing

theorem respects_sendOnce (attempt : Nat) : Respects R (sendOnce request authorize attempt) := by
  refine lenient.bind authorizing fun authorization => ?_
  cases request.message? attempt authorization with
  | none => exact lenient.fail _
  | some message => exact lenient.send message

theorem respects_attempts (began left attempt : Nat) (earlier : List Cause) :
    Respects R (attempts identity request plan authorize began left attempt earlier) := by
  have mild := lenient.toMild
  induction left generalizing attempt earlier with
  | zero =>
    unfold attempts
    refine mild.bind (respects_sendOnce lenient authorizing request attempt) fun outcome => ?_
    cases success? outcome with
    | some response =>
      exact mild.bind (respects_measureEnd identity request mild began attempt _) fun _ => mild.pure _
    | none => exact mild.bind (mild.log _) fun _ => respects_giveUp identity request mild began attempt _ earlier
  | succ left ih =>
    unfold attempts
    refine mild.bind (respects_sendOnce lenient authorizing request attempt) fun outcome => ?_
    cases success? outcome with
    | some response =>
      exact mild.bind (respects_measureEnd identity request mild began attempt _) fun _ => mild.pure _
    | none =>
      refine mild.bind (mild.log _) fun _ => ?_
      dsimp only
      split
      · exact mild.bind (respects_pause identity request plan mild attempt outcome) fun _ => ih _ _
      · exact respects_giveUp identity request mild began attempt _ earlier

theorem respects_run : Respects R (run identity request plan authorize) :=
  lenient.bind lenient.session fun _ => respects_attempts lenient authorizing identity request plan _ _ _ _

end Call

namespace Token.Source

theorem respects_exchange (lenient : Lenient R) (source : Source) : Respects R source.exchange := by
  have mild := lenient.toMild
  exact mild.bind (Call.respects_run lenient (mild.pure none) _ _ _) fun _ => mild.bind mild.receive fun _ =>
    mild.bind (mild.lift _) fun _ => mild.bind (mild.log _) fun _ => mild.bind mild.readClock fun _ => mild.pure _

theorem respects_look (mild : Mild R) : Respects R look := by
  refine mild.bind mild.cache fun cache => ?_
  split
  · exact mild.pure _
  · refine mild.bind mild.readClock fun reading => ?_
    dsimp only
    split
    · exact mild.pure _
    · exact mild.pure _

section Turns

variable {source : Source} (mild : Mild R) (renewing : ∀ seen, Respects R (source.renew seen))

include mild

theorem respects_looks (n : Nat) : Respects R (looks n) := by
  induction n with
  | zero => exact mild.pure _
  | succ n ih => exact mild.bind (respects_look mild) fun _ => mild.bind ih fun _ => mild.pure _

include renewing

theorem respects_token : Respects R source.token := by
  refine mild.bind (respects_look mild) fun found => ?_
  cases found with
  | ok token => exact mild.pure token
  | error seen => exact renewing seen

theorem respects_turns (looked : List (Except (Option Nat) AccessToken)) : Respects R (source.turns looked) := by
  induction looked with
  | nil => exact mild.pure _
  | cons found rest ih =>
    cases found with
    | ok token => exact mild.bind ih fun _ => mild.pure _
    | error seen => exact mild.bind (respects_settle (renewing seen)) fun _ => mild.bind ih fun _ => mild.pure _

theorem respects_tokens (n : Nat) : Respects R (source.tokens n) := by
  induction n with
  | zero => exact mild.pure _
  | succ n ih =>
    refine mild.bind (respects_look mild) fun found => ?_
    cases found with
    | ok token => exact mild.bind ih fun _ => mild.pure _
    | error seen =>
      refine mild.bind (fun _ s => mild.refl s) fun long => ?_
      split
      · exact mild.bind (respects_looks mild n) fun _ => respects_turns mild renewing _
      · exact mild.bind (respects_settle (renewing seen)) fun _ => mild.bind ih fun _ => mild.pure _

end Turns

theorem grown_renew (source : Source) (seen : Option Nat) : Respects Grown (source.renew seen) := by
  have mild := lenient_grown.toMild
  refine mild.bind mild.cache fun cache => ?_
  split
  · exact mild.bind (mild.log _) fun _ => mild.pure _
  · exact mild.bind (source.respects_exchange lenient_grown) fun _ => mild.bind mild.cache fun _ =>
      mild.bind (grown_setCache _) fun _ => mild.bind (grown_measure _) fun _ => mild.pure _

theorem grown_token (source : Source) : Respects Grown source.token :=
  respects_token lenient_grown.toMild source.grown_renew

end Token.Source

/-- A kind of changes that takes in all that is done with an authorizer: what calls do, a turn for a token, and forgetting
the token. -/
structure Authorizer.Suits (R : Session → Session → Prop) (authorizer : Authorizer) : Prop extends Lenient R where
  renew : ∀ {source}, authorizer = .issued source → ∀ seen, Respects R (source.renew seen)
  invalidate : Respects R authorizer.invalidate

/-- A header is made of a token by nothing that shows in the session. -/
theorem Authorizer.respects_authorization {authorizer : Authorizer} (mild : Mild R)
    (asking : Respects R authorizer.token) : Respects R authorizer.authorization := by
  refine mild.bind asking fun token => ?_
  cases token with
  | none => exact mild.pure _
  | some token =>
    dsimp only
    split
    · exact mild.pure _
    · exact mild.fail _

namespace Authorizer.Suits

variable {authorizer : Authorizer} (suits : authorizer.Suits R)

include suits

theorem token : Respects R authorizer.token := by
  have mild := suits.toMild
  cases authorizer with
  | none | apiToken => exact mild.pure _
  | issued source => exact mild.bind (Token.Source.respects_token mild (suits.renew rfl)) fun _ => mild.pure _

theorem tokens (callers : Nat) : Respects R (authorizer.tokens callers) := by
  have mild := suits.toMild
  cases authorizer with
  | none | apiToken => exact mild.pure _
  | issued source => exact mild.bind (Token.Source.respects_tokens mild (suits.renew rfl) callers) fun _ => mild.pure _

theorem authorization : Respects R authorizer.authorization := respects_authorization suits.toMild suits.token

end Authorizer.Suits

namespace Authorizer

theorem suits_grown (authorizer : Authorizer) : authorizer.Suits Grown where
  toLenient := lenient_grown
  renew _ seen := Token.Source.grown_renew _ seen
  invalidate := by
    have mild := lenient_grown.toMild
    cases authorizer with
    | none | apiToken => exact mild.pure _
    | issued source => exact mild.bind mild.cache fun _ => grown_setCache _

theorem grown_token (authorizer : Authorizer) : Respects Grown authorizer.token := authorizer.suits_grown.token

theorem grown_authorization (authorizer : Authorizer) : Respects Grown authorizer.authorization :=
  authorizer.suits_grown.authorization

end Authorizer

end AuthzClient
