import AuthzClient.Proofs.Client.Secrecy

/-!
What a client in use does to its session. Of all that it does, only turns for a token and forgetting one touch the token
cache, so a kind of changes that takes these in besides what calls do takes in any history of operations.
-/

namespace AuthzClient

open Http Act

variable {R : Session → Session → Prop} {α : Type}

namespace Client

variable {client : Client} (suits : client.authorizer.Suits R)

include suits

theorem respects_attempt (request : Request) (options : Options) : Respects R (client.attempt request options) :=
  suits.toMild.bind (suits.toMild.lift _) fun _ => Call.respects_run suits.toLenient suits.authorization _ _ _

theorem respects_stream (item : Json.Decoder α) (request : Request) (options : Options) :
    Respects R (client.stream item request options) := by
  have mild := suits.toMild
  exact mild.bind (respects_attempt suits request options) fun _ => mild.bind (mild.log _) fun _ => mild.pure _

theorem respects_run (operation : Operation α) : Respects R (operation.run client) := by
  have mild := suits.toMild
  cases operation with
  | token => exact suits.token
  | tokens callers => exact suits.tokens callers
  | invalidate => exact suits.invalidate
  | build draft => exact mild.lift _
  | attempt draft options => exact mild.bind (mild.lift _) fun request => respects_attempt suits request options
  | json item draft options | text draft options =>
    exact mild.bind (mild.lift _) fun request => mild.bind (respects_attempt suits request options) fun _ =>
      mild.bind mild.receive fun _ => mild.lift _
  | stream item draft options => exact mild.bind (mild.lift _) fun request => respects_stream suits item request options
  | listObjects storeId body options => exact mild.bind (mild.lift _) fun request => respects_stream suits _ request options
  | classify request status headers body => exact mild.pure _

theorem respects_serve (steps : List Step) (s : Session) : R s (client.serve steps s).2 := by
  induction steps generalizing s with
  | nil => exact suits.toMild.refl s
  | cons step steps ih =>
    exact suits.toMild.trans (respects_run suits step.operation step.surroundings s) (ih _)

/-- A session that a history of operations leads to. -/
def Reachable (client : Client) (s : Session) : Prop := ∃ steps, (client.serve steps .fresh).2 = s

theorem Reachable.respects {s : Session} (reachable : client.Reachable s) : R .fresh s := by
  obtain ⟨steps, rfl⟩ := reachable
  exact respects_serve suits steps .fresh

end Client

end AuthzClient
