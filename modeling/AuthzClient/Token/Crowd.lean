import AuthzClient.Authorizer

/-!
Several callers who ask for a token at the same moment, one after the other. As long as exchanges take no time each one
is answered before the next one looks; as soon as one takes time, all others look while it is on its way and have their
turns in the order in which they came.
-/

namespace AuthzClient

namespace Act

variable {α : Type}

/-- Goes on whether an action fails or not. -/
def settle (action : Act α) : Act (Except ClientError α) := of fun w s =>
  match action w s with
  | (.ok a, s) => (.ok (.ok a), s)
  | (.error (.failed error), s) => (.ok (.error error), s)
  | (.error .dropped, s) => (.error .dropped, s)

/-- Whether an action would take time; nothing happens yet. -/
def takesTime (action : Act α) : Act Bool := of fun w s => (.ok (s.time < (action w s).2.time), s)

end Act

namespace Token.Source

/-- The turns of callers who have looked, in order. -/
def turns (source : Source) : List (Except (Option Nat) AccessToken) → Act (List (Except ClientError AccessToken))
  | [] => return []
  | .ok token :: rest => return .ok token :: (← turns source rest)
  | .error seen :: rest => do
    let first ← Act.settle (source.renew seen)
    return first :: (← turns source rest)

def looks : Nat → Act (List (Except (Option Nat) AccessToken))
  | 0 => return []
  | n + 1 => return (← look) :: (← looks n)

/-- What a number of callers get who ask at the same moment. -/
def tokens (source : Source) : Nat → Act (List (Except ClientError AccessToken))
  | 0 => return []
  | n + 1 => do
    match ← look with
    | .ok token => return .ok token :: (← tokens source n)
    | .error seen =>
      if ← Act.takesTime (source.renew seen) then
        let others ← looks n
        turns source (.error seen :: others)
      else
        let first ← Act.settle (source.renew seen)
        return first :: (← tokens source n)

end Token.Source

namespace Authorizer

/-- The tokens of a number of callers who ask at the same moment. -/
def tokens (authorizer : Authorizer) (n : Nat) : Act (List (Except ClientError (Option Secret))) :=
  match authorizer with
  | issued source => do return (← source.tokens n).map fun result => result.map fun token => some token.value
  | none => return List.replicate n (.ok .none)
  | apiToken token => return List.replicate n (.ok (some token))

end Authorizer

end AuthzClient
