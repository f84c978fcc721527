import AuthzClient.Token.Cache

/-!
Callers who want a token from one cache at the same time, in any order of their single steps. A caller looks at the
cache; without a usable token it waits for the only door to the exchange, looks again behind it, and exchanges unless a
token was stored in the meantime. A caller can be dropped while it waits or exchanges, and the token can be invalidated
at any moment. A look and the judgement of what it finds are one step: only the look touches what the callers share.
-/

namespace AuthzClient.Token

/-- Where a caller stands. `seen` is the number of the token that it found and could not use. -/
inductive Place
  | waiting (seen : Option Nat)
  /-- Behind the door, before the second look. -/
  | inside (seen : Option Nat)
  | exchanging
  /-- Behind the door, with a token that is not stored yet. -/
  | issued (token : AccessToken)
  /-- Behind the door, with what the caller will get; nothing if the exchange has failed. -/
  | leaving (held : Option Held)
  /-- Gone with the token of the first look. -/
  | passed (held : Held)
  /-- Gone with a token found or stored behind the door. -/
  | handed (held : Held)
  | failed
  | dropped
  deriving DecidableEq, Repr

namespace Place

def isBehind : Place → Bool
  | inside _ | exchanging | issued _ | leaving _ => true
  | _ => false

def isGone : Place → Bool
  | passed _ | handed _ | failed | dropped => true
  | _ => false

def returned? : Place → Option Held
  | passed held | handed held => some held
  | _ => none

def first (cache : Cache) (now : Instant) (jitter : Span) : Place :=
  match cache.usable? now jitter with
  | some held => passed held
  | none => waiting cache.mark

def second (cache : Cache) (seen : Option Nat) : Place :=
  match cache.renewed? seen with
  | some held => leaving (some held)
  | none => exchanging

/-- The place of one who leaves through the door. -/
def last : Option Held → Place
  | some held => handed held
  | none => failed

end Place

/-- A cache and everyone who has asked for a token. -/
structure Callers where
  cache : Cache
  /-- The caller who is behind the door. -/
  door : Option Nat
  /-- Where the callers stand, in the order of the first looks. -/
  places : List Place
  deriving DecidableEq, Repr

inductive Move
  | arrive (now : Instant) (jitter : Span)
  | enter (who : Nat)
  | lookAgain (who : Nat)
  | succeed (who : Nat) (token : AccessToken)
  | fail (who : Nat)
  | store (who : Nat)
  | leave (who : Nat)
  /-- A caller is dropped. The one behind the door opens it again. -/
  | drop (who : Nat)
  | invalidate
  deriving DecidableEq, Repr

namespace Callers

def start : Callers := ⟨.empty, none, []⟩

def put (who : Nat) (place : Place) (room : Callers) : Callers := { room with places := room.places.set who place }

def join (place : Place) (room : Callers) : Callers := { room with places := room.places ++ [place] }

/-- What a move leads to; nothing where it cannot be made. -/
def step? (room : Callers) : Move → Option Callers
  | .arrive now jitter => some (room.join (.first room.cache now jitter))
  | .enter who =>
    match room.places[who]?, room.door with
    | some (.waiting seen), none => some { room.put who (.inside seen) with door := some who }
    | _, _ => none
  | .lookAgain who =>
    match room.places[who]? with
    | some (.inside seen) => some (room.put who (.second room.cache seen))
    | _ => none
  | .succeed who token =>
    match room.places[who]? with
    | some .exchanging => some (room.put who (.issued token))
    | _ => none
  | .fail who =>
    match room.places[who]? with
    | some .exchanging => some (room.put who (.leaving none))
    | _ => none
  | .store who =>
    match room.places[who]? with
    | some (.issued token) =>
      some { room.put who (.leaving (some ⟨token, room.cache.stored⟩)) with cache := room.cache.store token }
    | _ => none
  | .leave who =>
    match room.places[who]? with
    | some (.leaving held) => some { room.put who (.last held) with door := none }
    | _ => none
  | .drop who =>
    match room.places[who]? with
    | some (.waiting _) => some (room.put who .dropped)
    | some .exchanging => some { room.put who .dropped with door := none }
    | _ => none
  | .invalidate => some { room with cache := room.cache.invalidate }

def run? (room : Callers) : List Move → Option Callers
  | [] => some room
  | move :: moves => (room.step? move).bind fun next => next.run? moves

/-- The moves of a run, each with the callers as they stood before it. -/
def history (room : Callers) : List Move → List (Callers × Move)
  | [] => []
  | move :: moves =>
    match room.step? move with
    | some next => (room, move) :: next.history moves
    | none => []

end Callers

end AuthzClient.Token
