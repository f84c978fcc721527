import AuthzClient.Proofs.Token.SingleFlight

/-!
What becomes of tokens behind an invalidation. The cache forgets the token that it holds, but not an exchange that is on
its way: its token is stored when it comes, and whoever asks then is given it. There is at most one such token, and all
others that newcomers get come from exchanges that began behind the invalidation.
-/

namespace AuthzClient.Token

/-- Where a caller stands whose exchange is not over: its token is not there or not stored yet. -/
def Place.isBusy : Place → Bool
  | exchanging | issued _ => true
  | _ => false

/-- The token that a caller has got or is going to leave with. -/
def Place.given? : Place → Option Held
  | leaving held => held
  | passed held | handed held => some held
  | _ => none

namespace Callers

/-- A caller of a given number has stored a token within a history. -/
def StoredBy (history : List (Callers × Move)) (issuer : Nat) (held : Held) : Prop :=
  ∃ room, (room, .store issuer) ∈ history ∧ room.places[issuer]? = some (.issued held.token) ∧
    room.cache.stored = held.number

/-- The exchange of a caller has begun within a history. -/
def BegunBy (history : List (Callers × Move)) (issuer : Nat) : Prop :=
  ∃ step ∈ history, step.2 = .lookAgain issuer ∧ begins step = true

/-- A caller has an exchange on its way. -/
def Busy (room : Callers) (who : Nat) : Prop := ∃ place, room.places[who]? = some place ∧ place.isBusy = true

/-- A token was stored since, by a caller whose exchange has begun since or was on its way at first. -/
def NewSince (first : Callers) (history : List (Callers × Move)) (held : Held) : Prop :=
  first.cache.stored ≤ held.number ∧ ∃ issuer, StoredBy history issuer held ∧ (BegunBy history issuer ∨ first.Busy issuer)

section NewSince

variable {first room next last : Callers} {history : List (Callers × Move)} {latest : Callers × Move} {move : Move}
  {who issuer : Nat} {held : Held} {place old : Place}

theorem BegunBy.mono {longer : List (Callers × Move)} (within : history ⊆ longer) (begun : BegunBy history issuer) :
    BegunBy longer issuer := by
  obtain ⟨step, member, same, begins⟩ := begun
  exact ⟨step, within member, same, begins⟩

theorem NewSince.mono {longer : List (Callers × Move)} (within : history ⊆ longer) (new : NewSince first history held) :
    NewSince first longer held := by
  obtain ⟨number, issuer, ⟨room, member, issued, same⟩, origin⟩ := new
  exact ⟨number, issuer, ⟨room, within member, issued, same⟩, origin.imp_left (.mono within)⟩

/-- What is known of a room in a history that began with an empty cache. -/
structure Renewed (first : Callers) (history : List (Callers × Move)) (room : Callers) : Prop where
  grown : first.cache.stored ≤ room.cache.stored
  busy : ∀ who, room.Busy who → BegunBy history who ∨ first.Busy who
  held : ∀ held, room.cache.held = some held → NewSince first history held
  given : ∀ who place held, first.places.length ≤ who → room.places[who]? = some place → place.given? = some held →
    NewSince first history held

theorem renewed_first (empty : first.cache.held = none) : Renewed first [] first where
  grown := Nat.le_refl _
  busy _ busy := .inr busy
  held held there := by
    rw [empty] at there
    cases there
  given who place held new stands := absurd (List.getElem?_eq_some_iff.mp stands).1 (Nat.not_lt.mpr new)

theorem Renewed.further (renewed : Renewed first history room) : Renewed first (history ++ [latest]) room where
  grown := renewed.grown
  busy who busy := (renewed.busy who busy).imp_left (.mono (List.subset_append_left ..))
  held held there := (renewed.held held there).mono (List.subset_append_left ..)
  given who place held new stands given :=
    (renewed.given who place held new stands given).mono (List.subset_append_left ..)

/-- A caller moves; what it has and what it does there has to be accounted for. -/
theorem Renewed.put (renewed : Renewed first history room) (who : Nat) (place : Place) (door : Option Nat)
    (busy : place.isBusy = true → BegunBy history who ∨ first.Busy who)
    (given : ∀ held, first.places.length ≤ who → place.given? = some held → NewSince first history held) :
    Renewed first history { room.put who place with door := door } where
  grown := renewed.grown
  busy other := by
    rintro ⟨there, stands, inside⟩
    rcases place_put stands with ⟨rfl, rfl⟩ | ⟨-, stands⟩
    · exact busy inside
    · exact renewed.busy other ⟨there, stands, inside⟩
  held := renewed.held
  given other there held new stands has := by
    rcases place_put stands with ⟨rfl, rfl⟩ | ⟨-, stands⟩
    · exact given held new has
    · exact renewed.given other there held new stands has

theorem Renewed.join (renewed : Renewed first history room) (idle : place.isBusy = false)
    (given : ∀ held, place.given? = some held → NewSince first history held) :
    Renewed first history (room.join place) where
  grown := renewed.grown
  busy other := by
    rintro ⟨there, stands, inside⟩
    rcases place_join stands with ⟨-, rfl⟩ | stands
    · rw [idle] at inside
      cases inside
    · exact renewed.busy other ⟨there, stands, inside⟩
  held := renewed.held
  given other there held new stands has := by
    rcases place_join stands with ⟨-, rfl⟩ | stands
    · exact given held has
    · exact renewed.given other there held new stands has

theorem isBusy_first (cache : Cache) (now : Instant) (jitter : Span) : (Place.first cache now jitter).isBusy = false := by
  unfold Place.first
  split <;> rfl

theorem given?_first {cache : Cache} {now : Instant} {jitter : Span}
    (given : (Place.first cache now jitter).given? = some held) : cache.held = some held := by
  unfold Place.first at given
  split at given
  · rename_i found usable
    cases given
    exact (Option.filter_eq_some_iff.mp usable).1
  · cases given

theorem isBusy_last (held : Option Held) : (Place.last held).isBusy = false := by
  cases held <;> rfl

theorem given?_last (held : Option Held) : (Place.last held).given? = held := by
  cases held <;> rfl

/-- What a caller stores is new: its exchange has begun since, or was on its way at first. -/
theorem Renewed.issued {token : AccessToken} (renewed : Renewed first history room)
    (stands : room.places[who]? = some (.issued token)) :
    NewSince first (history ++ [(room, .store who)]) ⟨token, room.cache.stored⟩ :=
  ⟨renewed.grown, who, ⟨room, List.mem_append_right _ (List.mem_singleton_self _), stands, rfl⟩,
    (renewed.busy who ⟨_, stands, rfl⟩).imp_left (.mono (List.subset_append_left ..))⟩

theorem Renewed.step (renewed : Renewed first history room) (step : Stepped room move next) :
    Renewed first (history ++ [(room, move)]) next := by
  have since : Renewed first (history ++ [(room, move)]) room := renewed.further
  cases step with
  | arrive now jitter =>
    exact since.join (isBusy_first ..) fun held given => since.held held (given?_first given)
  | @enter who seen => exact since.put who (.inside seen) (some who) nofun fun _ _ given => nomatch given
  | @reuse who _ held _ same =>
    refine since.put who (.leaving (some held)) room.door nofun fun other _ given => ?_
    cases given
    exact since.held held (Option.filter_eq_some_iff.mp same).1
  | @exchange who _ stands same =>
    have begun : BegunBy (history ++ [(room, .lookAgain who)]) who :=
      ⟨_, List.mem_append_right _ (List.mem_singleton_self _), rfl, begins_exchange stands same⟩
    exact since.put who .exchanging room.door (fun _ => .inl begun) fun _ _ given => nomatch given
  | @succeed who token stands =>
    exact since.put who (.issued token) room.door (fun _ => since.busy who ⟨_, stands, rfl⟩) fun _ _ given => nomatch given
  | @fail who => exact since.put who (.leaving none) room.door nofun fun _ _ given => nomatch given
  | @store who token stands =>
    have new := renewed.issued stands
    have moved := since.put who (.leaving (some ⟨token, room.cache.stored⟩)) room.door nofun fun held _ given => by
      cases given
      exact new
    refine ⟨Nat.le_succ_of_le moved.grown, moved.busy, fun held there => ?_, moved.given⟩
    cases there
    exact new
  | @leave who held stands =>
    refine since.put who (.last held) none (fun busy => ?_) fun other new given => ?_
    · rw [isBusy_last] at busy
      cases busy
    · rw [given?_last] at given
      exact since.given who _ other new stands given
  | @giveUp who => exact since.put who .dropped room.door nofun fun _ _ given => nomatch given
  | @abandon who => exact since.put who .dropped none nofun fun _ _ given => nomatch given
  | invalidate => exact ⟨since.grown, since.busy, fun _ there => (nomatch there), since.given⟩

theorem Ran.renewed (ran : Ran first history last) (empty : first.cache.held = none) : Renewed first history last := by
  induction ran with
  | nothing => exact renewed_first empty
  | further _ step ih => exact ih.step step

end NewSince

theorem Guarded.door_of_busy {room : Callers} {who : Nat} (guarded : room.Guarded) (busy : room.Busy who) :
    room.door = some who := by
  obtain ⟨place, stands, inside⟩ := busy
  refine (guarded who).mpr (.ofPlace stands ?_)
  cases place with
  | exchanging | issued token => rfl
  | _ => cases inside

theorem given?_of_returned? {place : Place} {held : Held} (returned : place.returned? = some held) :
    place.given? = some held := by
  cases place with
  | passed | handed => exact returned
  | _ => cases returned

/-- Whoever comes behind an invalidation is given no token that was stored before it. The exchange of the token given has
begun behind it, or was on its way then: it was that of the one caller behind the door. -/
theorem returned_since_invalidation {earlier later : List Move} {mid room : Callers}
    (before : start.run? earlier = some mid) (run : mid.run? (.invalidate :: later) = some room) {who : Nat}
    {place : Place} {held : Held} (new : mid.places.length ≤ who) (stands : room.places[who]? = some place)
    (returned : place.returned? = some held) :
    mid.cache.stored ≤ held.number ∧
      ∃ issuer, StoredBy (mid.history (.invalidate :: later)) issuer held ∧
        (BegunBy (mid.history (.invalidate :: later)) issuer ∨ mid.door = some issuer ∧ mid.Busy issuer) := by
  let emptied : Callers := { mid with cache := mid.cache.invalidate }
  have ran : Ran emptied (emptied.history later) room := .of_run run
  have renewed := (ran.renewed rfl).given who place held new stands (given?_of_returned? returned)
  have within : emptied.history later ⊆ mid.history (.invalidate :: later) := List.subset_cons_self ..
  obtain ⟨number, issuer, stored, origin⟩ := renewed.mono within
  have guarded : mid.Guarded := (Ran.of_run before).keeps Guarded.step guarded_start
  exact ⟨number, issuer, stored, origin.imp_right fun busy => ⟨guarded.door_of_busy busy, busy⟩⟩

/-- A caller exchanges, its token comes behind an invalidation, and another caller comes then. -/
def overtaken : List Move := [.arrive .epoch .zero, .enter 0, .lookAgain 0]

def overtaking : List Move := [.succeed 0 ⟨⟨"a"⟩, none⟩, .store 0, .leave 0, .arrive .epoch .zero]

/-- The callers when the token is invalidated. -/
def midway : Callers := ⟨.empty, some 0, [.exchanging]⟩

def late : Held := ⟨⟨⟨"a"⟩, none⟩, 0⟩

theorem run?_overtaking :
    midway.run? (.invalidate :: overtaking) = some ⟨⟨some late, 1⟩, none, [.handed late, .passed late]⟩ := rfl

theorem begins_overtaking : ∀ step ∈ midway.history (.invalidate :: overtaking), begins step = false := by decide

theorem returned_since_invalidation_overtaken :
    start.run? overtaken = some midway ∧ (∃ room, midway.run? (.invalidate :: overtaking) = some room ∧
      midway.places.length ≤ 1 ∧ room.places[1]? = some (.passed late)) ∧
      ∃ issuer, midway.door = some issuer ∧ midway.Busy issuer ∧
        StoredBy (midway.history (.invalidate :: overtaking)) issuer late := by
  have before : start.run? overtaken = some midway := rfl
  refine ⟨before, ⟨_, run?_overtaking, Nat.le_refl 1, rfl⟩, ?_⟩
  have new : midway.places.length ≤ 1 := Nat.le_refl 1
  obtain ⟨-, issuer, stored, ⟨step, member, _, begun⟩ | ⟨door, busy⟩⟩ :=
    returned_since_invalidation before run?_overtaking new rfl rfl
  · rw [begins_overtaking step member] at begun
    cases begun
  · exact ⟨issuer, door, busy, stored⟩

/-- A caller who comes behind an invalidation is given a token, and no exchange has begun since. -/
theorem not_begun_since_invalidation :
    start.run? overtaken = some midway ∧ ∃ room, midway.run? (.invalidate :: overtaking) = some room ∧
      midway.places.length ≤ 1 ∧ room.places[1]? = some (.passed late) ∧ (Place.passed late).returned? = some late ∧
      ∀ step ∈ midway.history (.invalidate :: overtaking), begins step = false :=
  ⟨rfl, _, run?_overtaking, Nat.le_refl 1, rfl, rfl, begins_overtaking⟩

end Callers

end AuthzClient.Token
