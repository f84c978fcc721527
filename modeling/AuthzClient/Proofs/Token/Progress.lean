import AuthzClient.Proofs.Token.Steps

/-!
Every caller has a few steps to make and makes each of them once. Nobody waits for ever: as long as a caller is not
gone, somebody can make a step without being dropped.
-/

namespace AuthzClient.Token

namespace Place

/-- The number of steps that a caller can still make at most. -/
def remaining : Place → Nat
  | waiting _ => 5
  | inside _ => 4
  | exchanging => 3
  | issued _ => 2
  | leaving _ => 1
  | passed _ | handed _ | failed | dropped => 0

def total : List Place → Nat
  | [] => 0
  | place :: rest => place.remaining + total rest

theorem remaining_first_le (cache : Cache) (now : Instant) (jitter : Span) :
    (first cache now jitter).remaining ≤ 5 := by
  unfold first
  split
  · exact Nat.zero_le 5
  · exact Nat.le_refl 5

theorem remaining_last (held : Option Held) : (last held).remaining = 0 := by
  cases held <;> rfl

theorem remaining_of_gone {place : Place} (gone : place.isGone = true) : place.remaining = 0 := by
  cases place with
  | passed | handed | failed | dropped => rfl
  | _ => cases gone

theorem total_concat (places : List Place) (place : Place) :
    total (places ++ [place]) = total places + place.remaining := by
  induction places with
  | nil => exact Nat.add_comm _ _
  | cons head tail ih =>
    simp only [List.cons_append, total]
    omega

theorem total_set {places : List Place} {i : Nat} {old : Place} (found : places[i]? = some old) (place : Place) :
    total (places.set i place) + old.remaining = total places + place.remaining := by
  induction places generalizing i with
  | nil => cases found
  | cons head tail ih =>
    cases i with
    | zero =>
      cases found
      simp only [List.set_cons_zero, total]
      omega
    | succ i =>
      have := ih found
      simp only [List.set_cons_succ, total]
      omega

theorem total_of_gone {places : List Place} (gone : ∀ place ∈ places, place.isGone = true) : total places = 0 := by
  induction places with
  | nil => rfl
  | cons head tail ih =>
    rw [List.forall_mem_cons] at gone
    rw [total, remaining_of_gone gone.1, ih gone.2]

end Place

/-- The caller who makes a move, if it was there before. -/
def Move.who? : Move → Option Nat
  | enter who | lookAgain who | succeed who _ | fail who | store who | leave who | drop who => some who
  | arrive .. | invalidate => none

/-- Whether a move is a step of a caller who goes on. -/
def Move.isTurn : Move → Bool
  | enter _ | lookAgain _ | succeed .. | fail _ | store _ | leave _ => true
  | arrive .. | drop _ | invalidate => false

namespace Callers

/-- Everyone is gone. -/
def Settled (room : Callers) : Prop := ∀ place ∈ room.places, place.isGone = true

instance (room : Callers) : Decidable room.Settled :=
  inferInstanceAs (Decidable (∀ place ∈ room.places, place.isGone = true))

/-- Nobody can go on. -/
def Idle (room : Callers) : Prop := ∀ move, move.isTurn = true → room.step? move = none

def remaining (room : Callers) : Nat := Place.total room.places

section Remaining

variable {room next last : Callers} {move : Move} {who other : Nat} {place old : Place}

theorem remaining_join : (room.join place).remaining = room.remaining + place.remaining :=
  Place.total_concat room.places place

theorem remaining_put (stands : room.places[who]? = some old) :
    (room.put who place).remaining + old.remaining = room.remaining + place.remaining :=
  Place.total_set stands place

/-- A step of a caller brings it, and nobody else, to a place with fewer steps to go. -/
theorem places_step (step : Stepped room move next) :
    (∃ now jitter, move = .arrive now jitter ∧ next = room.join (.first room.cache now jitter)) ∨
      (move = .invalidate ∧ next.places = room.places) ∨
      ∃ who old place, move.who? = some who ∧ room.places[who]? = some old ∧
        next.places = (room.put who place).places ∧ place.remaining < old.remaining := by
  cases step with
  | arrive now jitter => exact .inl ⟨now, jitter, rfl, rfl⟩
  | invalidate => exact .inr (.inl ⟨rfl, rfl⟩)
  | succeed token stands => exact .inr (.inr ⟨_, _, _, rfl, stands, rfl, by simp [Place.remaining]⟩)
  | leave stands => exact .inr (.inr ⟨_, _, _, rfl, stands, rfl, by rw [Place.remaining_last]; simp [Place.remaining]⟩)
  | enter stands | reuse stands | exchange stands | fail stands | store stands | giveUp stands | abandon stands =>
    exact .inr (.inr ⟨_, _, _, rfl, stands, rfl, by simp [Place.remaining]⟩)

/-- The place of a caller after a step of somebody: the same one, or one with fewer steps to go if the step was its
own. -/
theorem place_step (step : Stepped room move next) (stands : room.places[who]? = some old) :
    ∃ place, next.places[who]? = some place ∧
      if move.who? = some who then place.remaining < old.remaining else place = old := by
  rcases places_step step with ⟨now, jitter, rfl, rfl⟩ | ⟨rfl, same⟩ | ⟨mover, _, place, own, there, same, less⟩
  · exact ⟨old, place_join_old stands, rfl⟩
  · exact ⟨old, same ▸ stands, rfl⟩
  · rw [own, same]
    by_cases this : mover = who
    · subst this
      cases there.symm.trans stands
      exact ⟨place, place_put_self stands, by simpa using less⟩
    · exact ⟨old, (place_put_of_ne this).trans stands, by simp [this]⟩

/-- Each step but an invalidation uses up one of the at most six that each caller has, its first look counted. -/
theorem remaining_step (step : Stepped room move next) (kept : move ≠ .invalidate) :
    next.remaining + 6 * room.places.length < room.remaining + 6 * next.places.length := by
  rcases places_step step with ⟨now, jitter, -, rfl⟩ | ⟨rfl, -⟩ | ⟨who, old, place, -, stands, same, less⟩
  · have := Place.remaining_first_le room.cache now jitter
    rw [remaining_join, length_join]
    omega
  · exact absurd rfl kept
  · have balance : (room.put who place).remaining + old.remaining = room.remaining + place.remaining :=
      remaining_put stands
    have moved : next.remaining = (room.put who place).remaining := by rw [remaining, same, remaining]
    rw [moved, same, length_put]
    omega

theorem Ran.length_le {history : List (Callers × Move)} (ran : Ran room history last)
    (kept : ∀ step ∈ history, step.2 ≠ .invalidate) :
    history.length + last.remaining + 6 * room.places.length ≤ room.remaining + 6 * last.places.length := by
  induction ran with
  | nothing => simp
  | further before step ih =>
    rw [List.forall_mem_append] at kept
    have := ih kept.1
    have := remaining_step step (kept.2 _ (List.mem_singleton_self _))
    rw [List.length_append, List.length_singleton]
    omega

theorem remaining_of_settled (settled : room.Settled) : room.remaining = 0 := Place.total_of_gone settled

end Remaining

section Idle

variable {room : Callers} {who : Nat}

/-- Whoever stands behind the door can go on. -/
theorem not_behind_of_idle (idle : room.Idle) : ¬ room.Behind who := by
  rintro ⟨place, stands, inside⟩
  cases place with
  | inside seen => simpa [step?, stands] using idle (.lookAgain who) rfl
  | exchanging => simpa [step?, stands] using idle (.fail who) rfl
  | issued token => simpa [step?, stands] using idle (.store who) rfl
  | leaving held => simpa [step?, stands] using idle (.leave who) rfl
  | _ => cases inside

/-- When nobody can go on everyone is gone. -/
theorem settled_of_idle (guarded : room.Guarded) (idle : room.Idle) : room.Settled := by
  intro place member
  obtain ⟨who, stands⟩ := List.getElem?_of_mem member
  have free : room.door = none := by
    cases door : room.door with
    | none => rfl
    | some other => exact absurd ((guarded other).mp door) (not_behind_of_idle idle)
  cases outside : place.isBehind with
  | true => exact absurd (.ofPlace stands outside) (not_behind_of_idle idle)
  | false =>
    cases place with
    | waiting seen => simpa [step?, stands, free] using idle (.enter who) rfl
    | passed | handed | failed | dropped => rfl
    | _ => cases outside

theorem idle_of_settled (settled : room.Settled) : room.Idle := by
  have gone : ∀ {who : Nat} {place : Place}, room.places[who]? = some place → place.isGone = true := fun stands =>
    settled _ (List.mem_of_getElem? stands)
  intro move turn
  cases made : room.step? move with
  | none => rfl
  | some next =>
    cases stepped made with
    | arrive | giveUp | abandon | invalidate => cases turn
    | succeed token stands => cases gone stands
    | _ stands => cases gone stands

end Idle

end Callers

end AuthzClient.Token
