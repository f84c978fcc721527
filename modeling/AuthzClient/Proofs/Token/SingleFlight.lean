import AuthzClient.Proofs.Token.Freshness
import AuthzClient.Proofs.Token.Progress

/-!
At most one exchange is on its way, and callers who have found the same useless slot share one exchange that succeeds.
-/

namespace AuthzClient.Token.Callers

/-- Whether an exchange begins with a step of a history. -/
def begins (step : Callers × Move) : Bool :=
  match step.2 with
  | .lookAgain who => (step.1.step? step.2).any fun next => next.places[who]? = some .exchanging
  | _ => false

/-- A step of callers who come to a room together: nobody invalidates the token, and who arrives finds the one that was
there at first, or none, and cannot use it. -/
def Calm (room : Callers) (step : Callers × Move) : Prop :=
  match step.2 with
  | .arrive now jitter => step.1.cache.held = room.cache.held ∧ step.1.cache.usable? now jitter = none
  | .invalidate => False
  | _ => True

instance (room : Callers) (step : Callers × Move) : Decidable (room.Calm step) :=
  match step with
  | (_, .arrive ..) => inferInstanceAs (Decidable (_ ∧ _))
  | (_, .invalidate) => inferInstanceAs (Decidable False)
  | (_, .enter _) | (_, .lookAgain _) | (_, .succeed ..) | (_, .fail _) | (_, .store _) | (_, .leave _)
  | (_, .drop _) => inferInstanceAs (Decidable True)

/-- Callers who come to a room together, when all others are gone. -/
structure Together (room : Callers) (history : List (Callers × Move)) : Prop where
  alone : room.Settled
  calm : ∀ step ∈ history, room.Calm step

/-- The first exchange of a history is the one of a caller, and it succeeds. -/
def FirstSuccess (history : List (Callers × Move)) (first : Nat) (token : AccessToken) : Prop :=
  ∃ earlier mid later, history = earlier ++ (mid, .lookAgain first) :: later ∧
    (∀ step ∈ earlier, begins step = false) ∧ begins (mid, .lookAgain first) = true ∧
    ∃ room, (room, .succeed first token) ∈ later

theorem begins_exchange {room : Callers} {who : Nat} {seen : Option Nat}
    (stands : room.places[who]? = some (.inside seen)) (same : room.cache.renewed? seen = none) :
    begins (room, .lookAgain who) = true := by
  have there : (room.put who .exchanging).places[who]? = some .exchanging := place_put_self stands
  simp [begins, step?, stands, Place.second, same, there]

theorem begins_reuse {room : Callers} {who : Nat} {seen : Option Nat} {held : Held}
    (stands : room.places[who]? = some (.inside seen)) (renewed : room.cache.renewed? seen = some held) :
    begins (room, .lookAgain who) = false := by
  have there : (room.put who (.leaving (some held))).places[who]? = some (.leaving (some held)) := place_put_self stands
  simp [begins, step?, stands, Place.second, renewed, there]

/-- A step of a run that makes its caller exchange comes from behind the door, and the slot is the one it has seen. -/
theorem exchange_of_begins {room next : Callers} {who : Nat} (step : Stepped room (.lookAgain who) next)
    (begun : begins (room, .lookAgain who) = true) :
    ∃ seen, room.places[who]? = some (.inside seen) ∧ room.cache.renewed? seen = none ∧
      next = room.put who .exchanging := by
  cases step with
  | exchange stands same => exact ⟨_, stands, same, rfl⟩
  | reuse stands renewed => simp [begins_reuse stands renewed] at begun

/-- Whoever was there at first is gone, and whoever has come since stands at a place of a kind. -/
def Newcomers (room : Callers) (kind : Nat → Place → Prop) (mid : Callers) : Prop :=
  ∀ (who : Nat) (place : Place), mid.places[who]? = some place →
    place.isGone = true ∧ who < room.places.length ∨ room.places.length ≤ who ∧ kind who place

section Newcomers

variable {room mid : Callers} {kind after : Nat → Place → Prop} {who : Nat} {place old new : Place}

theorem newcomers_first (settled : room.Settled) : room.Newcomers kind room := fun _ place stands =>
  .inl ⟨settled place (List.mem_of_getElem? stands), (List.getElem?_eq_some_iff.mp stands).1⟩

theorem Newcomers.present (newcomers : room.Newcomers kind mid) (stands : mid.places[who]? = some place)
    (here : place.isGone = false) : room.places.length ≤ who ∧ kind who place := by
  rcases newcomers who place stands with ⟨gone, -⟩ | new
  · rw [here] at gone
    cases gone
  · exact new

theorem Newcomers.imp (newcomers : room.Newcomers kind mid)
    (weaker : ∀ who place, kind who place → after who place) : room.Newcomers after mid :=
  fun who place stands => (newcomers who place stands).imp_right (.imp_right (weaker who place))

theorem Newcomers.join (newcomers : room.Newcomers kind mid) (grown : room.places.length ≤ mid.places.length)
    (new : kind mid.places.length place) : room.Newcomers kind (mid.join place) := by
  intro who there stands
  rcases place_join stands with ⟨rfl, rfl⟩ | stands
  · exact .inr ⟨grown, new⟩
  · exact newcomers who there stands

theorem Newcomers.put (newcomers : room.Newcomers kind mid) (stands : mid.places[who]? = some old)
    (here : old.isGone = false) (moved : kind who new) : room.Newcomers kind (mid.put who new) := by
  intro other there stands'
  rcases place_put stands' with ⟨rfl, rfl⟩ | ⟨-, stands'⟩
  · exact .inr ⟨(newcomers.present stands here).1, moved⟩
  · exact newcomers other there stands'

end Newcomers

theorem Calm.kept {room : Callers} {step : Callers × Move} (calm : room.Calm step) : step.2 ≠ .invalidate := by
  intro same
  rwa [Calm, same] at calm

def Ungranted (seen : Option Nat) (_ : Nat) (place : Place) : Prop :=
  place = .waiting seen ∨ place = .inside seen ∨ place = .dropped

/-- Before the first exchange begins: the cache is as it was, and everyone waits, has just come in or was dropped. -/
structure Gathered (room mid : Callers) : Prop where
  cache : mid.cache = room.cache
  grown : room.places.length ≤ mid.places.length
  places : room.Newcomers (Ungranted room.cache.mark) mid

theorem Gathered.first {room : Callers} (settled : room.Settled) : room.Gathered room :=
  ⟨rfl, Nat.le_refl _, newcomers_first settled⟩

section Gathered

variable {room mid next : Callers} {move : Move} {who : Nat} {place : Place}

theorem Gathered.seen (gathered : room.Gathered mid) {seen : Option Nat}
    (stands : mid.places[who]? = some (.inside seen)) : seen = room.cache.mark := by
  rcases (gathered.places.present stands rfl).2 with ⟨⟨⟩⟩ | same | ⟨⟨⟩⟩
  exact Place.inside.inj same

/-- Until the first exchange begins nobody is further than before the second look. -/
theorem Gathered.early (gathered : room.Gathered mid) (stands : mid.places[who]? = some place)
    (here : place.isGone = false) : 4 ≤ place.remaining := by
  rcases (gathered.places.present stands here).2 with rfl | rfl | rfl
  · simp [Place.remaining]
  · simp [Place.remaining]
  · cases here

theorem Gathered.step (gathered : room.Gathered mid) (step : Stepped mid move next) (calm : room.Calm (mid, move))
    (quiet : begins (mid, move) = false) : room.Gathered next := by
  have ⟨cache, grown, places⟩ := gathered
  cases step with
  | arrive now jitter =>
    obtain ⟨-, useless⟩ := calm
    refine ⟨cache, Nat.le_trans grown (by simp), places.join grown (.inl ?_)⟩
    rw [Place.first, useless, cache]
  | enter stands =>
    rcases (gathered.places.present stands rfl).2 with ⟨⟨⟩⟩ | ⟨⟨⟩⟩ | ⟨⟨⟩⟩
    exact ⟨cache, by simpa using grown, places.put stands rfl (.inr (.inl rfl))⟩
  | reuse stands renewed =>
    cases gathered.seen stands
    rw [cache, Cache.renewed?_mark] at renewed
    cases renewed
  | exchange stands same => rw [begins_exchange stands same] at quiet; cases quiet
  | giveUp stands => exact ⟨cache, by simpa using grown, places.put stands rfl (.inr (.inr rfl))⟩
  | invalidate => exact absurd rfl calm.kept
  | succeed token stands => exact absurd (gathered.early stands rfl) (by simp [Place.remaining])
  | fail stands | store stands | leave stands | abandon stands =>
    exact absurd (gathered.early stands rfl) (by simp [Place.remaining])

end Gathered

/-- While the first exchange is on its way or its token is not stored yet: the cache is as it was, and the others wait,
have just come or were dropped. -/
structure Flying (room : Callers) (first : Nat) (busy : Place) (mid : Callers) : Prop where
  cache : mid.cache = room.cache
  grown : room.places.length ≤ mid.places.length
  stands : mid.places[first]? = some busy
  places : room.Newcomers (fun who place => who = first ∨ Ungranted room.cache.mark who place) mid

section Flying

variable {room mid next : Callers} {move : Move} {first who : Nat} {busy place : Place} {token : AccessToken}

/-- Only the one who exchanges is behind the door. -/
theorem Guarded.alone (guarded : mid.Guarded) (stands : mid.places[first]? = some busy) (inside : busy.isBehind = true)
    (stands' : mid.places[who]? = some place) (inside' : place.isBehind = true) : first = who := by
  have here : mid.door = some first := (guarded first).mpr (.ofPlace stands inside)
  have there : mid.door = some who := (guarded who).mpr (.ofPlace stands' inside')
  exact Option.some.inj (here.symm.trans there)

/-- A step of another caller leaves the exchange on its way, and begins no other one. -/
theorem Flying.step (flying : room.Flying first busy mid) (inside : busy.isBehind = true) (guarded : mid.Guarded)
    (step : Stepped mid move next) (calm : room.Calm (mid, move)) (foreign : move.who? ≠ some first) :
    room.Flying first busy next ∧ begins (mid, move) = false := by
  have ⟨cache, grown, stands, places⟩ := flying
  have outside : ∀ {who : Nat} {place : Place}, mid.places[who]? = some place → move.who? = some who →
      place.isBehind = false := by
    intro who place found own
    cases there : place.isBehind with
    | false => rfl
    | true => exact absurd (own.trans (congrArg some (guarded.alone stands inside found there).symm)) foreign
  cases step with
  | arrive now jitter =>
    obtain ⟨-, useless⟩ := calm
    refine ⟨⟨cache, Nat.le_trans grown (by simp), place_join_old stands, places.join grown (.inr (.inl ?_))⟩, rfl⟩
    rw [Place.first, useless, cache]
  | enter _ free =>
    have here := (guarded first).mpr (.ofPlace stands inside)
    rw [free] at here
    cases here
  | giveUp found =>
    have different := fun same => foreign (congrArg some same)
    exact ⟨⟨cache, by simpa using grown, (place_put_of_ne different).trans stands,
      places.put found rfl (.inr (.inr (.inr rfl)))⟩, rfl⟩
  | invalidate => exact absurd rfl calm.kept
  | succeed _ found => cases outside found rfl
  | reuse found | exchange found | fail found | store found | leave found | abandon found => cases outside found rfl

/-- The first exchange begins when the caller who is behind the door has looked again. -/
theorem Gathered.begin (gathered : room.Gathered mid) (stands : mid.places[first]? = some place)
    (here : place.isGone = false) : room.Flying first .exchanging (mid.put first .exchanging) where
  cache := gathered.cache
  grown := by simpa using gathered.grown
  stands := place_put_self stands
  places := (gathered.places.imp fun _ _ => .inr).put stands here (.inl rfl)

theorem Flying.succeed (flying : room.Flying first .exchanging mid) (step : Stepped mid (.succeed first token) next) :
    room.Flying first (.issued token) next := by
  have ⟨cache, grown, stands, places⟩ := flying
  cases step with
  | succeed => exact ⟨cache, by simpa using grown, place_put_self stands, places.put stands rfl (.inl rfl)⟩

end Flying

/-- The token that callers share, under the number that it gets. -/
def shared (room : Callers) (token : AccessToken) : Held := ⟨token, room.cache.stored⟩

def Granted (room : Callers) (token : AccessToken) (_ : Nat) (place : Place) : Prop :=
  place = .waiting room.cache.mark ∨ place = .inside room.cache.mark ∨ place = .leaving (some (room.shared token)) ∨
    place = .handed (room.shared token) ∨ place = .dropped

/-- Behind the exchange: the cache holds the new token, and whoever comes in is handed that one. -/
structure Served (room : Callers) (token : AccessToken) (mid : Callers) : Prop where
  cache : mid.cache = room.cache.store token
  places : room.Newcomers (room.Granted token) mid

section Served

variable {room mid next : Callers} {move : Move} {first who : Nat} {place : Place} {token : AccessToken}

theorem Ungranted.granted (ungranted : Ungranted room.cache.mark who place) : room.Granted token who place := by
  rcases ungranted with same | same | same
  · exact .inl same
  · exact .inr (.inl same)
  · exact .inr (.inr (.inr (.inr same)))

/-- The one who exchanged stores the token before it does anything else. -/
theorem Flying.store (flying : room.Flying first (.issued token) mid) (step : Stepped mid move next)
    (own : move.who? = some first) : room.Served token next ∧ begins (mid, move) = false := by
  have ⟨cache, grown, stands, places⟩ := flying
  cases step with
  | store stands' =>
    cases own
    cases stands.symm.trans stands'
    refine ⟨⟨congrArg (Cache.store token) cache, fun other there found => ?_⟩, rfl⟩
    rcases place_put found with ⟨rfl, rfl⟩ | ⟨different, found⟩
    · rw [cache]
      exact .inr ⟨(places.present stands rfl).1, .inr (.inr (.inl rfl))⟩
    · rcases places other there found with old | ⟨new, same | ungranted⟩
      · exact .inl old
      · exact absurd same different
      · exact .inr ⟨new, ungranted.granted⟩
  | arrive => cases own
  | invalidate => cases own
  | _ => cases own; cases stands.symm.trans ‹_›

theorem Served.renewed (served : room.Served token mid) (numbered : room.Numbered) :
    mid.cache.renewed? room.cache.mark = some (room.shared token) := by
  have other : some room.cache.stored ≠ room.cache.mark := by
    intro same
    obtain ⟨held, there, number⟩ := Option.map_eq_some_iff.mp same.symm
    have := numbered held there
    omega
  rw [served.cache]
  simp [Cache.renewed?, Cache.store, shared, other]

/-- Once the token is stored nobody who has come since exchanges. -/
theorem Served.spared (served : room.Served token mid) (stands : mid.places[who]? = some place)
    (here : place.isGone = false) : 4 ≤ place.remaining ∨ place.remaining ≤ 1 := by
  rcases (served.places.present stands here).2 with rfl | rfl | rfl | rfl | rfl
  · exact .inl (by simp [Place.remaining])
  · exact .inl (by simp [Place.remaining])
  · exact .inr (by simp [Place.remaining])
  · exact .inr (by simp [Place.remaining])
  · exact .inr (by simp [Place.remaining])

/-- Once the token is stored it is found by everyone who comes in, and no exchange begins. -/
theorem Served.step (served : room.Served token mid) (numbered : room.Numbered) (step : Stepped mid move next)
    (calm : room.Calm (mid, move)) : room.Served token next ∧ begins (mid, move) = false := by
  have ⟨cache, places⟩ := served
  have seen : ∀ {who : Nat} {seen : Option Nat}, mid.places[who]? = some (.inside seen) → seen = room.cache.mark := by
    intro who seen stands
    rcases (places.present stands rfl).2 with ⟨⟨⟩⟩ | same | ⟨⟨⟩⟩ | ⟨⟨⟩⟩ | ⟨⟨⟩⟩
    exact Place.inside.inj same
  cases step with
  | arrive now jitter =>
    obtain ⟨same, -⟩ := calm
    rw [cache] at same
    exact absurd (numbered _ same.symm) (Nat.lt_irrefl _)
  | enter stands =>
    rcases (places.present stands rfl).2 with ⟨⟨⟩⟩ | ⟨⟨⟩⟩ | ⟨⟨⟩⟩ | ⟨⟨⟩⟩ | ⟨⟨⟩⟩
    exact ⟨⟨cache, places.put stands rfl (.inr (.inl rfl))⟩, rfl⟩
  | reuse stands renewed =>
    cases seen stands
    cases (served.renewed numbered).symm.trans renewed
    exact ⟨⟨cache, places.put stands rfl (.inr (.inr (.inl rfl)))⟩, begins_reuse stands renewed⟩
  | exchange stands same =>
    cases seen stands
    cases (served.renewed numbered).symm.trans same
  | leave stands =>
    rcases (places.present stands rfl).2 with ⟨⟨⟩⟩ | ⟨⟨⟩⟩ | ⟨⟨⟩⟩ | ⟨⟨⟩⟩ | ⟨⟨⟩⟩
    exact ⟨⟨cache, places.put stands rfl (.inr (.inr (.inr (.inl rfl))))⟩, rfl⟩
  | giveUp stands => exact ⟨⟨cache, places.put stands rfl (.inr (.inr (.inr (.inr rfl))))⟩, rfl⟩
  | invalidate => exact absurd rfl calm.kept
  | succeed _ stands => exact absurd (served.spared stands rfl) (by simp [Place.remaining])
  | fail stands | store stands | abandon stands => exact absurd (served.spared stands rfl) (by simp [Place.remaining])

end Served

section Runs

variable {room mid last : Callers} {history : List (Callers × Move)} {first who : Nat} {token : AccessToken}

theorem Ran.gathered (ran : Ran room history last) (settled : room.Settled)
    (calm : ∀ step ∈ history, room.Calm step) (quiet : ∀ step ∈ history, begins step = false) :
    room.Gathered last := by
  induction ran with
  | nothing => exact .first settled
  | further before step ih =>
    rw [List.forall_mem_append] at calm quiet
    exact (ih calm.1 quiet.1).step step (calm.2 _ (List.mem_singleton_self _)) (quiet.2 _ (List.mem_singleton_self _))

/-- Until the first exchange has an end nothing else begins. -/
theorem Ran.flying (ran : Ran mid history last) (flying : room.Flying first .exchanging mid) (guarded : mid.Guarded)
    (calm : ∀ step ∈ history, room.Calm step) :
    (room.Flying first .exchanging last ∧ ∀ step ∈ history, begins step = false) ∨
      ∃ place, last.places[first]? = some place ∧ place.remaining < 3 := by
  induction ran with
  | nothing => exact .inl ⟨flying, by rintro step ⟨⟩⟩
  | @further history before last move ran step ih =>
    rw [List.forall_mem_append] at calm
    rcases ih calm.1 with ⟨flying, quiet⟩ | ⟨place, stands, less⟩
    · by_cases own : move.who? = some first
      · obtain ⟨place, stands, less⟩ := place_step step flying.stands
        rw [if_pos own] at less
        exact .inr ⟨place, stands, less⟩
      · have guarded := ran.keeps Guarded.step guarded
        obtain ⟨flying, now⟩ := flying.step rfl guarded step (calm.2 _ (List.mem_singleton_self _)) own
        refine .inl ⟨flying, List.forall_mem_append.mpr ⟨quiet, ?_⟩⟩
        simpa using now
    · obtain ⟨after, stands, moved⟩ := place_step step stands
      refine .inr ⟨after, stands, ?_⟩
      split at moved
      · omega
      · rwa [moved]

/-- From the success of the first exchange on nothing else begins. -/
theorem Ran.served (ran : Ran mid history last) (flying : room.Flying first (.issued token) mid) (guarded : mid.Guarded)
    (numbered : room.Numbered) (calm : ∀ step ∈ history, room.Calm step) :
    (room.Flying first (.issued token) last ∨ room.Served token last) ∧ ∀ step ∈ history, begins step = false := by
  induction ran with
  | nothing => exact ⟨.inl flying, by rintro step ⟨⟩⟩
  | @further history before last move ran step ih =>
    rw [List.forall_mem_append] at calm
    obtain ⟨phase, quiet⟩ := ih calm.1
    have calm := calm.2 _ (List.mem_singleton_self _)
    have now : (room.Flying first (.issued token) last ∨ room.Served token last) ∧ begins (before, move) = false := by
      rcases phase with flying | served
      · by_cases own : move.who? = some first
        · exact (flying.store step own).imp_left .inr
        · exact (flying.step rfl (ran.keeps Guarded.step guarded) step calm own).imp_left .inl
      · exact (served.step numbered step calm).imp_left .inr
    exact ⟨now.1, List.forall_mem_append.mpr ⟨quiet, by simpa using now.2⟩⟩

theorem dropped_step {next : Callers} {move : Move} (step : Stepped mid move next)
    (dropped : next.places[who]? = some .dropped) : mid.places[who]? = some .dropped ∨ move = .drop who := by
  have unmoved : ∀ {mover : Nat} {place : Place}, place ≠ .dropped →
      (mid.put mover place).places[who]? = some .dropped → mid.places[who]? = some .dropped := by
    intro mover place different found
    rcases place_put found with ⟨-, same⟩ | ⟨-, found⟩
    · exact absurd same.symm different
    · exact found
  cases step with
  | arrive now jitter =>
    rcases place_join dropped with ⟨-, same⟩ | found
    · unfold Place.first at same
      split at same <;> cases same
    · exact .inl found
  | giveUp => exact (place_put dropped).elim (fun this => .inr (by rw [this.1])) fun this => .inl this.2
  | abandon => exact (place_put dropped).elim (fun this => .inr (by rw [this.1])) fun this => .inl this.2
  | @leave mover held => exact .inl (unmoved (by cases held <;> simp [Place.last]) dropped)
  | invalidate => exact .inl dropped
  | _ => exact .inl (unmoved (by simp) dropped)

/-- Whoever is dropped in a run is dropped by one of its moves. -/
theorem Ran.dropped (ran : Ran room history last) (absent : room.places.length ≤ who)
    (dropped : last.places[who]? = some .dropped) : ∃ mid, (mid, .drop who) ∈ history := by
  induction ran with
  | nothing => rw [List.getElem?_eq_none absent] at dropped; cases dropped
  | @further history before last move ran step ih =>
    rcases dropped_step step dropped with found | rfl
    · obtain ⟨mid, member⟩ := ih found
      exact ⟨mid, List.mem_append_left _ member⟩
    · exact ⟨before, List.mem_append_right _ (List.mem_singleton_self _)⟩

theorem countP_begins_eq_zero (quiet : ∀ step ∈ history, begins step = false) : history.countP begins = 0 :=
  List.countP_eq_zero.mpr fun step member => by simp [quiet step member]

/-- Callers who come together, the first of whose exchanges succeeds: no other exchange begins, and in the end the token
is stored, or the one who has it is about to store it. -/
theorem Ran.once (ran : Ran room history last) (guarded : room.Guarded) (numbered : room.Numbered)
    (together : room.Together history) (success : FirstSuccess history first token) :
    history.countP begins = 1 ∧ (room.Flying first (.issued token) last ∨ room.Served token last) := by
  obtain ⟨earlier, mid, later, rfl, quiet, begun, there, member⟩ := success
  obtain ⟨during, after, rfl⟩ := List.append_of_mem member
  have calm : ∀ step ∈ earlier ++ (mid, Move.lookAgain first) :: (during ++ (there, .succeed first token) :: after),
      room.Calm step := together.calm
  simp only [List.forall_mem_append, List.forall_mem_cons] at calm
  obtain ⟨calm_earlier, -, calm_during, -, calm_after⟩ := calm
  obtain ⟨before, next, step, onward⟩ := ran.split rfl
  obtain ⟨flight, issued, succeeded, rest⟩ := onward.split rfl
  obtain ⟨seen, stands, -, rfl⟩ := exchange_of_begins step begun
  have gathered := before.gathered together.alone calm_earlier quiet
  have guarded := (before.keeps Guarded.step guarded).step step
  rcases flight.flying (gathered.begin stands rfl) guarded calm_during with
    ⟨flying, quiet_during⟩ | ⟨place, stands, less⟩
  · have guarded := (flight.keeps Guarded.step guarded).step succeeded
    obtain ⟨phase, quiet_after⟩ := rest.served (flying.succeed succeeded) guarded numbered calm_after
    refine ⟨?_, phase⟩
    have silent : begins (there, .succeed first token) = false := rfl
    simp [List.countP_append, begun, silent, countP_begins_eq_zero quiet, countP_begins_eq_zero quiet_during,
      countP_begins_eq_zero quiet_after]
  · cases succeeded with
    | succeed _ stands' =>
      cases stands.symm.trans stands'
      simp [Place.remaining] at less

/-- When nobody can go on the callers who came together have the token, unless they were dropped. -/
theorem handed_of_idle (ran : Ran room history last) (guarded : last.Guarded)
    (phase : room.Flying first (.issued token) last ∨ room.Served token last) (idle : last.Idle)
    (new : room.places.length ≤ who) (present : who < last.places.length)
    (patient : ∀ mid, (mid, .drop who) ∉ history) : last.places[who]? = some (.handed (room.shared token)) := by
  rcases phase with flying | served
  · simpa [step?, flying.stands] using idle (.store first) rfl
  · have stands := List.getElem?_eq_getElem present
    have gone := settled_of_idle guarded idle _ (List.mem_of_getElem? stands)
    rcases served.places who _ stands with ⟨-, old⟩ | ⟨-, kind⟩
    · omega
    · rcases kind with same | same | same | same | same
      · rw [same] at gone; cases gone
      · rw [same] at gone; cases gone
      · rw [same] at gone; cases gone
      · rw [stands, same]
      · obtain ⟨mid, member⟩ := ran.dropped new (stands.trans (congrArg some same))
        exact absurd member (patient mid)

end Runs

/-- A caller begins an exchange only if no token was stored since it came, or none after the last invalidation. -/
theorem begins_late {history : List (Callers × Move)} {room : Callers} (ran : Ran start history room) {who : Nat}
    (begun : begins (room, .lookAgain who) = true) :
    ∃ visit : Visit history who, visit.usable? = none ∧ (Storeless visit.since ∨ Invalidated visit.since) := by
  obtain ⟨next, made⟩ : ∃ next, room.step? (.lookAgain who) = some next := by
    cases made : room.step? (.lookAgain who) with
    | none => simp [begins, made] at begun
    | some next => exact ⟨next, rfl⟩
  obtain ⟨seen, stands, same, -⟩ := exchange_of_begins (stepped made) begun
  obtain ⟨visit, knows, useless, rfl⟩ := explained ran who _ stands
  refine ⟨visit, useless, ?_⟩
  rcases knows.kept with storeless | invalidated | ⟨held, there, stored⟩
  · exact .inl storeless
  · exact .inr invalidated
  · -- A token stored since and still there would be found.
    have number : some held.number = visit.arrival.cache.mark := by
      simpa [Cache.renewed?, there, Option.filter] using same
    obtain ⟨old, found, equal⟩ := Option.map_eq_some_iff.mp number.symm
    have := knows.taken old found
    have := knows.late held stored
    omega

/-- At most one exchange is on its way at any moment. A caller begins one only if no token was stored since the caller
came, or none after the last invalidation. Callers who come together to a useless slot, the first of whose exchanges
succeeds, need no other one; they can make no more than six moves each, their first looks counted, and when nobody can
go on each of them who was not dropped has been handed the token of that exchange. -/
theorem single_flight {moves : List Move} {room : Callers} (run : start.run? moves = some room) :
    (∀ who other : Nat, room.places[who]? = some .exchanging → room.places[other]? = some .exchanging → who = other) ∧
    (∀ who, begins (room, .lookAgain who) = true → ∃ visit : Visit (start.history moves) who,
      visit.usable? = none ∧ (Storeless visit.since ∨ Invalidated visit.since)) ∧
    (∀ together last, room.run? together = some last → room.Together (room.history together) →
      ∀ first token, FirstSuccess (room.history together) first token →
        (room.history together).countP begins = 1 ∧
        together.length ≤ 6 * (last.places.length - room.places.length) ∧
        (last.Idle → ∀ who, room.places.length ≤ who → who < last.places.length →
          .drop who ∉ together → last.places[who]? = some (.handed (room.shared token)))) := by
  have ran := Ran.of_run run
  have guarded := ran.keeps Guarded.step guarded_start
  have numbered := ran.keeps Numbered.step numbered_start
  refine ⟨fun who other here there => guarded.alone here rfl there rfl, fun who begun => begins_late ran begun, ?_⟩
  intro together last later calls first token success
  have ran := Ran.of_run later
  obtain ⟨once, phase⟩ := ran.once guarded numbered calls success
  have moves_together := moves_history later
  refine ⟨once, ?_, fun idle who new present patient =>
    handed_of_idle ran (ran.keeps Guarded.step guarded) phase idle new present fun mid member =>
      patient (moves_together ▸ List.mem_map_of_mem member)⟩
  have bound := ran.length_le fun step member => (calls.calm step member).kept
  rw [remaining_of_settled calls.alone, ← List.length_map Prod.snd, moves_together] at bound
  omega

/-- A token that has expired when it is used for the first time. -/
def stale : Held := ⟨⟨⟨"a"⟩, some later⟩, 0⟩

/-- The room that one caller has left with it. -/
def dusk : Callers := ⟨⟨some stale, 1⟩, none, [.handed stale]⟩

/-- Three callers who come together then. One of them is dropped in front of the door. -/
def crowd : List Move :=
  [.arrive later .zero, .arrive later .zero, .arrive later .zero, .enter 2, .lookAgain 2, .drop 1,
    .succeed 2 ⟨⟨"b"⟩, none⟩, .store 2, .leave 2, .enter 3, .lookAgain 3, .leave 3]

/-- The room that they leave. -/
def dawn : Callers := ⟨⟨some rushed, 2⟩, none, [.handed stale, .dropped, .handed rushed, .handed rushed]⟩

theorem single_flight_crowd :
    start.run? (rush.take 6) = some dusk ∧ dusk.run? crowd = some dawn ∧ dusk.Together (dusk.history crowd) ∧
      FirstSuccess (dusk.history crowd) 2 ⟨⟨"b"⟩, none⟩ ∧ dawn.Idle ∧
      (dusk.history crowd).countP begins = 1 ∧ dawn.places[3]? = some (.handed rushed) := by
  have before : start.run? (rush.take 6) = some dusk := rfl
  have run : dusk.run? crowd = some dawn := rfl
  have together : dusk.Together (dusk.history crowd) := ⟨by decide, by decide⟩
  have success : FirstSuccess (dusk.history crowd) 2 ⟨⟨"b"⟩, none⟩ :=
    ⟨(dusk.history crowd).take 4, (dusk.run? (crowd.take 4)).getD dusk, (dusk.history crowd).drop 5, rfl, by decide,
      rfl, _, .tail _ (.head _)⟩
  have idle : dawn.Idle := idle_of_settled (by decide)
  obtain ⟨-, -, shared⟩ := single_flight before
  obtain ⟨once, -, handed⟩ := shared crowd dawn run together 2 _ success
  exact ⟨before, run, together, success, idle, once, handed idle 3 (by decide) (by decide) (by decide)⟩

end AuthzClient.Token.Callers
