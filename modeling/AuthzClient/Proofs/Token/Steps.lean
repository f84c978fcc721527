import AuthzClient.Token.Callers

/-!
What a move of one caller does, and what holds at every moment of a run: the token that is held is the last one of its
number, and exactly the caller at the door stands behind it.
-/

namespace AuthzClient.Token.Callers

/-- What a move does. A move that cannot be made is not here. -/
inductive Stepped (room : Callers) : Move → Callers → Prop
  | arrive (now : Instant) (jitter : Span) :
    Stepped room (.arrive now jitter) (room.join (.first room.cache now jitter))
  | enter {who : Nat} {seen : Option Nat} (stands : room.places[who]? = some (.waiting seen))
    (free : room.door = none) : Stepped room (.enter who) { room.put who (.inside seen) with door := some who }
  | reuse {who : Nat} {seen : Option Nat} {held : Held} (stands : room.places[who]? = some (.inside seen))
    (renewed : room.cache.renewed? seen = some held) :
    Stepped room (.lookAgain who) (room.put who (.leaving (some held)))
  | exchange {who : Nat} {seen : Option Nat} (stands : room.places[who]? = some (.inside seen))
    (same : room.cache.renewed? seen = none) : Stepped room (.lookAgain who) (room.put who .exchanging)
  | succeed {who : Nat} (token : AccessToken) (stands : room.places[who]? = some .exchanging) :
    Stepped room (.succeed who token) (room.put who (.issued token))
  | fail {who : Nat} (stands : room.places[who]? = some .exchanging) :
    Stepped room (.fail who) (room.put who (.leaving none))
  | store {who : Nat} {token : AccessToken} (stands : room.places[who]? = some (.issued token)) :
    Stepped room (.store who)
      { room.put who (.leaving (some ⟨token, room.cache.stored⟩)) with cache := room.cache.store token }
  | leave {who : Nat} {held : Option Held} (stands : room.places[who]? = some (.leaving held)) :
    Stepped room (.leave who) { room.put who (.last held) with door := none }
  | giveUp {who : Nat} {seen : Option Nat} (stands : room.places[who]? = some (.waiting seen)) :
    Stepped room (.drop who) (room.put who .dropped)
  | abandon {who : Nat} (stands : room.places[who]? = some .exchanging) :
    Stepped room (.drop who) { room.put who .dropped with door := none }
  | invalidate : Stepped room .invalidate { room with cache := room.cache.invalidate }

theorem stepped {room next : Callers} {move : Move} (made : room.step? move = some next) : Stepped room move next := by
  cases move with
  | arrive now jitter => cases made; exact .arrive now jitter
  | invalidate => cases made; exact .invalidate
  | enter who =>
    simp only [step?] at made
    split at made
    · rename_i stands free
      cases made
      exact .enter stands free
    · cases made
  | lookAgain who =>
    simp only [step?] at made
    split at made
    · rename_i seen stands
      cases made
      cases look : room.cache.renewed? seen with
      | none => simpa [Place.second, look] using Stepped.exchange stands look
      | some held => simpa [Place.second, look] using Stepped.reuse stands look
    · cases made
  | succeed who token =>
    simp only [step?] at made
    split at made
    · cases made; exact .succeed token ‹_›
    · cases made
  | fail who =>
    simp only [step?] at made
    split at made
    · cases made; exact .fail ‹_›
    · cases made
  | store who =>
    simp only [step?] at made
    split at made
    · cases made; exact .store ‹_›
    · cases made
  | leave who =>
    simp only [step?] at made
    split at made
    · cases made; exact .leave ‹_›
    · cases made
  | drop who =>
    simp only [step?] at made
    split at made
    · cases made; exact .giveUp ‹_›
    · cases made; exact .abandon ‹_›
    · cases made

theorem moves_history {moves : List Move} {room last : Callers} (run : room.run? moves = some last) :
    (room.history moves).map Prod.snd = moves := by
  induction moves generalizing room with
  | nil => rfl
  | cons move moves ih =>
    obtain ⟨next, made, rest⟩ := Option.bind_eq_some_iff.mp run
    simp [history, made, ih rest]

/-- A run with its history, growing at the end. -/
inductive Ran (room : Callers) : List (Callers × Move) → Callers → Prop
  | nothing : Ran room [] room
  | further {history : List (Callers × Move)} {mid last : Callers} {move : Move} :
    Ran room history mid → Stepped mid move last → Ran room (history ++ [(mid, move)]) last

namespace Ran

theorem after {room next last : Callers} {move : Move} {history : List (Callers × Move)}
    (step : Stepped room move next) (rest : Ran next history last) : Ran room ((room, move) :: history) last := by
  induction rest with
  | nothing => exact further nothing step
  | further _ later ih => exact further ih later

theorem of_run {moves : List Move} {room last : Callers} (run : room.run? moves = some last) :
    Ran room (room.history moves) last := by
  induction moves generalizing room with
  | nil => cases run; exact nothing
  | cons move moves ih =>
    obtain ⟨next, made, rest⟩ := Option.bind_eq_some_iff.mp run
    simpa [history, made] using after (stepped made) (ih rest)

/-- A run at one of its moves: what leads to it, the move itself, and the rest. -/
theorem split {room mid last : Callers} {move : Move} {history earlier later : List (Callers × Move)}
    (ran : Ran room history last) (same : history = earlier ++ (mid, move) :: later) :
    Ran room earlier mid ∧ ∃ next, Stepped mid move next ∧ Ran next later last := by
  induction ran generalizing later with
  | nothing => simp at same
  | @further history before last move' ran step ih =>
    rcases List.eq_nil_or_concat later with rfl | ⟨initial, final, rfl⟩
    · obtain ⟨rfl, this⟩ := List.append_inj' same rfl
      obtain ⟨rfl, rfl⟩ := Prod.mk.inj (List.singleton_inj.mp this)
      exact ⟨ran, _, step, nothing⟩
    · have same : history ++ [(before, move')] = (earlier ++ (mid, move) :: initial) ++ [final] := by simpa using same
      obtain ⟨same, this⟩ := List.append_inj' same rfl
      obtain ⟨first, next, now, rest⟩ := ih same
      cases this
      exact ⟨first, next, now, by simpa using further rest step⟩

theorem keeps {P : Callers → Prop}
    (kept : ∀ {room next : Callers} {move : Move}, P room → Stepped room move next → P next) {room last : Callers}
    {history : List (Callers × Move)} (ran : Ran room history last) (first : P room) : P last := by
  induction ran with
  | nothing => exact first
  | further _ step ih => exact kept ih step

end Ran

section Places

variable {room : Callers} {who other : Nat} {place old : Place}

@[simp]
theorem length_put : (room.put who place).places.length = room.places.length := List.length_set

theorem place_put_self (stands : room.places[who]? = some old) : (room.put who place).places[who]? = some place := by
  obtain ⟨within, -⟩ := List.getElem?_eq_some_iff.mp stands
  exact List.getElem?_set_self within

theorem place_put_of_ne (different : who ≠ other) : (room.put who place).places[other]? = room.places[other]? :=
  List.getElem?_set_ne different

/-- A caller who stands somewhere after one caller was put at a place is that one, or has not moved. -/
theorem place_put {after : Place} (stands : (room.put who place).places[other]? = some after) :
    (other = who ∧ after = place) ∨ (other ≠ who ∧ room.places[other]? = some after) := by
  by_cases same : who = other
  · subst same
    obtain ⟨within, found⟩ := List.getElem?_eq_some_iff.mp stands
    exact .inl ⟨rfl, by rw [← found]; exact List.getElem_set_self _⟩
  · exact .inr ⟨Ne.symm same, by rw [← stands, place_put_of_ne same]⟩

@[simp]
theorem length_join : (room.join place).places.length = room.places.length + 1 := List.length_append

theorem place_join_old (stands : room.places[who]? = some old) : (room.join place).places[who]? = some old := by
  obtain ⟨within, -⟩ := List.getElem?_eq_some_iff.mp stands
  rw [join, List.getElem?_append_left within, stands]

theorem place_join {after : Place} (stands : (room.join place).places[other]? = some after) :
    (other = room.places.length ∧ after = place) ∨ room.places[other]? = some after := by
  by_cases within : other < room.places.length
  · exact .inr ((List.getElem?_append_left within).symm.trans stands)
  · have at_end : other = room.places.length := by
      have := (List.getElem?_eq_some_iff.mp stands).1
      rw [length_join] at this
      omega
    subst at_end
    exact .inl ⟨rfl, Option.some.inj (stands.symm.trans List.getElem?_concat_length)⟩

end Places

def Behind (room : Callers) (who : Nat) : Prop := ∃ place, room.places[who]? = some place ∧ place.isBehind = true

section Behind

variable {room : Callers} {who other : Nat} {place old : Place}

theorem Behind.ofPlace (stands : room.places[who]? = some place) (inside : place.isBehind = true) : room.Behind who :=
  ⟨place, stands, inside⟩

/-- One who is put from behind the door to behind the door, or from before it to before it, changes nobody's side. -/
theorem behind_put (stands : room.places[who]? = some old) (same : place.isBehind = old.isBehind) :
    (room.put who place).Behind other ↔ room.Behind other := by
  by_cases this : who = other
  · subst this
    constructor
    · rintro ⟨found, stands', inside⟩
      rw [place_put_self stands] at stands'
      cases stands'
      exact .ofPlace stands (same ▸ inside)
    · rintro ⟨found, stands', inside⟩
      rw [stands] at stands'
      cases stands'
      exact .ofPlace (place_put_self stands) (same.trans inside)
  · simp only [Behind, place_put_of_ne this]

theorem isBehind_first (cache : Cache) (now : Instant) (jitter : Span) :
    (Place.first cache now jitter).isBehind = false := by
  unfold Place.first
  split <;> rfl

theorem isBehind_last (held : Option Held) : (Place.last held).isBehind = false := by
  cases held <;> rfl

theorem behind_join (outside : place.isBehind = false) : (room.join place).Behind other ↔ room.Behind other := by
  constructor
  · rintro ⟨found, stands, inside⟩
    rcases place_join stands with ⟨-, rfl⟩ | stands
    · rw [outside] at inside
      cases inside
    · exact ⟨found, stands, inside⟩
  · rintro ⟨found, stands, inside⟩
    exact ⟨found, place_join_old stands, inside⟩

end Behind

/-- Exactly the caller at the door stands behind it. -/
def Guarded (room : Callers) : Prop := ∀ who, room.door = some who ↔ room.Behind who

namespace Guarded

variable {room : Callers} {who : Nat} {place old : Place}

/-- Nobody is left behind the door when the caller behind it has come out. -/
theorem emptied (guarded : room.Guarded) (stands : room.places[who]? = some old) (inside : old.isBehind = true)
    (outside : place.isBehind = false) (other : Nat) : ¬ (room.put who place).Behind other := by
  rintro ⟨found, stands', inside'⟩
  rcases place_put stands' with ⟨-, rfl⟩ | ⟨different, stands'⟩
  · rw [outside] at inside'
    cases inside'
  · have here : room.door = some who := (guarded who).mpr (.ofPlace stands inside)
    have there : room.door = some other := (guarded other).mpr (.ofPlace stands' inside')
    exact different (Option.some.inj (there.symm.trans here))

theorem put (guarded : room.Guarded) (stands : room.places[who]? = some old) (same : place.isBehind = old.isBehind) :
    (room.put who place).Guarded := fun other => (guarded other).trans (behind_put stands same).symm

theorem step {next : Callers} {move : Move} (guarded : room.Guarded) (step : Stepped room move next) :
    next.Guarded := by
  cases step with
  | arrive => exact fun other => (guarded other).trans (behind_join (isBehind_first ..)).symm
  | enter stands free =>
    intro other
    constructor
    · rintro ⟨⟩
      exact .ofPlace (place_put_self stands) rfl
    · rintro ⟨found, stands', inside⟩
      rcases place_put stands' with ⟨rfl, -⟩ | ⟨-, stands'⟩
      · rfl
      · have there := (guarded other).mpr (.ofPlace stands' inside)
        rw [free] at there
        cases there
  | succeed _ stands => exact guarded.put stands rfl
  | reuse stands | exchange stands | fail stands | store stands | giveUp stands => exact guarded.put stands rfl
  | leave stands => exact fun other => iff_of_false nofun (guarded.emptied stands rfl (isBehind_last _) other)
  | abandon stands => exact fun other => iff_of_false nofun (guarded.emptied stands rfl rfl other)
  | invalidate => exact guarded

end Guarded

theorem guarded_start : start.Guarded := fun who => iff_of_false nofun (by rintro ⟨found, stands, -⟩; cases stands)

/-- The token that is held has a number that is taken. -/
def Numbered (room : Callers) : Prop := ∀ held, room.cache.held = some held → held.number < room.cache.stored

theorem numbered_start : start.Numbered := by rintro held ⟨⟩

theorem Numbered.step {room next : Callers} {move : Move} (numbered : room.Numbered) (step : Stepped room move next) :
    next.Numbered := by
  cases step with
  | store =>
    rintro held ⟨⟩
    exact Nat.lt_succ_self _
  | invalidate => rintro held ⟨⟩
  | _ => exact numbered

end AuthzClient.Token.Callers
