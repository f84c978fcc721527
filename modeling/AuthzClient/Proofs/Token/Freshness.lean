import AuthzClient.Proofs.Token.Steps

/-!
What the callers get: a token that its caller has found usable itself, or one that was stored after its caller had
looked. Tokens are told apart by their numbers here, never by their texts.
-/

namespace AuthzClient.Token

def Move.isStore : Move → Bool
  | store _ => true
  | _ => false

namespace Callers

/-- A token was stored within a history, by the caller it was issued to. -/
def StoredIn (history : List (Callers × Move)) (held : Held) : Prop :=
  ∃ room who, (room, .store who) ∈ history ∧ room.places[who]? = some (.issued held.token) ∧
    room.cache.stored = held.number

def Storeless (history : List (Callers × Move)) : Prop := ∀ step ∈ history, step.2.isStore = false

/-- The token was invalidated within a history, and none was stored after that. -/
def Invalidated (history : List (Callers × Move)) : Prop :=
  ∃ earlier room later, history = earlier ++ (room, .invalidate) :: later ∧ Storeless later

section History

variable {history : List (Callers × Move)} {step : Callers × Move} {held : Held}

theorem StoredIn.further (stored : StoredIn history held) : StoredIn (history ++ [step]) held := by
  obtain ⟨room, who, member, issued⟩ := stored
  exact ⟨room, who, List.mem_append_left _ member, issued⟩

theorem StoredIn.now {room : Callers} {who : Nat} {token : AccessToken}
    (issued : room.places[who]? = some (.issued token)) :
    StoredIn (history ++ [(room, .store who)]) ⟨token, room.cache.stored⟩ :=
  ⟨room, who, List.mem_append_right _ (List.mem_singleton_self _), issued, rfl⟩

theorem Storeless.further (storeless : Storeless history) (silent : step.2.isStore = false) :
    Storeless (history ++ [step]) := by
  intro other member
  rcases List.mem_append.mp member with member | member
  · exact storeless other member
  · rw [List.mem_singleton.mp member, silent]

theorem Invalidated.further (invalidated : Invalidated history) (silent : step.2.isStore = false) :
    Invalidated (history ++ [step]) := by
  obtain ⟨earlier, room, later, same, storeless⟩ := invalidated
  exact ⟨earlier, room, later ++ [step], by simp [same], storeless.further silent⟩

theorem Invalidated.now {room : Callers} : Invalidated (history ++ [(room, .invalidate)]) :=
  ⟨history, room, [], rfl, by rintro step ⟨⟩⟩

end History

/-- The visit of the caller of a given number, within a history: how everything stood when it came and looked, and all
that has happened since. -/
structure Visit (history : List (Callers × Move)) (who : Nat) where
  before : List (Callers × Move)
  arrival : Callers
  now : Instant
  jitter : Span
  since : List (Callers × Move)
  split : history = before ++ (arrival, .arrive now jitter) :: since
  number : arrival.places.length = who

namespace Visit

variable {history : List (Callers × Move)} {who : Nat}

/-- The token in the cache at the first look, usable or not. -/
def slot? (visit : Visit history who) : Option Held := visit.arrival.cache.held

def usable? (visit : Visit history who) : Option Held := visit.arrival.cache.usable? visit.now visit.jitter

def further (visit : Visit history who) (step : Callers × Move) : Visit (history ++ [step]) who :=
  { visit with since := visit.since ++ [step], split := by simp [visit.split] }

/-- What is known about the cache since a visit has begun. -/
structure Knows (visit : Visit history who) (room : Callers) : Prop where
  taken : ∀ held, visit.slot? = some held → held.number < visit.arrival.cache.stored
  grown : visit.arrival.cache.stored ≤ room.cache.stored
  late : ∀ held, StoredIn visit.since held → visit.arrival.cache.stored ≤ held.number
  origin : ∀ held, room.cache.held = some held → visit.slot? = some held ∨ StoredIn visit.since held
  kept : Storeless visit.since ∨ Invalidated visit.since ∨
    ∃ held, room.cache.held = some held ∧ StoredIn visit.since held

/-- What a visit says about the place of its caller. -/
def Explains (visit : Visit history who) : Place → Prop
  | .passed held => visit.usable? = some held
  | .waiting seen | .inside seen => visit.usable? = none ∧ seen = visit.arrival.cache.mark
  | .leaving (some held) | .handed held => visit.usable? = none ∧ StoredIn visit.since held
  | .leaving none | .exchanging | .issued _ | .failed | .dropped => visit.usable? = none

variable {visit : Visit history who} {room next : Callers} {move : Move} {latest : Callers × Move} {place : Place}

theorem Explains.further (explains : visit.Explains place) : (visit.further latest).Explains place := by
  cases place with
  | handed held => exact ⟨explains.1, explains.2.further⟩
  | leaving held =>
    cases held with
    | none => exact explains
    | some held => exact ⟨explains.1, explains.2.further⟩
  | _ => exact explains

theorem storedIn_further {held : Held} (stored : StoredIn (visit.further latest).since held) :
    StoredIn visit.since held ∨ ∃ who, latest.2 = .store who ∧ latest.1.cache.stored = held.number := by
  obtain ⟨room, who, member, issued, number⟩ := stored
  rcases List.mem_append.mp member with member | member
  · exact .inl ⟨room, who, member, issued, number⟩
  · rw [← List.mem_singleton.mp member]
    exact .inr ⟨who, rfl, number⟩

/-- A move that leaves the cache alone and stores nothing changes nothing that is known about the cache. -/
theorem Knows.silent (knows : visit.Knows room) (same : next.cache = room.cache) (silent : move.isStore = false) :
    (visit.further (room, move)).Knows next where
  taken := knows.taken
  grown := same ▸ knows.grown
  late held stored := by
    rcases storedIn_further stored with stored | ⟨who, this, -⟩
    · exact knows.late held stored
    · simp only at this
      rw [this] at silent
      cases silent
  origin held there := by
    rw [same] at there
    exact (knows.origin held there).imp_right .further
  kept := by
    rcases knows.kept with storeless | invalidated | ⟨held, there, stored⟩
    · exact .inl (storeless.further silent)
    · exact .inr (.inl (invalidated.further silent))
    · exact .inr (.inr ⟨held, same ▸ there, stored.further⟩)

theorem Knows.step (knows : visit.Knows room) (step : Stepped room move next) :
    (visit.further (room, move)).Knows next := by
  cases step with
  | @store storer token issued =>
    refine ⟨knows.taken, Nat.le_succ_of_le knows.grown, fun held stored => ?_, ?_, ?_⟩
    · rcases storedIn_further stored with stored | ⟨-, -, number⟩
      · exact knows.late held stored
      · exact number ▸ knows.grown
    · rintro held ⟨⟩
      exact .inr (.now issued)
    · exact .inr (.inr ⟨_, rfl, .now issued⟩)
  | invalidate =>
    refine ⟨knows.taken, knows.grown, fun held stored => ?_, ?_, .inr (.inl .now)⟩
    · rcases storedIn_further stored with stored | ⟨_, ⟨⟩, -⟩
      exact knows.late held stored
    · rintro held ⟨⟩
  | _ => exact knows.silent rfl rfl

/-- A token that was stored since the first look is another one than the one found then. -/
theorem Knows.slot_ne (knows : visit.Knows room) {held : Held} (stored : StoredIn visit.since held) :
    visit.slot? ≠ some held := by
  intro found
  have := knows.taken held found
  have := knows.late held stored
  omega

/-- A token that is not the one of the first look was stored since. -/
theorem Knows.renewed (knows : visit.Knows room) {held : Held}
    (renewed : room.cache.renewed? visit.arrival.cache.mark = some held) : StoredIn visit.since held := by
  obtain ⟨there, different⟩ := Option.filter_eq_some_iff.mp renewed
  rcases knows.origin held there with found | stored
  · rw [slot?] at found
    simp [Cache.mark, found] at different
  · exact stored

end Visit

/-- The place of a caller is explained by its visit. -/
def Explained (history : List (Callers × Move)) (room : Callers) (who : Nat) (place : Place) : Prop :=
  ∃ visit : Visit history who, visit.Knows room ∧ visit.Explains place

section Explained

variable {history : List (Callers × Move)} {room next : Callers} {move : Move} {who other : Nat} {place old new : Place}

theorem Explained.turn (explained : Explained history room who old) (step : Stepped room move next)
    (turn : ∀ visit : Visit history who, visit.Knows room → visit.Explains old →
      (visit.further (room, move)).Explains new) : Explained (history ++ [(room, move)]) next who new := by
  obtain ⟨visit, knows, explains⟩ := explained
  exact ⟨visit.further (room, move), knows.step step, turn visit knows explains⟩

theorem Explained.further (explained : Explained history room who place) (step : Stepped room move next) :
    Explained (history ++ [(room, move)]) next who place :=
  explained.turn step fun _ _ explains => explains.further

theorem explained_put (explained : ∀ other place, room.places[other]? = some place → Explained history room other place)
    (step : Stepped room move next) (stands : room.places[who]? = some old)
    (found : (room.put who new).places[other]? = some place)
    (turn : ∀ visit : Visit history who, visit.Knows room → visit.Explains old →
      (visit.further (room, move)).Explains new) :
    Explained (history ++ [(room, move)]) next other place := by
  rcases place_put found with ⟨rfl, rfl⟩ | ⟨-, unmoved⟩
  · exact (explained _ _ stands).turn step turn
  · exact (explained _ _ unmoved).further step

theorem explained_first (numbered : room.Numbered) (now : Instant) (jitter : Span) :
    Explained (history ++ [(room, .arrive now jitter)]) (room.join (.first room.cache now jitter)) room.places.length
      (.first room.cache now jitter) := by
  refine ⟨⟨history, room, now, jitter, [], rfl, rfl⟩, ⟨numbered, Nat.le_refl _, ?_, fun held => .inl, .inl ?_⟩, ?_⟩
  · rintro held ⟨_, _, ⟨⟩, -⟩
  · rintro step ⟨⟩
  · cases look : room.cache.usable? now jitter with
    | some held => simp [Place.first, look, Visit.Explains, Visit.usable?]
    | none => simp [Place.first, look, Visit.Explains, Visit.usable?]

theorem explained_step (numbered : room.Numbered)
    (explained : ∀ other place, room.places[other]? = some place → Explained history room other place)
    (step : Stepped room move next) (found : next.places[other]? = some place) :
    Explained (history ++ [(room, move)]) next other place := by
  cases step with
  | arrive now jitter =>
    rcases place_join found with ⟨rfl, rfl⟩ | unmoved
    · exact explained_first numbered now jitter
    · exact (explained _ _ unmoved).further (.arrive now jitter)
  | enter stands free =>
    exact explained_put explained (.enter stands free) stands found fun _ _ explains => explains
  | reuse stands renewed =>
    refine explained_put explained (.reuse stands renewed) stands found fun visit knows explains => ?_
    obtain ⟨useless, rfl⟩ := explains
    exact ⟨useless, (knows.renewed renewed).further⟩
  | exchange stands same =>
    exact explained_put explained (.exchange stands same) stands found fun _ _ explains => explains.1
  | succeed token stands =>
    exact explained_put explained (.succeed token stands) stands found fun _ _ explains => explains
  | fail stands => exact explained_put explained (.fail stands) stands found fun _ _ explains => explains
  | store stands =>
    exact explained_put explained (.store stands) stands found fun _ _ useless => ⟨useless, .now stands⟩
  | @leave who held stands =>
    refine explained_put explained (.leave stands) stands found fun visit knows explains => ?_
    cases held with
    | none => exact explains
    | some held => exact explains.further
  | giveUp stands => exact explained_put explained (.giveUp stands) stands found fun _ _ explains => explains.1
  | abandon stands => exact explained_put explained (.abandon stands) stands found fun _ _ explains => explains
  | invalidate => exact (explained _ _ found).further .invalidate

/-- In every run the place of every caller is explained by its visit. -/
theorem explained (ran : Ran start history room) :
    ∀ who place, room.places[who]? = some place → Explained history room who place := by
  induction ran with
  | nothing => rintro who place ⟨⟩
  | further before step ih =>
    have numbered := before.keeps Numbered.step numbered_start
    exact fun who place found => explained_step numbered ih step found

end Explained

/-- A token that a caller gets could be used when the caller looked first, or it was stored after that. It is never one
that the caller has found there and could not use. -/
theorem returned_fresh {moves : List Move} {room : Callers} (run : start.run? moves = some room) {who : Nat}
    {place : Place} {held : Held} (stands : room.places[who]? = some place) (returned : place.returned? = some held) :
    ∃ visit : Visit (start.history moves) who,
      (visit.slot? = some held ∧ held.token.isValidAt visit.now visit.jitter = true ∨ StoredIn visit.since held) ∧
      ¬ (visit.slot? = some held ∧ held.token.isValidAt visit.now visit.jitter = false) := by
  obtain ⟨visit, knows, explains⟩ := explained (.of_run run) who place stands
  refine ⟨visit, ?_⟩
  cases place with
  | passed =>
    cases returned
    obtain ⟨found, valid⟩ := Option.filter_eq_some_iff.mp explains
    exact ⟨.inl ⟨found, valid⟩, fun stale => by simp [valid] at stale⟩
  | handed =>
    cases returned
    exact ⟨.inr explains.2, fun stale => knows.slot_ne explains.2 stale.1⟩
  | _ => cases returned

def later : Instant := ⟨1000, by decide, by decide⟩

/-- A token that has expired when it is used for the first time, and two callers who find it: the second one waits while
the first one gets another. -/
def rush : List Move :=
  [.arrive later .zero, .enter 0, .lookAgain 0, .succeed 0 ⟨⟨"a"⟩, some later⟩, .store 0, .leave 0,
    .arrive later .zero, .arrive later .zero, .enter 1, .lookAgain 1, .succeed 1 ⟨⟨"b"⟩, none⟩, .store 1, .leave 1,
    .enter 2, .lookAgain 2, .leave 2]

def rushed : Held := ⟨⟨⟨"b"⟩, none⟩, 1⟩

theorem returned_fresh_rush :
    ∃ room, start.run? rush = some room ∧ room.places[2]? = some (.handed rushed) ∧
      (Place.handed rushed).returned? = some rushed ∧
      ∃ visit : Visit (start.history rush) 2,
        (visit.slot? = some rushed ∧ rushed.token.isValidAt visit.now visit.jitter = true ∨
          StoredIn visit.since rushed) ∧
        ¬ (visit.slot? = some rushed ∧ rushed.token.isValidAt visit.now visit.jitter = false) :=
  ⟨_, rfl, rfl, rfl, returned_fresh rfl rfl rfl⟩

end Callers

end AuthzClient.Token
