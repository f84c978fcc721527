import AuthzClient.Proofs.Session.Changes
import AuthzClient.Proofs.Token.Steps
import AuthzClient.Token.Crowd
import Mathlib.Data.List.Forall2

/-!
The callers who ask a source for tokens are callers of its cache: whatever a crowd of them does and gets is a run of the
cache's callers, one step after the other, so everything that holds for all runs holds for the crowd.
-/

namespace AuthzClient.Token

open Act

namespace Callers

/-- Some moves lead from one room to another. -/
def Leads (room last : Callers) : Prop := ∃ moves, room.run? moves = some last

theorem leads_refl (room : Callers) : room.Leads room := ⟨[], rfl⟩

theorem Leads.trans {room mid last : Callers} (first : room.Leads mid) (next : mid.Leads last) : room.Leads last := by
  obtain ⟨moves, run⟩ := first
  obtain ⟨more, rest⟩ := next
  refine ⟨moves ++ more, ?_⟩
  induction moves generalizing room with
  | nil => cases run; exact rest
  | cons move moves ih =>
    obtain ⟨next, made, run⟩ := Option.bind_eq_some_iff.mp run
    exact Option.bind_eq_some_iff.mpr ⟨next, made, ih run⟩

theorem Leads.move {room mid last : Callers} (before : room.Leads mid) (move : Move)
    (made : mid.step? move = some last) : room.Leads last :=
  before.trans ⟨[move], Option.bind_eq_some_iff.mpr ⟨last, made, rfl⟩⟩

/-- A room in which one caller may have moved, and nobody else. -/
def stage (room : Callers) (who : Nat) (cache : Cache) (door : Option Nat) (place : Place) : Callers :=
  ⟨cache, door, room.places.set who place⟩

section Stage

variable {room : Callers} {who : Nat} {cache : Cache} {door : Option Nat} {place old : Place}

theorem place_stage (stands : room.places[who]? = some old) :
    (room.stage who cache door place).places[who]? = some place := place_put_self stands

theorem put_stage (new : Place) :
    (room.stage who cache door place).put who new = room.stage who cache door new := by
  simp [stage, put, List.set_set]

end Stage

/-- The room that a session shows between two turns. -/
structure Mirrors (room : Callers) (s : Session) : Prop where
  cache : room.cache = s.cache
  open_door : room.door = none

end Callers

/-- Where a caller stands who has looked. -/
def Found : Except (Option Nat) AccessToken → Place → Prop
  | .ok token, place => ∃ held, place = .passed held ∧ held.token = token
  | .error seen, place => place = .waiting seen

/-- Where a caller stands whose call has ended. -/
def Came : Except Stop AccessToken → Place → Prop
  | .ok token, place => ∃ held, place.returned? = some held ∧ held.token = token
  | .error (.failed _), place => place = .failed
  | .error .dropped, place => place = .dropped

/-- Where a caller stands who was not dropped. -/
def Got : Except ClientError AccessToken → Place → Prop
  | .ok token, place => ∃ held, place.returned? = some held ∧ held.token = token
  | .error _, place => place = .failed

namespace Source

open Callers

variable (source : Source) {w : Surroundings} {s t : Session} {room : Callers}

/-- A first look is the arrival of a new caller. -/
theorem look_arrives (mirrors : room.Mirrors s) :
    ∃ found u place, look w s = (.ok found, u) ∧ (room.join place).Mirrors u ∧ Found found place ∧
      room.Leads (room.join place) := by
  have arrives : ∀ now jitter, room.Leads (room.join (.first s.cache now jitter)) := fun now jitter =>
    (leads_refl room).move (.arrive now jitter) (by rw [← mirrors.cache]; rfl)
  have opened : look w s = _ := bind_ok (show Act.cache w s = (.ok s.cache, s) from rfl)
  cases there : s.cache.held with
  | none =>
    rw [there] at opened
    have place : Place.first s.cache .epoch .zero = .waiting none := by
      simp [Place.first, Cache.usable?, Cache.mark, there]
    exact ⟨_, s, _, opened, ⟨mirrors.cache, mirrors.open_door⟩, place, arrives .epoch .zero⟩
  | some held =>
    rw [there] at opened
    let u := { s with readings := s.readings + 1 }
    let now := w.clock s.readings
    let jitter := w.jitter s.readings
    have read : readClock w s = (.ok (now, jitter), u) := rfl
    have seen : look w s = _ := opened.trans (bind_ok read)
    cases usable : s.cache.usable? now jitter with
    | some fresh =>
      simp only [usable] at seen
      have place : Place.first s.cache now jitter = .passed fresh := by simp [Place.first, usable]
      exact ⟨_, u, _, seen, ⟨mirrors.cache, mirrors.open_door⟩, ⟨fresh, place, rfl⟩, arrives now jitter⟩
    | none =>
      simp only [usable] at seen
      have place : Place.first s.cache now jitter = .waiting s.cache.mark := by simp [Place.first, usable]
      exact ⟨_, u, _, seen, ⟨mirrors.cache, mirrors.open_door⟩, place, arrives now jitter⟩

/-- A turn is the way of one caller through the door. -/
theorem renew_passes (mirrors : room.Mirrors s) {who : Nat} {seen : Option Nat}
    (stands : room.places[who]? = some (.waiting seen)) :
    ∃ place, Came (source.renew seen w s).1 place ∧
      ∃ last, room.Leads last ∧ last.Mirrors (source.renew seen w s).2 ∧ last.places = (room.put who place).places := by
  have enter : room.Leads (room.stage who s.cache (some who) (.inside seen)) :=
    (leads_refl room).move (.enter who) (by simp [step?, stands, mirrors.open_door, ← mirrors.cache, stage, put])
  have looked : room.Leads (room.stage who s.cache (some who) (.second s.cache seen)) :=
    enter.move (.lookAgain who) (by simp [step?, place_stage stands, put_stage]; rfl)
  have opened : source.renew seen w s = _ := bind_ok (show Act.cache w s = (.ok s.cache, s) from rfl)
  cases renewed : s.cache.renewed? seen with
  | some held =>
    simp only [renewed] at opened
    have second : Place.second s.cache seen = .leaving (some held) := by simp [Place.second, renewed]
    rw [second] at looked
    have left : room.Leads (room.stage who s.cache none (.handed held)) :=
      looked.move (.leave who) (by simp [step?, place_stage stands, put_stage]; rfl)
    rw [opened]
    exact ⟨.handed held, ⟨held, rfl, rfl⟩, _, left, ⟨rfl, rfl⟩, rfl⟩
  | none =>
    simp only [renewed] at opened
    have second : Place.second s.cache seen = .exchanging := by simp [Place.second, renewed]
    rw [second] at looked
    have untouched : (source.exchange w s).2.cache = s.cache := source.respects_exchange lenient_untouched w s
    rcases ended : source.exchange w s with ⟨stop | token, u⟩
    · rw [ended] at untouched
      rw [opened, bind_error ended]
      cases stop with
      | failed error =>
        have failed : room.Leads (room.stage who s.cache (some who) (.leaving none)) :=
          looked.move (.fail who) (by simp [step?, place_stage stands, put_stage])
        have left : room.Leads (room.stage who s.cache none .failed) :=
          failed.move (.leave who) (by simp [step?, place_stage stands, put_stage]; rfl)
        exact ⟨.failed, rfl, _, left, ⟨untouched.symm, rfl⟩, rfl⟩
      | dropped =>
        have gone : room.Leads (room.stage who s.cache none .dropped) :=
          looked.move (.drop who) (by simp [step?, place_stage stands, put_stage]; rfl)
        exact ⟨.dropped, rfl, _, gone, ⟨untouched.symm, rfl⟩, rfl⟩
    · rw [ended] at untouched
      let held : Held := ⟨token, s.cache.stored⟩
      have issued : room.Leads (room.stage who s.cache (some who) (.issued token)) :=
        looked.move (.succeed who token) (by simp [step?, place_stage stands, put_stage])
      have stored : room.Leads (room.stage who (s.cache.store token) (some who) (.leaving (some held))) :=
        issued.move (.store who) (by simp [step?, place_stage stands, put_stage]; rfl)
      have left : room.Leads (room.stage who (s.cache.store token) none (.handed held)) :=
        stored.move (.leave who) (by simp [step?, place_stage stands, put_stage]; rfl)
      rw [opened, bind_ok ended]
      exact ⟨.handed held, ⟨held, rfl, rfl⟩, _, left, ⟨congrArg (Cache.store token) untouched.symm, rfl⟩, rfl⟩

/-- A caller who asks alone comes, looks, and has its turn if need be. -/
theorem token_passes (mirrors : room.Mirrors s) :
    ∃ place last, Came (source.token w s).1 place ∧ room.Leads last ∧ last.Mirrors (source.token w s).2 ∧
      last.places = room.places ++ [place] := by
  obtain ⟨found, u, place, looked, mirrored, here, came⟩ := look_arrives (w := w) mirrors
  have opened : source.token w s = _ := bind_ok looked
  rw [opened]
  cases found with
  | ok token =>
    obtain ⟨held, rfl, value⟩ := here
    exact ⟨_, _, ⟨held, rfl, value⟩, came, mirrored, rfl⟩
  | error seen =>
    cases here
    have stands : (room.join (.waiting seen)).places[room.places.length]? = some (.waiting seen) :=
      List.getElem?_concat_length
    obtain ⟨place, ended, last, leads, mirrored, moved⟩ := source.renew_passes (w := w) mirrored stands
    exact ⟨place, last, ended, came.trans leads, mirrored, by simp [moved, put, join]⟩

theorem came_got {seen : Option Nat} {first : Except ClientError AccessToken} {place : Place}
    (settled : settle (source.renew seen) w s = (.ok first, t)) (came : Came (source.renew seen w s).1 place) :
    (source.renew seen w s).2 = t ∧ Got first place := by
  simp only [settle, of] at settled
  rcases ended : source.renew seen w s with ⟨stop | token, u⟩
  · rw [ended] at settled came
    cases stop with
    | failed error => cases settled; exact ⟨rfl, came⟩
    | dropped => cases settled
  · rw [ended] at settled came
    cases settled
    exact ⟨rfl, came⟩

/-- The turn of the caller behind those of whom nothing more is to come. -/
theorem turn_passes {before waiting : List Place} {seen : Option Nat} {first : Except ClientError AccessToken}
    (mirrors : room.Mirrors s) (places : room.places = before ++ .waiting seen :: waiting)
    (settled : settle (source.renew seen) w s = (.ok first, t)) :
    ∃ place last, room.Leads last ∧ last.Mirrors t ∧ last.places = before ++ place :: waiting ∧ Got first place := by
  have stands : room.places[before.length]? = some (.waiting seen) := by simp [places]
  obtain ⟨place, came, last, leads, mirrored, moved⟩ := source.renew_passes (w := w) mirrors stands
  obtain ⟨rfl, got⟩ := source.came_got settled came
  exact ⟨place, last, leads, mirrored, by simp [moved, put, places], got⟩

theorem turns_pass {founds : List (Except (Option Nat) AccessToken)} {before waiting : List Place}
    {results : List (Except ClientError AccessToken)} (mirrors : room.Mirrors s)
    (places : room.places = before ++ waiting) (found : List.Forall₂ Found founds waiting)
    (run : source.turns founds w s = (.ok results, t)) :
    ∃ after last, room.Leads last ∧ last.Mirrors t ∧ last.places = before ++ after ∧
      List.Forall₂ Got results after := by
  induction found generalizing s room before results with
  | nil =>
    cases run
    exact ⟨[], room, leads_refl room, mirrors, places, .nil⟩
  | @cons first place founds rest here _ ih =>
    cases first with
    | ok token =>
      obtain ⟨others, u, run, same⟩ := bind_eq_ok run
      cases same
      obtain ⟨held, rfl, value⟩ := here
      have places : room.places = (before ++ [.passed held]) ++ rest := by simpa using places
      obtain ⟨after, last, leads, mirrored, moved, got⟩ := ih mirrors places run
      exact ⟨_ :: after, last, leads, mirrored, by simpa using moved, .cons ⟨held, rfl, value⟩ got⟩
    | error seen =>
      obtain ⟨first, u, settled, run⟩ := bind_eq_ok run
      obtain ⟨others, v, run, same⟩ := bind_eq_ok run
      cases same
      cases here
      obtain ⟨place, mid, leads, mirrored, moved, got⟩ := source.turn_passes mirrors places settled
      have places : mid.places = (before ++ [place]) ++ rest := by simpa using moved
      obtain ⟨after, last, onward, mirrored, moved, others⟩ := ih mirrored places run
      exact ⟨place :: after, last, leads.trans onward, mirrored, by simpa using moved, .cons got others⟩

/-- First looks are arrivals, one after the other. -/
theorem looks_arrive {n : Nat} {founds : List (Except (Option Nat) AccessToken)} (mirrors : room.Mirrors s)
    (run : looks n w s = (.ok founds, t)) :
    ∃ places last, room.Leads last ∧ last.Mirrors t ∧ last.places = room.places ++ places ∧
      List.Forall₂ Found founds places := by
  induction n generalizing s room founds with
  | zero =>
    cases run
    exact ⟨[], room, leads_refl room, mirrors, (List.append_nil _).symm, .nil⟩
  | succ n ih =>
    obtain ⟨first, u, looked, run⟩ := bind_eq_ok run
    obtain ⟨others, v, run, same⟩ := bind_eq_ok run
    cases same
    obtain ⟨found, u', place, looked', mirrored, here, came⟩ := look_arrives (w := w) mirrors
    cases looked.symm.trans looked'
    obtain ⟨places, last, leads, mirrored, moved, found⟩ := ih mirrored run
    exact ⟨place :: places, last, came.trans leads, mirrored, by simpa [join] using moved, .cons here found⟩

/-- What a crowd of callers does is a run of the callers of its cache, and every caller ends where its result says: with
a token that it has got there, or with a failure. -/
theorem tokens_run {n : Nat} {results : List (Except ClientError AccessToken)} (mirrors : room.Mirrors s)
    (run : source.tokens n w s = (.ok results, t)) :
    ∃ places last, room.Leads last ∧ last.Mirrors t ∧ last.places = room.places ++ places ∧
      List.Forall₂ Got results places := by
  induction n generalizing s room results with
  | zero =>
    cases run
    exact ⟨[], room, leads_refl room, mirrors, (List.append_nil _).symm, .nil⟩
  | succ n ih =>
    obtain ⟨first, u, looked, run⟩ := bind_eq_ok run
    obtain ⟨found, u', place, looked', mirrored, here, came⟩ := look_arrives (w := w) mirrors
    cases looked.symm.trans looked'
    cases first with
    | ok token =>
      obtain ⟨others, v, run, same⟩ := bind_eq_ok run
      cases same
      obtain ⟨held, rfl, value⟩ := here
      obtain ⟨places, last, leads, mirrored, moved, got⟩ := ih mirrored run
      exact ⟨.passed held :: places, last, came.trans leads, mirrored, by simpa [join] using moved,
        .cons ⟨held, rfl, value⟩ got⟩
    | error seen =>
      cases here
      obtain ⟨slow, v, timed, run⟩ := bind_eq_ok run
      have same : v = u := (congrArg Prod.snd timed).symm
      subst same
      cases slow with
      | true =>
        obtain ⟨others, v, looked, run⟩ := bind_eq_ok run
        obtain ⟨places, mid, leads, mirrored, moved, found⟩ := looks_arrive mirrored looked
        have places : mid.places = room.places ++ .waiting seen :: places := by simpa [join] using moved
        have first : Found (.error seen) (.waiting seen) := rfl
        obtain ⟨after, last, onward, mirrored, moved, got⟩ := source.turns_pass mirrored places (.cons first found) run
        exact ⟨after, last, (came.trans leads).trans onward, mirrored, moved, got⟩
      | false =>
        obtain ⟨first, v, settled, run⟩ := bind_eq_ok run
        obtain ⟨others, v, run, same⟩ := bind_eq_ok run
        cases same
        obtain ⟨place, mid, leads, mirrored, moved, got⟩ := source.turn_passes mirrored rfl settled
        obtain ⟨places, last, onward, mirrored, moved', others⟩ := ih mirrored run
        exact ⟨place :: places, last, (came.trans leads).trans onward, mirrored, by simp [moved', moved],
          .cons got others⟩

end Source

end AuthzClient.Token
