import AuthzClient.Proofs.Call.Rounds
import Mathlib.Data.List.Forall2

/-!
The events of a call told apart: those of its authorizations, which may be calls themselves, and its own. Its own
messages are those of its attempts, one after the other.
-/

namespace AuthzClient.Call.Course

open Http Act

variable (course : Course)

/-- What the authorization of an attempt adds. -/
def authorizing (i : Nat) : List Event := (course.ready i).events.drop (course.before i).events.length

/-- What an attempt adds behind its authorization, if it is repeated. -/
def attempting (i : Nat) : List Event := (course.before (i + 1)).events.drop (course.ready i).events.length

/-- What the end of the call adds behind the authorization of the last attempt. -/
def closing (n : Nat) : List Event := course.result.2.events.drop (course.ready n).events.length

/-- What a call adds itself, if its last attempt is a given one. -/
def own (n : Nat) : List Event := (List.range n).flatMap course.attempting ++ course.closing n

/-- A call has gone through a number of rounds and finishes behind them. -/
structure Ended (n : Nat) : Prop where
  within : n ≤ course.plan.maxRetries
  rounds : ∀ i, i < n → ∃ message, course.Round i message
  ends : course.Finishes n course.result.1 (course.closing n)
  events : course.result.2.events = (course.ready n).events ++ course.closing n

theorem exists_ended : ∃ n, course.Ended n := by
  obtain ⟨n, within, rounds, added, ends, events⟩ := course.result_rounds
  have same : course.closing n = added := by rw [closing, events, List.drop_left]
  exact ⟨n, within, rounds, same ▸ ends, same ▸ events⟩

theorem events_ready (i : Nat) : (course.ready i).events = (course.before i).events ++ course.authorizing i := by
  obtain ⟨added, same⟩ := course.authorizer.grown_authorization course.surroundings (course.before i)
  have ready : (course.ready i).events = (course.before i).events ++ added := same.symm
  rw [authorizing, ready, List.drop_left]

variable {course} {n i : Nat} {message : Message}

theorem Round.attempting_eq (round : course.Round i message) : course.attempting i = course.setback i message := by
  rw [attempting, round.events, List.drop_left]

namespace Ended

variable (ended : course.Ended n)

include ended

theorem events_before (k : Nat) (below : k ≤ n) :
    (course.before k).events =
      course.start.events ++ (List.range k).flatMap fun i => course.authorizing i ++ course.attempting i := by
  induction k with
  | zero => exact (List.append_nil _).symm
  | succ k ih =>
    have earlier := ih (Nat.le_of_succ_le below)
    obtain ⟨message, round⟩ := ended.rounds k below
    have here : (course.before (k + 1)).events = (course.ready k).events ++ course.attempting k := by
      rw [round.attempting_eq, round.events]
    rw [here, events_ready, earlier, List.range_succ, List.flatMap_append, List.flatMap_singleton]
    simp only [List.append_assoc]

/-- Nothing happens in a call but its authorizations and what it does itself. -/
theorem events_result :
    course.result.2.events = course.start.events ++
      (List.range n).flatMap (fun i => course.authorizing i ++ course.attempting i) ++
      (course.authorizing n ++ course.closing n) := by
  rw [ended.events, events_ready, ended.events_before n (Nat.le_refl n)]
  simp only [List.append_assoc]

/-- Whatever is added to the session is from an authorization or from the call itself. -/
theorem exists_added :
    ∃ added, course.result.2.events = course.start.events ++ added ∧
      ∀ event ∈ added, (∃ i, event ∈ course.authorizing i) ∨ event ∈ course.own n := by
  refine ⟨_, ended.events_result.trans (List.append_assoc ..), fun event inside => ?_⟩
  rcases List.mem_append.mp inside with before | last
  · obtain ⟨i, below, inside⟩ := List.mem_flatMap.mp before
    rcases List.mem_append.mp inside with authorizing | attempting
    · exact Or.inl ⟨i, authorizing⟩
    · exact Or.inr (List.mem_append_left _ (List.mem_flatMap.mpr ⟨i, below, attempting⟩))
  · rcases List.mem_append.mp last with authorizing | closing
    · exact Or.inl ⟨n, authorizing⟩
    · exact Or.inr (List.mem_append_right _ closing)

end Ended

/-- A message is the one that an attempt writes with the authorization it was granted. -/
structure Writes (course : Course) (i : Nat) (message : Message) : Prop where
  authorized : course.Authorized i
  written : course.request.message? i (course.granted i) = some message

theorem Writes.headers (writes : course.Writes i message) :
    message.headers = course.request.attemptHeaders i (course.granted i) := by
  have written := writes.written
  rw [Request.message?, Option.map_eq_some_iff] at written
  obtain ⟨target, _, rfl⟩ := written
  rfl

theorem writes_rounds (ended : course.Ended n) (k : Nat) (below : k ≤ n) :
    List.Forall₂ course.Writes (List.range k)
      (((List.range k).flatMap course.attempting).filterMap Event.message?) := by
  induction k with
  | zero => exact .nil
  | succ k ih =>
    have earlier := ih (Nat.le_of_succ_le below)
    obtain ⟨message, round⟩ := ended.rounds k below
    have sent : (course.attempting k).filterMap Event.message? = [message] := by
      rw [round.attempting_eq, messages_setback]
    rw [List.range_succ, List.flatMap_append, List.flatMap_singleton, List.filterMap_append, sent]
    exact List.rel_append earlier (.cons ⟨round.authorized, round.written⟩ .nil)

/-- A call finishes with at most one more message of its own, that of its last attempt. -/
theorem Finishes.writes {result : Except Stop Response} {added : List Event}
    (ends : course.Finishes n result added) :
    added.filterMap Event.message? = [] ∨ ∃ message, added.filterMap Event.message? = [message] ∧ course.Writes n message := by
  cases ends with
  | unauthorized => exact Or.inl rfl
  | unwritten => exact Or.inl rfl
  | unanswered authorized written => exact Or.inr ⟨_, rfl, authorized, written⟩
  | succeeded _ authorized written =>
    refine Or.inr ⟨_, ?_, authorized, written⟩
    simp [posted, Event.message?, messages_measured]
  | exhausted _ authorized written =>
    refine Or.inr ⟨_, ?_, authorized, written⟩
    simp [posted, Event.message?, messages_measured, List.filterMap_map, Function.comp_def]
  | unwaited authorized written => exact Or.inr ⟨_, messages_setback n _, authorized, written⟩

/-- The own messages of a call are those of its first attempts, each as its attempt writes it. -/
theorem Ended.writes (ended : course.Ended n) :
    ∃ k, List.Forall₂ course.Writes (List.range k) ((course.own n).filterMap Event.message?) := by
  have rounds := writes_rounds ended n (Nat.le_refl n)
  rw [own, List.filterMap_append]
  rcases ended.ends.writes with none | ⟨message, one, written⟩
  · rw [none, List.append_nil]
    exact ⟨n, rounds⟩
  · rw [one]
    refine ⟨n + 1, ?_⟩
    rw [List.range_succ]
    exact List.rel_append rounds (.cons written .nil)

end AuthzClient.Call.Course
