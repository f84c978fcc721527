import AuthzClient.Session

/-!
How actions are put together: an action after another one starts where that one ended, and one that stops leaves the
session as it is. What has happened is never taken back, so the events of a session only grow.
-/

namespace AuthzClient

open Http

theorem Except.bind_eq_ok {ε α β : Type} {x : Except ε α} {f : α → Except ε β} {b : β} (done : (x >>= f) = .ok b) :
    ∃ a, x = .ok a ∧ f a = .ok b := by
  cases x with
  | error e => cases done
  | ok a => exact ⟨a, rfl, done⟩

theorem Except.bind_eq_error {ε α β : Type} {x : Except ε α} {f : α → Except ε β} {e : ε}
    (failed : (x >>= f) = .error e) : x = .error e ∨ ∃ a, x = .ok a ∧ f a = .error e := by
  cases x with
  | error other =>
    cases failed
    exact Or.inl rfl
  | ok a => exact Or.inr ⟨a, rfl, failed⟩

theorem Except.eq_ok_of_toOption {ε α : Type} {x : Except ε α} {a : α} (done : x.toOption = some a) : x = .ok a := by
  cases x with
  | error e => cases done
  | ok b => exact congrArg _ (Option.some.inj done)

def Event.message? : Event → Option Message
  | .sent message _ _ => some message
  | _ => none

/-- A token was issued and counted. -/
def Event.isIssue : Event → Bool
  | .measured measurement => measurement.value == .issued
  | _ => false

/-- The messages that were handed to the transport, in order. -/
def Session.messages (s : Session) : List Message := s.events.filterMap Event.message?

/-- How many tokens were counted. -/
def Session.issues (s : Session) : Nat := s.events.countP Event.isIssue

namespace Act

variable {α β : Type} {w : Surroundings} {s t : Session}

theorem bind_ok {x : Act α} {f : α → Act β} {a : α} (first : x w s = (.ok a, t)) : (x >>= f) w s = f a w t := by
  change (ExceptT.bindCont (fun a => f a w) (x w s).1) (x w s).2 = _
  rw [first]
  rfl

theorem bind_error {x : Act α} {f : α → Act β} {stop : Stop} (first : x w s = (.error stop, t)) :
    (x >>= f) w s = (.error stop, t) := by
  change (ExceptT.bindCont (fun a => f a w) (x w s).1) (x w s).2 = _
  rw [first]
  rfl

/-- An action that ends with a value has come through its first part. -/
theorem bind_eq_ok {x : Act α} {f : α → Act β} {b : β} (both : (x >>= f) w s = (.ok b, t)) :
    ∃ a u, x w s = (.ok a, u) ∧ f a w u = (.ok b, t) := by
  rcases first : x w s with ⟨stop | a, u⟩
  · rw [bind_error first] at both
    cases both
  · exact ⟨a, u, rfl, (bind_ok first).symm.trans both⟩

/-- An action that fails does so in its first part or behind it. -/
theorem bind_eq_error {x : Act α} {f : α → Act β} {stop : Stop} (failed : ((x >>= f) w s).1 = .error stop) :
    (x w s).1 = .error stop ∨ ∃ a u, x w s = (.ok a, u) ∧ (f a w u).1 = .error stop := by
  rcases first : x w s with ⟨other | a, u⟩
  · rw [bind_error first] at failed
    exact Or.inl (congrArg _ (Except.error.inj failed))
  · exact Or.inr ⟨a, u, rfl, (congrArg Prod.fst (bind_ok first)).symm.trans failed⟩

theorem lift_eq_error {x : Except ClientError α} {stop : Stop} (failed : (lift x w s).1 = .error stop) :
    ∃ error, x = .error error ∧ stop = .failed error := by
  cases x with
  | error error => exact ⟨error, rfl, (Except.error.inj failed).symm⟩
  | ok a => cases failed

/-- Time passes, or the action is dropped on the way. -/
theorem await_cases (w : Surroundings) (s : Session) (moment : Nat) :
    (∃ t, await moment w s = (.error .dropped, t) ∧ t.events = s.events) ∨
      await moment w s = (.ok (), { s with time := max s.time moment }) := by
  simp only [await, of]
  split
  · split
    · exact Or.inl ⟨_, rfl, rfl⟩
    · exact Or.inr rfl
  · exact Or.inr rfl

/-- Reading a body fails only with the caller's patience. -/
theorem receive_eq_error {stop : Stop} (failed : (receive w s).1 = .error stop) : stop = .dropped := by
  rcases await_cases w s (s.time + (w.bodies (s.sent - 1)).nanos) with ⟨_, dropped, _⟩ | arrived
  · exact (Except.error.inj ((congrArg Prod.fst dropped).symm.trans failed)).symm
  · cases (congrArg Prod.fst arrived).symm.trans failed

theorem await_patient (patient : w.deadline = none) (moment : Nat) :
    await moment w s = (.ok (), { s with time := max s.time moment }) := by
  simp only [await, of, patient]

/-- Without a deadline every message has its reply. -/
theorem send_patient (patient : w.deadline = none) (message : Message) :
    send message w s = (.ok (w.replies s.sent).outcome,
      { s with
        time := max s.time (s.time + (w.replies s.sent).latency.nanos)
        sent := s.sent + 1
        events := s.events ++ [.sent message s.time (s.time + (w.replies s.sent).latency.nanos)] }) := by
  change (await _ >>= fun _ => pure _) w _ = _
  rw [bind_ok (await_patient patient _)]
  rfl

theorem backOff_patient (patient : w.deadline = none) (server : Option Span) (attempt : Nat) (minimum : Span) :
    ∃ t, backOff server attempt minimum w s = (.ok (), t) :=
  ⟨_, await_patient patient _⟩

/-- What an action does to a session is of a kind, whether it ends with a value or not. -/
def Respects (R : Session → Session → Prop) (action : Act α) : Prop := ∀ w s, R s (action w s).2

/-- A kind of changes that takes in everything but messages and new tokens: time passes, something is measured or
recorded. -/
structure Mild (R : Session → Session → Prop) : Prop where
  trans : ∀ {s t u}, R s t → R t u → R s u
  silent : ∀ {s t : Session}, s.events <+: t.events → t.messages = s.messages → t.cache = s.cache →
    t.issues = s.issues → R s t

/-- A kind of changes that takes in everything but new tokens. -/
structure Lenient (R : Session → Session → Prop) : Prop extends Mild R where
  sending : ∀ {s t : Session}, s.events <+: t.events → t.cache = s.cache → t.issues = s.issues → R s t

namespace Mild

variable {R : Session → Session → Prop} (mild : Mild R)

include mild

theorem refl (s : Session) : R s s := mild.silent (List.prefix_refl s.events) rfl rfl rfl

theorem pure (a : α) : Respects R (Pure.pure a : Act α) := fun _ s => mild.refl s

theorem bind {x : Act α} {f : α → Act β} (first : Respects R x) (next : ∀ a, Respects R (f a)) :
    Respects R (x >>= f) := by
  intro w s
  have before := first w s
  rcases result : x w s with ⟨stop | a, t⟩
  · rw [result] at before
    rw [bind_error result]
    exact before
  · rw [result] at before
    rw [bind_ok result]
    exact mild.trans before (next a w t)

theorem fail (error : ClientError) : Respects R (Act.fail error : Act α) := fun _ s => mild.refl s

theorem lift (value : Except ClientError α) : Respects R (Act.lift value) := by
  cases value with
  | error error => exact mild.fail error
  | ok a => exact mild.pure a

theorem surroundings : Respects R Act.surroundings := fun _ s => mild.refl s

theorem session : Respects R Act.session := fun _ s => mild.refl s

theorem cache : Respects R Act.cache := fun _ s => mild.refl s

theorem readClock : Respects R Act.readClock := fun _ s => mild.silent (List.prefix_refl s.events) rfl rfl rfl

theorem silence {s t : Session} {added : List Event} (grown : t.events = s.events ++ added)
    (silent : added.filterMap Event.message? = []) (common : ∀ event ∈ added, event.isIssue = false)
    (same : t.cache = s.cache) : R s t := by
  refine mild.silent ?_ ?_ same ?_
  · rw [grown]
    exact List.prefix_append _ _
  · rw [Session.messages, Session.messages, grown, List.filterMap_append, silent, List.append_nil]
  · have none : added.countP Event.isIssue = 0 := List.countP_eq_zero.mpr fun event inside => by simp [common event inside]
    rw [Session.issues, Session.issues, grown, List.countP_append, none, Nat.add_zero]

/-- Anything but an issued token may be measured. -/
theorem measure {measurements : List Measurement} (common : ∀ m ∈ measurements, m.value ≠ .issued) :
    Respects R (Act.measure measurements) := by
  refine fun _ _ => mild.silence rfl (by simp [List.filterMap_map, Event.message?, Function.comp_def]) ?_ rfl
  intro event inside
  obtain ⟨m, measured, rfl⟩ := List.mem_map.mp inside
  exact beq_eq_false_iff_ne.mpr (common m measured)

theorem log (records : List Log) : Respects R (Act.log records) := by
  refine fun _ _ => mild.silence rfl (by simp [List.filterMap_map, Event.message?, Function.comp_def]) ?_ rfl
  intro event inside
  obtain ⟨record, _, rfl⟩ := List.mem_map.mp inside
  rfl

theorem await (moment : Nat) : Respects R (Act.await moment) := by
  intro w s
  simp only [Act.await, of]
  split
  · split <;> exact mild.silent (List.prefix_refl s.events) rfl rfl rfl
  · exact mild.silent (List.prefix_refl s.events) rfl rfl rfl

theorem receive : Respects R Act.receive :=
  mild.bind mild.surroundings fun _ => mild.bind mild.session fun _ => mild.await _

theorem backOff (server : Option Span) (attempt : Nat) (minimum : Span) :
    Respects R (Act.backOff server attempt minimum) := by
  refine mild.bind mild.surroundings fun w => mild.bind mild.session fun s => mild.bind ?_ fun _ => mild.await _
  exact fun _ s => mild.silence rfl rfl (by simp [Event.isIssue]) rfl

end Mild

theorem Lenient.send {R : Session → Session → Prop} (lenient : Lenient R) (message : Message) :
    Respects R (Act.send message) := by
  have mild := lenient.toMild
  refine mild.bind mild.surroundings fun w => mild.bind mild.session fun s => mild.bind ?_ fun _ =>
    mild.bind (mild.await _) fun _ => mild.pure _
  exact fun _ s => lenient.sending (List.prefix_append s.events _) rfl
    ((List.countP_append ..).trans (Nat.add_zero _))

def Grown (s t : Session) : Prop := s.events <+: t.events

def Quiet (s t : Session) : Prop := t.messages = s.messages

def Untouched (s t : Session) : Prop := t.cache = s.cache

/-- No token was stored, dropped or counted. -/
def Unissued (s t : Session) : Prop := t.cache = s.cache ∧ t.issues = s.issues

theorem lenient_grown : Lenient Grown := ⟨⟨List.IsPrefix.trans, fun grown _ _ _ => grown⟩, fun grown _ _ => grown⟩

theorem mild_quiet : Mild Quiet := ⟨fun first next => next.trans first, fun _ same _ _ => same⟩

theorem lenient_untouched : Lenient Untouched :=
  ⟨⟨fun first next => next.trans first, fun _ _ same _ => same⟩, fun _ same _ => same⟩

theorem lenient_unissued : Lenient Unissued :=
  ⟨⟨fun first next => ⟨next.1.trans first.1, next.2.trans first.2⟩, fun _ _ same count => ⟨same, count⟩⟩,
    fun _ same count => ⟨same, count⟩⟩

theorem grown_setCache (cache : Token.Cache) : Respects Grown (setCache cache) := fun _ s => List.prefix_refl s.events

theorem grown_measure (measurements : List Measurement) : Respects Grown (measure measurements) :=
  fun _ s => List.prefix_append s.events _

/-- What the first part of an action did stays, however the rest of it ends. -/
theorem grown_bind {x : Act α} {f : α → Act β} (next : ∀ a, Respects Grown (f a)) (w : Surroundings) (s : Session) :
    Grown (x w s).2 ((x >>= f) w s).2 := by
  rcases first : x w s with ⟨stop | a, t⟩
  · rw [bind_error first]
    exact List.prefix_refl _
  · rw [bind_ok first]
    exact next a w t

theorem Grown.messages_grow {s t : Session} (grown : Grown s t) : s.messages <+: t.messages := by
  obtain ⟨added, same⟩ := grown
  refine ⟨added.filterMap Event.message?, ?_⟩
  rw [Session.messages, Session.messages, ← same, List.filterMap_append]

theorem Grown.messages {action : Act α} (grows : Respects Grown action) (w : Surroundings) (s : Session) :
    s.messages <+: (action w s).2.messages :=
  (grows w s).messages_grow

end Act

end AuthzClient
