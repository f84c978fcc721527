import AuthzClient.Proofs.Session.Changes
import AuthzClient.Token.Crowd
import Mathlib.Data.List.Forall2

/-!
Two sessions side by side that differ at most in the messages they have sent. Actions agree if from such sessions they
come to such sessions again and end alike. Whatever is put together of actions that agree does so as well; a call does
if the messages of its attempts differ no more than is allowed.
-/

namespace AuthzClient

open Http

/-- Two results that fail alike or give values that belong together. -/
inductive Except.Alike {ε α β : Type} (Q : α → β → Prop) : Except ε α → Except ε β → Prop
  | ok {a : α} {b : β} (related : Q a b) : Alike Q (.ok a) (.ok b)
  | error (e : ε) : Alike Q (.error e) (.error e)

theorem Except.alike_self {ε α : Type} (x : Except ε α) : Alike Eq x x := by
  cases x with
  | ok a => exact .ok rfl
  | error e => exact .error e

theorem Except.Alike.bind {ε α β γ δ : Type} {P : α → β → Prop} {Q : γ → δ → Prop} {x : Except ε α} {y : Except ε β}
    {f : α → Except ε γ} {g : β → Except ε δ} (first : Alike P x y) (next : ∀ {a b}, P a b → Alike Q (f a) (g b)) :
    Alike Q (x >>= f) (y >>= g) := by
  cases first with
  | ok related => exact next related
  | error e => exact .error e

theorem Except.Alike.mono {ε α β : Type} {P Q : α → β → Prop} {x : Except ε α} {y : Except ε β} (alike : Alike P x y)
    (implied : ∀ {a b}, P a b → Q a b) : Alike Q x y := by
  cases alike with
  | ok related => exact .ok (implied related)
  | error e => exact .error e

theorem Except.Alike.eq {ε α : Type} {x y : Except ε α} (alike : Alike Eq x y) : x = y := by
  cases alike with
  | ok same => rw [same]
  | error e => rfl

variable {E : Message → Message → Prop}

/-- The same event, up to what may differ in a message. -/
inductive Event.Alike (E : Message → Message → Prop) : Event → Event → Prop
  | same (event : Event) : Alike E event event
  | sent {one other : Message} (alike : E one other) (start finish : Nat) :
      Alike E (.sent one start finish) (.sent other start finish)

/-- Sessions that are the same up to what may differ in their messages. -/
inductive Session.Alike (E : Message → Message → Prop) : Session → Session → Prop
  | of (time sent readings waits : Nat) (cache : Token.Cache) {events others : List Event}
      (alike : List.Forall₂ (Event.Alike E) events others) :
      Alike E ⟨time, sent, readings, waits, cache, events⟩ ⟨time, sent, readings, waits, cache, others⟩

theorem Event.alike_self (events : List Event) : List.Forall₂ (Event.Alike E) events events :=
  List.forall₂_same.mpr fun event _ => .same event

theorem Session.alike_self (s : Session) : s.Alike E s := .of _ _ _ _ _ (Event.alike_self s.events)

theorem Session.Alike.time_eq {s t : Session} (alike : s.Alike E t) : s.time = t.time := by
  cases alike
  rfl

namespace Act

variable {α β γ δ : Type} {P : α → β → Prop} {Q : γ → δ → Prop}

/-- Two actions that lead from alike sessions to alike sessions and end alike, with values that belong together. -/
def Agree (E : Message → Message → Prop) (Q : α → β → Prop) (one : Act α) (other : Act β) : Prop :=
  ∀ w s t, Session.Alike E s t → Except.Alike Q (one w s).1 (other w t).1 ∧ Session.Alike E (one w s).2 (other w t).2

namespace Agree

theorem pure {a : α} {b : β} (related : P a b) : Agree E P (Pure.pure a) (Pure.pure b) :=
  fun _ _ _ alike => ⟨.ok related, alike⟩

theorem bind {x : Act α} {y : Act β} {f : α → Act γ} {g : β → Act δ} (first : Agree E P x y)
    (next : ∀ {a b}, P a b → Agree E Q (f a) (g b)) : Agree E Q (x >>= f) (y >>= g) := by
  intro w s t alike
  obtain ⟨ends, after⟩ := first w s t alike
  rcases one : x w s with ⟨stop | a, u⟩
  · rcases other : y w t with ⟨halt | b, v⟩
    · rw [one, other] at ends after
      rw [bind_error one, bind_error other]
      cases ends
      exact ⟨.error stop, after⟩
    · rw [one, other] at ends
      cases ends
  · rcases other : y w t with ⟨halt | b, v⟩
    · rw [one, other] at ends
      cases ends
    · rw [one, other] at ends after
      rw [bind_ok one, bind_ok other]
      cases ends with
      | ok related => exact next related w u v after

/-- Behind a first part with equal values the second parts are compared value by value. -/
theorem bind_eq {x y : Act α} {f : α → Act γ} {g : α → Act δ} (first : Agree E Eq x y)
    (next : ∀ a, Agree E Q (f a) (g a)) : Agree E Q (x >>= f) (y >>= g) :=
  first.bind fun same => same ▸ next _

theorem fail (error : ClientError) : Agree E P (Act.fail error) (Act.fail error) :=
  fun _ _ _ alike => ⟨.error _, alike⟩

theorem lift (value : Except ClientError α) : Agree E Eq (Act.lift value) (Act.lift value) := by
  cases value with
  | error error => exact fail error
  | ok a => exact pure rfl

theorem surroundings : Agree E Eq Act.surroundings Act.surroundings := fun _ _ _ alike => ⟨.ok rfl, alike⟩

theorem session : Agree E (Session.Alike E) Act.session Act.session := fun _ _ _ alike => ⟨.ok alike, alike⟩

theorem update {f g : Session → Session} (kept : ∀ {s t}, Session.Alike E s t → Session.Alike E (f s) (g t)) :
    Agree E Eq (Act.update f) (Act.update g) :=
  fun _ _ _ alike => ⟨.ok rfl, kept alike⟩

/-- What happens in both sessions is added to both. -/
theorem happen (added : List Event) :
    Agree E Eq (Act.update fun s => { s with events := s.events ++ added })
      (Act.update fun s => { s with events := s.events ++ added }) := by
  refine update fun {s t} before => ?_
  cases before with
  | of time sent readings waits cache earlier =>
    exact .of _ _ _ _ _ (List.rel_append earlier (Event.alike_self added))

theorem measure (measurements : List Measurement) : Agree E Eq (Act.measure measurements) (Act.measure measurements) :=
  happen _

theorem log (records : List Log) : Agree E Eq (Act.log records) (Act.log records) := happen _

theorem await (moment : Nat) : Agree E Eq (Act.await moment) (Act.await moment) := by
  intro w s t alike
  cases alike with
  | of time sent readings waits cache alike =>
    simp only [Act.await, of]
    split
    · split
      · exact ⟨.error _, .of _ _ _ _ _ alike⟩
      · exact ⟨.ok rfl, .of _ _ _ _ _ alike⟩
    · exact ⟨.ok rfl, .of _ _ _ _ _ alike⟩

theorem send {one other : Message} (alike : E one other) : Agree E Eq (Act.send one) (Act.send other) := by
  refine surroundings.bind_eq fun w => session.bind fun {s t} before => ?_
  cases before with
  | of time sent readings waits cache earlier =>
    refine bind_eq (update fun {s t} between => ?_) fun _ => (await _).bind_eq fun _ => pure rfl
    cases between with
    | of _ _ _ _ _ between => exact .of _ _ _ _ _ (List.rel_append between (.cons (.sent alike _ _) .nil))

theorem receive : Agree E Eq Act.receive Act.receive := by
  refine surroundings.bind_eq fun w => session.bind fun {s t} before => ?_
  cases before with
  | of time sent readings waits cache earlier => exact await _

theorem backOff (server : Option Span) (attempt : Nat) (minimum : Span) :
    Agree E Eq (Act.backOff server attempt minimum) (Act.backOff server attempt minimum) := by
  refine surroundings.bind_eq fun w => session.bind fun {s t} before => ?_
  cases before with
  | of time sent readings waits cache earlier =>
    refine bind_eq (update fun {s t} between => ?_) fun _ => await _
    cases between with
    | of _ _ _ _ _ between => exact .of _ _ _ _ _ (List.rel_append between (Event.alike_self _))

theorem readClock : Agree E Eq Act.readClock Act.readClock := by
  refine surroundings.bind_eq fun w => session.bind fun {s t} before => ?_
  cases before with
  | of time sent readings waits cache earlier =>
    refine bind_eq (update fun {s t} between => ?_) fun _ => pure rfl
    cases between with
    | of _ _ _ _ _ between => exact .of _ _ _ _ _ between

theorem cache : Agree E Eq Act.cache Act.cache := by
  refine session.bind fun {s t} before => ?_
  cases before with
  | of time sent readings waits cache earlier => exact pure rfl

theorem setCache (cache : Token.Cache) : Agree E Eq (Act.setCache cache) (Act.setCache cache) := by
  refine update fun {s t} before => ?_
  cases before with
  | of time sent readings waits _ earlier => exact .of _ _ _ _ _ earlier

theorem settle {x y : Act α} (agree : Agree E Eq x y) : Agree E Eq (Act.settle x) (Act.settle y) := by
  intro w s t alike
  obtain ⟨ends, after⟩ := agree w s t alike
  rcases one : x w s with ⟨end₁, u⟩
  rcases other : y w t with ⟨end₂, v⟩
  rw [one, other] at ends after
  simp only [Act.settle, of, one, other]
  cases ends with
  | ok same => exact ⟨.ok (congrArg _ same), after⟩
  | error stop =>
    cases stop with
    | failed error => exact ⟨.ok rfl, after⟩
    | dropped => exact ⟨.error _, after⟩

theorem takesTime {x : Act α} {y : Act β} (agree : Agree E P x y) : Agree E Eq (Act.takesTime x) (Act.takesTime y) := by
  intro w s t alike
  obtain ⟨_, after⟩ := agree w s t alike
  simp only [Act.takesTime, of, after.time_eq, alike.time_eq]
  exact ⟨.ok rfl, alike⟩

end Agree

end Act

open Act

namespace Call

variable (identity : Identity) (request : Request) (body : List UInt8) (plan : RetryPlan)

theorem agree_serverDelay (outcome : Except TransportError Response) :
    Agree E Eq (serverDelay outcome) (serverDelay outcome) := by
  cases outcome with
  | error => exact Agree.pure rfl
  | ok response => exact Agree.readClock.bind_eq fun reading => Agree.pure rfl

theorem agree_pause (attempt : Nat) (outcome : Except TransportError Response) :
    Agree E Eq (pause identity request plan attempt outcome)
      (pause identity (request.withBody body) plan attempt outcome) :=
  (agree_serverDelay outcome).bind_eq fun server =>
    (Agree.log _).bind_eq fun _ => Agree.backOff server attempt _

theorem agree_measureEnd (began attempt : Nat) (response : Option (Nat × Headers)) :
    Agree E Eq (measureEnd identity request began attempt response)
      (measureEnd identity (request.withBody body) began attempt response) := by
  refine Agree.session.bind fun {s t} before => ?_
  cases before with
  | of time sent readings waits cache earlier => exact Agree.measure _

theorem agree_giveUp (began attempt : Nat) (cause : Cause) (earlier : List Cause) :
    Agree E Eq (giveUp identity request began attempt cause earlier)
      (giveUp identity (request.withBody body) began attempt cause earlier) :=
  (agree_measureEnd identity request body began attempt _).bind_eq fun _ => Agree.fail _

variable {request body} {authorize other : Act (Option HeaderValue)} {V : Option HeaderValue → Option HeaderValue → Prop}
variable (authorizing : Agree E V authorize other)
variable (written : ∀ attempt {one other}, V one other →
  Option.Rel E (request.message? attempt one) ((request.withBody body).message? attempt other))

include authorizing written

theorem agree_sendOnce (attempt : Nat) :
    Agree E Eq (sendOnce request authorize attempt) (sendOnce (request.withBody body) other attempt) := by
  refine authorizing.bind fun {one other} related => ?_
  have both := written attempt related
  cases first : request.message? attempt one with
  | none =>
    rw [first] at both
    cases second : (request.withBody body).message? attempt other with
    | none => exact Agree.fail _
    | some message =>
      rw [second] at both
      cases both
  | some message =>
    rw [first] at both
    cases second : (request.withBody body).message? attempt other with
    | none =>
      rw [second] at both
      cases both
    | some message =>
      rw [second] at both
      cases both with
      | some alike => exact Agree.send alike

/-- By induction on the retries left: an attempt that is not the last one leaves the same number of them to both calls. -/
theorem agree_attempts (began left attempt : Nat) (earlier : List Cause) :
    Agree E Eq (attempts identity request plan authorize began left attempt earlier)
      (attempts identity (request.withBody body) plan other began left attempt earlier) := by
  have ended (attempt : Nat) (response : Response) : Agree E Eq
      (do measureEnd identity request began attempt (some (response.status, response.headers)); return response)
      (do measureEnd identity (request.withBody body) began attempt (some (response.status, response.headers))
          return response) :=
    (agree_measureEnd identity request body began attempt _).bind_eq fun _ => Agree.pure rfl
  induction left generalizing attempt earlier with
  | zero =>
    unfold attempts
    refine (agree_sendOnce authorizing written attempt).bind_eq fun outcome => ?_
    cases success? outcome with
    | some response => exact ended attempt response
    | none => exact (Agree.log _).bind_eq fun _ => agree_giveUp identity request body began attempt _ earlier
  | succ left ih =>
    unfold attempts
    refine (agree_sendOnce authorizing written attempt).bind_eq fun outcome => ?_
    cases success? outcome with
    | some response => exact ended attempt response
    | none =>
      refine (Agree.log _).bind_eq fun _ => ?_
      dsimp only
      split
      · exact (agree_pause identity request body plan attempt outcome).bind_eq fun _ => ih _ _
      · exact agree_giveUp identity request body began attempt _ earlier

/-- Calls agree whose requests differ at most in the body, if the messages of all attempts are related. -/
theorem agree_run :
    Agree E Eq (run identity request plan authorize) (run identity (request.withBody body) plan other) := by
  refine Agree.session.bind fun {s t} before => ?_
  cases before with
  | of time sent readings waits cache earlier => exact agree_attempts identity plan authorizing written _ _ _ _

end Call

namespace Act.Agree

theorem look : Agree E Eq Token.Source.look Token.Source.look := by
  refine cache.bind_eq fun cache => ?_
  split
  · exact pure rfl
  · refine readClock.bind_eq fun reading => ?_
    dsimp only
    split
    · exact pure rfl
    · exact pure rfl

theorem looks (callers : Nat) : Agree E Eq (Token.Source.looks callers) (Token.Source.looks callers) := by
  induction callers with
  | zero => exact pure rfl
  | succ callers ih => exact look.bind_eq fun found => ih.bind_eq fun later => pure rfl

end Act.Agree

end AuthzClient
