import AuthzClient.Proofs.Session.Changes

/-!
The course of a call: where it stands before each of its attempts, what each message meets, and what the call gives as
soon as an attempt is the last one.
-/

namespace AuthzClient.Call

open Http Act

variable (identity : Identity) (request : Request) (plan : RetryPlan)

theorem serverDelay_ok (outcome : Except TransportError Response) (w : Surroundings) (s : Session) :
    ∃ server t, serverDelay outcome w s = (.ok server, t) := by
  cases outcome with
  | error => exact ⟨_, _, rfl⟩
  | ok response => exact ⟨_, _, rfl⟩

theorem pause_patient {w : Surroundings} (patient : w.deadline = none) (attempt : Nat)
    (outcome : Except TransportError Response) (s : Session) :
    ∃ t, pause identity request plan attempt outcome w s = (.ok (), t) := by
  obtain ⟨server, t, asked⟩ := serverDelay_ok outcome w s
  rw [pause, bind_ok asked]
  exact backOff_patient patient server attempt plan.minimumDelay

/-- A call that begins in a given session. -/
structure Course where
  identity : Identity
  request : Request
  plan : RetryPlan
  authorizer : Authorizer
  surroundings : Surroundings
  start : Session

namespace Course

variable (course : Course)

def result : Except Stop Response × Session :=
  run course.identity course.request course.plan course.authorizer.authorization course.surroundings course.start

/-- A failed attempt and the wait behind it. -/
def failing (i : Nat) : Act Unit := do
  let outcome ← sendOnce course.request course.authorizer.authorization i
  log (unreadRecords outcome)
  pause course.identity course.request course.plan i outcome

/-- The session before an attempt, when the attempts before it have failed. -/
def before : Nat → Session
  | 0 => course.start
  | i + 1 => (course.failing i course.surroundings (before i)).2

def authorization (i : Nat) : Except Stop (Option HeaderValue) :=
  (course.authorizer.authorization course.surroundings (course.before i)).1

/-- An attempt can be made: its authorization does not fail. -/
def Authorized (i : Nat) : Prop := ∃ value, course.authorization i = .ok value

def granted (i : Nat) : Option HeaderValue :=
  match course.authorization i with
  | .ok value => value
  | .error _ => none

/-- The session in which the message of an attempt is sent. -/
def ready (i : Nat) : Session := (course.authorizer.authorization course.surroundings (course.before i)).2

/-- The messages that are sent to authorize an attempt. -/
def exchanged (i : Nat) : List Message := (course.ready i).messages.drop (course.before i).messages.length

def outcome (i : Nat) : Except TransportError Response := (course.surroundings.replies (course.ready i).sent).outcome

def cause (i : Nat) : Cause := causeOf course.identity course.request (course.outcome i)

theorem messages_ready (i : Nat) : (course.ready i).messages = (course.before i).messages ++ course.exchanged i := by
  obtain ⟨added, same⟩ := Grown.messages course.authorizer.grown_authorization course.surroundings (course.before i)
  have ready : (course.ready i).messages = (course.before i).messages ++ added := same.symm
  rw [exchanged, ready, List.drop_left]

def message (target : Target) (i : Nat) : Message :=
  ⟨course.request.method, target, course.request.attemptHeaders i (course.granted i), course.request.body⟩

/-- The session in which the reply to the message of an attempt is there. -/
def answered (target : Target) (i : Nat) : Session :=
  let ready := course.ready i
  let finish := ready.time + (course.surroundings.replies ready.sent).latency.nanos
  { ready with
    time := max ready.time finish
    sent := ready.sent + 1
    events := ready.events ++ [.sent (course.message target i) ready.time finish] }

theorem messages_answered (target : Target) (i : Nat) :
    (course.answered target i).messages =
      (course.before i).messages ++ (course.exchanged i ++ [course.message target i]) := by
  rw [← List.append_assoc, ← messages_ready]
  simp [answered, Session.messages, Event.message?]

/-- Nobody drops the call, and its messages can be written. -/
structure Undisturbed (target : Target) : Prop where
  patient : course.surroundings.deadline = none
  built : Target.parse? course.request.url.text = some target

variable {course} {target : Target} {i left began : Nat} {earlier : List Cause}

theorem Authorized.granted (authorized : course.Authorized i) :
    course.authorization i = .ok (course.granted i) := by
  obtain ⟨value, same⟩ := authorized
  rw [Course.granted, same]

theorem sendOnce_authorized (calm : course.Undisturbed target) (authorized : course.Authorized i) :
    sendOnce course.request course.authorizer.authorization i course.surroundings (course.before i) =
      (.ok (course.outcome i), course.answered target i) := by
  have first : course.authorizer.authorization course.surroundings (course.before i) =
      (.ok (course.granted i), course.ready i) := Prod.ext authorized.granted rfl
  have message : course.request.message? i (course.granted i) = some (course.message target i) := by
    rw [Request.message?, calm.built]
    rfl
  rw [sendOnce, bind_ok first, message]
  exact send_patient calm.patient _

theorem success?_of_isRetryable {outcome : Except TransportError Response} (again : isRetryable outcome = true) :
    success? outcome = none := by
  cases outcome with
  | error => rfl
  | ok response =>
    refine if_neg fun success => ?_
    simp only [isRetryable, Retry.shouldRetry, Response.isSuccess, Bool.or_eq_true, Bool.and_eq_true, beq_iff_eq,
      decide_eq_true_eq] at again success
    omega

theorem failing_authorized (calm : course.Undisturbed target) (authorized : course.Authorized i) :
    ∃ t, log (unreadRecords (course.outcome i)) course.surroundings (course.answered target i) = (.ok (), t) ∧
      pause course.identity course.request course.plan i (course.outcome i) course.surroundings t =
        (.ok (), course.before (i + 1)) := by
  refine ⟨_, rfl, ?_⟩
  obtain ⟨u, paused⟩ := pause_patient course.identity course.request course.plan calm.patient i (course.outcome i)
    (log (unreadRecords (course.outcome i)) course.surroundings (course.answered target i)).2
  have next : course.before (i + 1) = u := by
    rw [before, failing, bind_ok (sendOnce_authorized calm authorized)]
    exact congrArg Prod.snd paused
  rw [next]
  exact paused

theorem messages_before_succ (calm : course.Undisturbed target) (authorized : course.Authorized i) :
    (course.before (i + 1)).messages =
      (course.before i).messages ++ (course.exchanged i ++ [course.message target i]) := by
  obtain ⟨t, logged, paused⟩ := failing_authorized calm authorized
  have quiet : Quiet _ _ := respects_pause course.identity course.request course.plan mild_quiet i (course.outcome i)
    course.surroundings t
  have recorded : Quiet _ _ := mild_quiet.log (unreadRecords (course.outcome i)) course.surroundings
    (course.answered target i)
  rw [paused] at quiet
  rw [logged] at recorded
  rw [quiet, recorded, messages_answered]

/-- What the call gives if an attempt is the last one, `earlier` being the failures before it, the latest one first. -/
def ending (course : Course) (i : Nat) (earlier : List Cause) : Except Stop Response :=
  match success? (course.outcome i) with
  | some response => .ok response
  | none => .error (.failed (.failed (course.cause i) earlier))

def rest (course : Course) (began left i : Nat) (earlier : List Cause) : Except Stop Response × Session :=
  attempts course.identity course.request course.plan course.authorizer.authorization began left i earlier
    course.surroundings (course.before i)

/-- A failure that is to be repeated leads to the next attempt, with one retry less. -/
theorem rest_again (calm : course.Undisturbed target) (authorized : course.Authorized i)
    (again : isRetryable (course.outcome i) = true) :
    course.rest began (left + 1) i earlier = course.rest began left (i + 1) (course.cause i :: earlier) := by
  obtain ⟨t, logged, paused⟩ := failing_authorized calm authorized
  rw [rest, attempts, bind_ok (sendOnce_authorized calm authorized), success?_of_isRetryable again]
  dsimp only
  rw [bind_ok logged, if_pos again, bind_ok paused]
  rfl

/-- Any other attempt is the last one. -/
theorem rest_last (calm : course.Undisturbed target) (authorized : course.Authorized i)
    (settled : left = 0 ∨ isRetryable (course.outcome i) = false) :
    (course.rest began left i earlier).1 = course.ending i earlier ∧
      (course.rest began left i earlier).2.messages =
        (course.before i).messages ++ (course.exchanged i ++ [course.message target i]) := by
  rw [← messages_answered, rest, ending]
  have sent := sendOnce_authorized calm authorized
  cases found : success? (course.outcome i) with
  | some response =>
    have quiet := mild_quiet.bind (respects_measureEnd course.identity course.request mild_quiet began i
      (some (response.status, response.headers))) fun _ => mild_quiet.pure response
    cases left with
    | zero =>
      rw [attempts, bind_ok sent, found]
      exact ⟨rfl, quiet _ _⟩
    | succ left =>
      rw [attempts, bind_ok sent, found]
      exact ⟨rfl, quiet _ _⟩
  | none =>
    have quiet := mild_quiet.bind (mild_quiet.log (unreadRecords (course.outcome i))) fun _ =>
      respects_giveUp course.identity course.request mild_quiet began i (course.cause i) earlier
    cases left with
    | zero =>
      rw [attempts, bind_ok sent, found]
      exact ⟨rfl, quiet _ _⟩
    | succ left =>
      have final := settled.resolve_left (Nat.succ_ne_zero left)
      rw [attempts, bind_ok sent, found]
      simp only [final, Bool.false_eq_true, if_false]
      exact ⟨rfl, quiet _ _⟩

end Course

end AuthzClient.Call
