import AuthzClient.Failure.ClientError
import AuthzClient.Measurement
import AuthzClient.Retry.Backoff
import AuthzClient.Token.Cache

/-!
What a client works in, and the actions it is made of. The surroundings say what the transport answers, what the clock
shows and which numbers are drawn; the session keeps the token, the time that has passed and everything that happened.
Only sending, reading a body and waiting take time. A caller whose patience ends during one of them drops the action:
what happened before stays, and nothing else happens.
-/

namespace AuthzClient

open Http

/-- What a message meets: a response or a failure, and the time until it is there. A response without success is there
with as much of its body as is kept of it. -/
structure Reply where
  outcome : Except TransportError Response
  latency : Span

/-- Everything that decides about a run besides the client itself. -/
structure Surroundings where
  /-- What the messages meet in the order in which they are sent. -/
  replies : Nat → Reply
  /-- What the clock shows, reading by reading. -/
  clock : Nat → Instant
  /-- The random part of the margin at each check of a token, counted as the clock's readings. -/
  jitter : Nat → Span
  /-- The numbers that are drawn for each wait. -/
  draws : Nat → Retry.Draws
  /-- The time at which the caller's patience ends. -/
  deadline : Option Nat
  /-- How long the body of each reply takes to be there behind its head, if somebody reads it. -/
  bodies : Nat → Span := fun _ => .zero

inductive Event
  /-- A message was handed to the transport at a time; `finish` is the time at which its reply is there. -/
  | sent (message : Message) (start finish : Nat)
  | waited (span : Span)
  | measured (measurement : Measurement)
  | logged (record : Log)
  deriving Repr

/-- A session between two actions. -/
structure Session where
  /-- Nanoseconds since the session began. -/
  time : Nat
  /-- Number of messages handed to the transport. -/
  sent : Nat
  /-- Number of times that the clock was read. -/
  readings : Nat
  waits : Nat
  cache : Token.Cache
  /-- What happened, in order. -/
  events : List Event

/-- A session in which nothing happened. -/
def Session.fresh : Session := ⟨0, 0, 0, 0, .empty, []⟩

/-- Why an action ends without a value. -/
inductive Stop
  | failed (error : ClientError)
  /-- The caller's patience ended. -/
  | dropped
  deriving Repr

abbrev Act (α : Type) := ReaderT Surroundings (ExceptT Stop (StateM Session)) α

namespace Act

variable {α : Type}

def of (f : Surroundings → Session → Except Stop α × Session) : Act α := f

def fail (error : ClientError) : Act α := throw (.failed error)

/-- Ends with a failure, if there is one. -/
def lift : Except ClientError α → Act α
  | .ok a => pure a
  | .error error => fail error

/-- What the action works in. -/
def surroundings : Act Surroundings := of fun w s => (.ok w, s)

def session : Act Session := of fun _ s => (.ok s, s)

def update (f : Session → Session) : Act Unit := of fun _ s => (.ok (), f s)

def measure (measurements : List Measurement) : Act Unit :=
  update fun s => { s with events := s.events ++ measurements.map .measured }

def log (records : List Log) : Act Unit := update fun s => { s with events := s.events ++ records.map .logged }

/-- Lets time pass up to a given time, or drops the action if the caller's patience ends before. -/
def await (moment : Nat) : Act Unit := of fun w s =>
  match w.deadline with
  | some deadline =>
    if deadline < moment then (.error .dropped, { s with time := max s.time deadline })
    else (.ok (), { s with time := max s.time moment })
  | none => (.ok (), { s with time := max s.time moment })

def send (message : Message) : Act (Except TransportError Response) := do
  let w ← surroundings
  let s ← session
  let reply := w.replies s.sent
  let finish := s.time + reply.latency.nanos
  update fun s => { s with sent := s.sent + 1, events := s.events ++ [.sent message s.time finish] }
  await finish
  return reply.outcome

/-- Reads the body of the latest reply to its end. -/
def receive : Act Unit := do
  let w ← surroundings
  let s ← session
  await (s.time + (w.bodies (s.sent - 1)).nanos)

/-- Waits as long as the server asked for, or as the backoff says. -/
def backOff (server : Option Span) (attempt : Nat) (minimum : Span) : Act Unit := do
  let w ← surroundings
  let s ← session
  let span := (Retry.delay (w.draws s.waits) server attempt (some minimum)).1
  update fun s => { s with waits := s.waits + 1, events := s.events ++ [.waited span] }
  await (s.time + span.nanos)

/-- Reads the clock: the instant, and the random part of the margin that goes with it. -/
def readClock : Act (Instant × Span) := do
  let w ← surroundings
  let s ← session
  update fun s => { s with readings := s.readings + 1 }
  return (w.clock s.readings, w.jitter s.readings)

def cache : Act Token.Cache := return (← session).cache

def setCache (cache : Token.Cache) : Act Unit := update fun s => { s with cache := cache }

end Act

end AuthzClient
