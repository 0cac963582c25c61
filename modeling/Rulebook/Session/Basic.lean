import Rulebook.Config.Source
import Rulebook.Host.Basic
import Rulebook.Log.Call
import Rulebook.Log.Traced

/-!
# Sessions

What lasts between calls: the host, the configuration that was loaded and the settings made of it, the evaluators
of the threads, what was counted, and how logging is set up. A call takes the session to the next one and ends in
a result or a stop; what it changed before a stop stays changed.
-/

namespace Rulebook

/-- Something that was created, with the number of its creation; no two creations have the same number. -/
structure Created (α : Type) where
  serial : Nat
  value : α
  deriving Repr, DecidableEq, Inhabited

/-- A thread, by its number. -/
abbrev Thread := Nat

/-- What was counted of the evaluations: how they came out, the errors of each class, and how many there were. -/
structure Metrics where
  holding : Nat
  failing : Nat
  errors : Nat
  ofClass : ErrorClass → Nat
  evaluations : Nat

/-- Nothing counted. -/
def Metrics.zero : Metrics := ⟨0, 0, 0, fun _ => 0, 0⟩

/-- All that lasts between calls. -/
structure Session where
  host : Host
  /-- The configuration of the files as it was loaded last. -/
  loaded : Value
  /-- The settings that are kept. -/
  cached : Option (Created Settings)
  /-- The evaluators of the threads that have one, each by its configuration. -/
  evaluators : List (Thread × Created LogicConfig)
  /-- The number of the next creation. -/
  nextSerial : Nat
  metrics : Metrics
  /-- How logging is set up, once it is. -/
  setup : Option LogSetup
  /-- The setups that loggers keep from their first call on. -/
  bound : List (Source × LogSetup)

/-- A session at its beginning. -/
def Session.start (host : Host) : Session := ⟨host, .mapping [], none, [], 0, .zero, none, []⟩

/-- Why a call ends without a result: a failure, or settings with errors. -/
inductive Stop where
  | failure (f : Failure)
  | invalid (errors : List FieldError)
  deriving Repr, Inhabited

/-- What a call leaves: the next session, the events that no logger wrote down because logging was not set up,
the texts that loggers wrote, and how it ended. -/
structure Outcome (α : Type) where
  session : Session
  events : List Event
  written : List Text
  result : Except Stop α

/-- A call in a session. -/
def Act (α : Type) := Session → Outcome α

namespace Act

variable {α β : Type}

/-- Ends in a result and changes nothing. -/
protected def pure (a : α) : Act α := fun s => ⟨s, [], [], .ok a⟩

/-- One call after the other; a stop of the first is the stop of both. -/
protected def bind (x : Act α) (f : α → Act β) : Act β := fun s =>
  let o := x s
  match o.result with
  | .ok a =>
    let p := f a o.session
    ⟨p.session, o.events ++ p.events, o.written ++ p.written, p.result⟩
  | .error e => ⟨o.session, o.events, o.written, .error e⟩

instance : Monad Act where
  pure := Act.pure
  bind := Act.bind

/-- The session as it is. -/
def session : Act Session := fun s => ⟨s, [], [], .ok s⟩

/-- Changes the session. -/
def change (f : Session → Session) : Act Unit := fun s => ⟨f s, [], [], .ok ()⟩

/-- Stops. -/
def stop (e : Stop) : Act α := fun s => ⟨s, [], [], .error e⟩

/-- A result, or a stop by a fault. -/
def ofFault : Except Fault α → Act α
  | .ok a => Act.pure a
  | .error f => stop (.failure (.fault f))

/-- A result, or a stop by fields with errors. -/
def ofChecked : Config.Checked α → Act α
  | .ok a => Act.pure a
  | .error errors => stop (.invalid errors)

/-- Settings, or a stop by what is in their way. -/
def ofObstacle : Except Config.Obstacle α → Act α
  | .ok a => Act.pure a
  | .error (.invalid errors) => stop (.invalid errors)
  | .error (.fault f) => stop (.failure (.fault f))

/-- Something with the number of its creation. -/
def create (a : α) : Act (Created α) := fun s =>
  ⟨{ s with nextSerial := s.nextSerial + 1 }, [], [], .ok ⟨s.nextSerial, a⟩⟩

end Act

end Rulebook
