import Rulebook.Session.Basic

/-!
# Logging in sessions

Logging is set up for all loggers at once. A logger keeps the setup that is in force at its first call after
that, and what is set up later does not change it.
-/

namespace Rulebook

namespace Session

/-- The setup that a logger keeps, if it keeps one. -/
def boundSetup (s : Session) (source : Source) : Option LogSetup :=
  (s.bound.find? fun b => b.1 == source).map (·.2)

/-- The setup that a logger uses for its next call. -/
def setupOf (s : Session) (source : Source) : Option LogSetup := (s.boundSetup source).or s.setup

/-- The session in which a logger keeps the setup that it uses. -/
def bindLogger (s : Session) (source : Source) : Session :=
  match s.boundSetup source, s.setup with
  | none, some setup => { s with bound := (source, setup) :: s.bound }
  | _, _ => s

end Session

/-- The text that a logger writes for an event, if the event is grave enough. -/
def LogSetup.lineOf (setup : LogSetup) (e : Event) : Except Fault (Option Text) :=
  setup.write e.level (.text e.name) e.fields []

namespace Act

/-- Hands an event to the logger of its source; an event that cannot be written stops the call. -/
def log (e : Event) : Act Unit := fun s =>
  match s.setupOf e.source with
  | none => ⟨s, [e], [], .ok ()⟩
  | some setup =>
    let s := s.bindLogger e.source
    match setup.lineOf e with
    | .ok line => ⟨s, [], line.toList, .ok ()⟩
    | .error f => ⟨s, [], [], .error (.failure (.fault f))⟩

/-- Hands events to the loggers, one after the other. -/
def logAll : List Event → Act Unit
  | [] => pure ()
  | e :: rest => do
    log e
    logAll rest

/-- A traced computation, whose events go to the loggers. -/
def ofTraced {α : Type} (t : Traced α) : Act α := do
  logAll t.events
  match t.result with
  | .ok a => pure a
  | .error e => stop (.failure e)

/-- Sets logging up. -/
def setUpLogging (setup : LogSetup) : Act Unit := change fun s => { s with setup := some setup }

/-- Sets logging up by values of a level, a form and whether secrets are masked. -/
def setUpLoggingByData (level format redacts : Value) : Act Unit := do
  setUpLogging (← ofFault (LogSetup.ofData level format redacts))

end Act

end Rulebook
