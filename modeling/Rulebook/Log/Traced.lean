import Rulebook.Log.Event
import Rulebook.Rule.Error

/-!
# Traced computations

A computation that reports events while it works and ends in a result or a failure. The events before a
failure are kept.
-/

namespace Rulebook

/-- The events of a computation in order, and how it ends. -/
structure Traced (α : Type) where
  events : List Event
  result : Except Failure α

namespace Traced

variable {α β : Type}

/-- Ends in a result without events. -/
protected def pure (a : α) : Traced α := ⟨[], .ok a⟩

/-- Goes on with a result; the events of both stand one after the other. -/
protected def bind (x : Traced α) (f : α → Traced β) : Traced β :=
  match x.result with
  | .ok a =>
    let y := f a
    ⟨x.events ++ y.events, y.result⟩
  | .error e => ⟨x.events, .error e⟩

instance : Monad Traced where
  pure := Traced.pure
  bind := Traced.bind

/-- Ends in a failure. -/
def fail (e : Failure) : Traced α := ⟨[], .error e⟩

/-- Ends in an error of the rule. -/
def logicError (e : LogicError) : Traced α := fail (.logic e)

/-- A result or failure without events. -/
def lift (r : Except Failure α) : Traced α := ⟨[], r⟩

/-- Reports one event. -/
def report (source : Source) (level : Level) (name : Text) (fields : List (Text × Value)) : Traced Unit :=
  ⟨[⟨source, level, name, fields⟩], .ok ()⟩

end Traced

end Rulebook
