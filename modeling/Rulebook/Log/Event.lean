import Rulebook.Value.Basic

/-!
# Log events

What the library reports while it works: a level, a name and named values in order.
-/

namespace Rulebook

/-- How grave an event is. -/
inductive Level where
  | debug
  | info
  | warning
  | error
  | critical
  deriving Repr, DecidableEq, Inhabited

namespace Level

/-- The name of a level in log lines. -/
def label : Level → String
  | debug => "debug"
  | info => "info"
  | warning => "warning"
  | error => "error"
  | critical => "critical"

/-- The weight by which levels are filtered. -/
def weight : Level → Nat
  | debug => 10
  | info => 20
  | warning => 30
  | error => 40
  | critical => 50

end Level

/-- The parts of the library that report events, each with its own logger. -/
inductive Source where
  | bootstrap
  | evaluator
  | comparator
  | interpolation
  deriving Repr, DecidableEq, Inhabited

/-- A log event. -/
structure Event where
  source : Source
  level : Level
  name : Text
  fields : List (Text × Value)
  deriving Inhabited

end Rulebook
