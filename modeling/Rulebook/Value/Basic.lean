import Rulebook.Number.Decimal
import Rulebook.Rule.Basic
import Rulebook.Fault

/-!
# Values

The dynamic values that configuration data, variables, settings and template expressions hold. The last
group of constructors arises only while a template is rendered.
-/

namespace Rulebook

/-- The offset of a clock from universal time in seconds, or `utc` itself. -/
inductive Offset where
  | utc
  | seconds (s : Int)
  deriving Repr, DecidableEq, Inhabited

/-- A day of the calendar. -/
structure Date where
  year : Nat
  month : Nat
  day : Nat
  deriving Repr, DecidableEq, Inhabited

/-- A time of day. -/
structure Time where
  hour : Nat
  minute : Nat
  second : Nat
  microsecond : Nat
  deriving Repr, DecidableEq, Inhabited

/-- Something that a template names and that has no value: what using it reports, whether the report comes
from the sandbox, and whether even showing it is reported. -/
structure Undefined where
  message : Text
  forbidden : Bool
  strict : Bool
  deriving Repr, DecidableEq, Inhabited

/-- The parts of a mapping that a view shows. -/
inductive ViewKind where
  | keys
  | values
  | items
  deriving Repr, DecidableEq, Inhabited

/-- A dynamic value. -/
inductive Value where
  | null
  | bool (b : Bool)
  | int (n : Int)
  | float (x : Double)
  /-- A complex number by its real and imaginary part. -/
  | complex (re im : Double)
  /-- The mark of three points. -/
  | ellipsis
  | text (t : Text)
  | bytes (data : List Nat)
  | byteArray (data : List Nat)
  | list (items : List Value)
  | tuple (items : List Value)
  | set (items : List Value)
  | frozenSet (items : List Value)
  | mapping (entries : List (Value × Value))
  | range (start stop step : Int)
  | date (d : Date)
  | time (t : Time)
  | dateTime (d : Date) (t : Time) (offset : Option Offset)
  | rule (r : Rule)
  | undefined (u : Undefined)
  | view (kind : ViewKind) (items : List Value)
  /-- A property of a value that is to be called. -/
  | method (receiver : Value) (name : Text)
  /-- A function that every template can call. -/
  | function (name typeName shown : Text)
  /-- A function defined in the template, by its place among them. -/
  | templateFunction (index : Nat) (name : Text)
  /-- A value with named properties and a fixed text. -/
  | record (typeName : Text) (shown : Text) (fields : List (Text × Value))
  deriving Inhabited

end Rulebook
