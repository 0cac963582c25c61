import Rulebook.Value.Equality

/-!
# Numbers in templates

The numbers that values of templates stand for.
-/

namespace Rulebook.Template

/-- A number of the kinds that arithmetic knows. -/
inductive Number where
  | int (n : Int)
  | float (x : Double)
  deriving Repr, DecidableEq, Inhabited

/-- The number that a value is. -/
def asNumber? : Value → Option Number
  | .int n => some (.int n)
  | .bool b => some (.int (if b then 1 else 0))
  | .float x => some (.float x)
  | _ => none

/-- The greatest size of a sequence. -/
def maxSize : Nat := 9223372036854775807

/-- The number lies in the range of the signed type that has this greatest number. -/
def isWithin (most : Nat) (n : Int) : Bool := -(most : Int) ≤ n + 1 && n ≤ most

/-- A number beyond the range of a type. -/
def beyondRange (type : Text) : Fault := ⟨.overflow, "Python int too large to convert to C " ++ type⟩

/-- A number as a double; an integer beyond the range has none. -/
def Number.toDouble? : Number → Except Fault Double
  | .int n =>
    match Double.ofInt n with
    | .infinite _ => .error ⟨.overflow, "int too large to convert to float"⟩
    | x => .ok x
  | .float x => .ok x

/-- A double without its fraction. -/
def integerOf (x : Double) : Except Fault Int :=
  match x.truncate? with
  | some n => .ok n
  | none =>
    if x.isNaN then .error (Fault.badValue "cannot convert float NaN to integer")
    else .error ⟨.overflow, "cannot convert float infinity to integer"⟩

/-- A number without its fraction. -/
def Number.truncated : Number → Except Fault Int
  | .int n => .ok n
  | .float x => integerOf x

end Rulebook.Template
