import Rulebook.Expression.Direct
import Rulebook.Log.Traced
import Rulebook.Number.Integer

/-!
# Operands of comparisons

How the two sides of a comparison are written as literals. A text that looks like a number becomes a
number literal under a numeric operator, and a quoted text everywhere else.
-/

namespace Rulebook

/-- The parts of a text that looks like a number: its sign, the digits before and after the point, whether
there is a point, and the exponent. -/
structure NumberText where
  negative : Bool
  whole : List Nat
  fraction : List Nat
  pointed : Bool
  exponent : Option Int
  deriving Repr, DecidableEq

namespace NumberText

/-- The leading digits of any script, by value, and the rest. -/
def spanDigits (t : Text) : List Nat × Text :=
  (Text.digitValues (t.takeWhile Text.isDigit), t.dropWhile Text.isDigit)

/-- An exponent up to the end of the text. -/
def readExponent? : Text → Option (Option Int)
  | [] => some none
  | e :: rest =>
    if e = Text.cp 'e' ∨ e = Text.cp 'E' then
      let (negative, rest) := Text.splitSign rest
      let (digits, rest) := spanDigits rest
      if digits.isEmpty ∨ !rest.isEmpty then none
      else
        let n : Int := Text.valueOfDigits digits
        some (some (if negative then -n else n))
    else none

/-- A text that looks like a number: a sign, digits with at most one point among or around them, and an
exponent, with white space around. -/
def read? (t : Text) : Option NumberText :=
  let (negative, body) := Text.splitSign (Text.strip t)
  let (whole, rest) := spanDigits body
  match rest with
  | 0x2e :: after =>
    let (fraction, rest) := spanDigits after
    if whole.isEmpty ∧ fraction.isEmpty then none
    else do return ⟨negative, whole, fraction, true, ← readExponent? rest⟩
  | _ =>
    if whole.isEmpty then none
    else do return ⟨negative, whole, [], false, ← readExponent? rest⟩

/-- Only a sign and digits. -/
def isInteger (n : NumberText) : Bool := !n.pointed && n.exponent.isNone

/-- The denoted integer, for texts of only a sign and digits. -/
def toInt (n : NumberText) : Int :=
  let m : Int := Text.valueOfDigits n.whole
  if n.negative then -m else m

/-- The nearest double. -/
def toDouble (n : NumberText) : Double :=
  let d : Decimal := ⟨Text.valueOfDigits (n.whole ++ n.fraction), n.exponent.getD 0 - n.fraction.length⟩
  d.toDouble n.negative

/-- The literal of the denoted number: an exact integer, or the double in its shortest form. An infinity is
written as a number beyond the range. -/
def literal (n : NumberText) : Except Fault Text :=
  if n.isInteger then
    if maxIntegerDigits < n.whole.length then
      .error (Fault.longNumber n.whole.length)
    else .ok (Text.ofInt n.toInt)
  else
    match n.toDouble with
    | .infinite negative => .ok (if negative then "-1e999" else "1e999")
    | x => .ok x.text

end NumberText

/-- One side of a comparison as a literal. -/
def renderOperand (t : Text) (op : Operator) : Traced Text :=
  if !op.isNumeric then pure (Text.quote t)
  else
    match NumberText.read? t with
    | none => pure (Text.quote t)
    | some n =>
      match n.literal with
      | .ok literal => pure literal
      | .error fault => do
        let stripped := Text.strip t
        Traced.report .comparator .error "numeric_operand_unconvertible"
          [("operand_length", .int stripped.length), ("error", .text fault.message)]
        Traced.logicError (.operand stripped fault)

end Rulebook
