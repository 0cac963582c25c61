import Rulebook.Text.Digit

/-!
# Decimal texts of integers

An integer text is a run of digits of any script, with a sign, white space around it and single low lines
between digits allowed. More than 4300 digits are refused.
-/

namespace Rulebook.Text

/-- Digit values with single low lines between digits; the flag tells that a digit came last. -/
def digitsWithMarks : Bool → List Nat → Text → Option (List Nat)
  | afterDigit, done, [] => if afterDigit then some done.reverse else none
  | afterDigit, done, c :: rest =>
    if c = 0x5f then (if afterDigit then digitsWithMarks false done rest else none)
    else
      match digitValue? c with
      | some d => digitsWithMarks true (d :: done) rest
      | none => none

/-- A sign and what follows it. -/
def splitSign : Text → Bool × Text
  | 0x2d :: rest => (true, rest)
  | 0x2b :: rest => (false, rest)
  | t => (false, t)

/-- An integer text. -/
def readInteger? (t : Text) : Option Int :=
  let (negative, body) := splitSign (strip t)
  match digitsWithMarks false [] body with
  | none => none
  | some digits =>
    if 4300 < digits.length then none
    else
      let n : Int := valueOfDigits digits
      some (if negative then -n else n)

end Rulebook.Text
