import Rulebook.Number.Decimal
import Rulebook.Number.Integer

/-!
# Decimal texts of doubles with words

Besides digits with a point and an exponent, the words for infinity and not-a-number are read, with a sign
and in any case. Single low lines may stand between digits.
-/

namespace Rulebook.Text

/-- Leading digits by value with single low lines between them, behind those in `done`, and the rest. -/
def spanMarkedDigits : List Nat → Text → List Nat × Text
  | done, c :: rest =>
    match digitValue? c with
    | some d => spanMarkedDigits (d :: done) rest
    | none =>
      if c = 0x5f ∧ !done.isEmpty then
        match rest with
        | e :: more =>
          match digitValue? e with
          | some d => spanMarkedDigits (d :: done) more
          | none => (done.reverse, c :: rest)
        | [] => (done.reverse, c :: rest)
      else (done.reverse, c :: rest)
  | done, [] => (done.reverse, [])

/-- An exponent up to the end of the text. -/
def wholeExponent? : Text → Option Int
  | [] => some 0
  | e :: rest =>
    if e = cp 'e' ∨ e = cp 'E' then
      let (negative, rest) := splitSign rest
      let (digits, rest) := spanMarkedDigits [] rest
      if digits.isEmpty ∨ !rest.isEmpty then none
      else
        let n : Int := valueOfDigits digits
        some (if negative then -n else n)
    else none

/-- A decimal without its sign. -/
def readDecimal? (t : Text) : Option Decimal :=
  let (whole, rest) := spanMarkedDigits [] t
  let (fraction, rest) :=
    match rest with
    | 0x2e :: more => spanMarkedDigits [] more
    | _ => ([], rest)
  if whole.isEmpty ∧ fraction.isEmpty then none
  else do return ⟨valueOfDigits (whole ++ fraction), (← wholeExponent? rest) - fraction.length⟩

/-- A double written in decimal or by a word. -/
def readReal? (t : Text) : Option Double :=
  let (negative, body) := splitSign (strip t)
  let word := asciiLower body
  if same word "inf" || same word "infinity" then some (.infinite negative)
  else if same word "nan" then some .nan
  else (readDecimal? body).map fun d => d.toDouble negative

end Rulebook.Text
