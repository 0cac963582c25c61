import Rulebook.Number.Decimal

/-!
# Doubles with a given number of digits

A double written with so many digits behind its point, with an exponent, or in whichever of both forms is shorter.
Each is the decimal of that many digits that is nearest to the double, the even one where two are as near.
-/

namespace Rulebook.Double

/-- Digits with a point before the last of them, of which there are so many; `pointed` tells that a point stands
even before none. -/
def withPoint (pointed : Bool) (places : Nat) (digits : Text) : Text :=
  let digits := List.replicate (places + 1 - digits.length) 0x30 ++ digits
  let whole := digits.take (digits.length - places)
  let fraction := digits.drop (digits.length - places)
  if fraction.isEmpty && !pointed then whole else whole ++ 0x2e :: fraction

/-- A fraction with so many digits behind the point. -/
def fixedText (pointed : Bool) (places num den : Nat) : Text :=
  withPoint pointed places (Text.ofNat (roundQuotient (num * Nat.pow 10 places) den))

/-- The digits of a fraction before an exponent, so many behind the first, and the exponent. -/
def mantissa (places num den : Nat) : Nat × Int :=
  if num = 0 then (0, 0)
  else
    let k := Decimal.decimalMagnitude num den
    let (a, b) := Decimal.scaleByTen num den ((places : Int) - k)
    let m := roundQuotient a b
    if m = Nat.pow 10 (places + 1) then (m / 10, k + 1) else (m, k)

/-- A fraction with an exponent and so many digits behind the point. -/
def exponentText (pointed : Bool) (places num den : Nat) : Text :=
  let (m, k) := mantissa places num den
  withPoint pointed places (Text.ofNat m) ++ Decimal.exponentText k

/-- A text without zeros at its end, nor a point before them. -/
def withoutLastZeros (t : Text) : Text :=
  let kept := (t.reverse.dropWhile (· == 0x30)).reverse
  if kept.getLast? = some 0x2e then kept.dropLast else kept

/-- A fraction with so many digits in all, with an exponent if it is small or has more digits than that. The zeros
at the end are left out unless `pointed`. -/
def generalText (pointed : Bool) (digits num den : Nat) : Text :=
  let digits := max digits 1
  let (m, k) := mantissa (digits - 1) num den
  if -4 ≤ k ∧ k < digits then
    let t := fixedText pointed ((digits : Int) - 1 - k).toNat num den
    if pointed || !t.contains 0x2e then t else withoutLastZeros t
  else
    let t := withPoint pointed (digits - 1) (Text.ofNat m)
    (if pointed || !t.contains 0x2e then t else withoutLastZeros t) ++ Decimal.exponentText k

end Rulebook.Double
