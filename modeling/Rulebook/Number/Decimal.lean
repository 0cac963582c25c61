import Rulebook.Number.Double
import Rulebook.Text.Digit

/-!
# Decimal texts of doubles

A decimal `coefficient · 10 ^ exponent` is read as the nearest double. A double is written with the fewest
digits that read back as it, and of those the nearest to it.
-/

namespace Rulebook

/-- The decimal `coefficient · 10 ^ exponent`. -/
structure Decimal where
  coefficient : Nat
  exponent : Int
  deriving Repr, DecidableEq

namespace Decimal

/-- The number of decimal digits of a number, at least one. -/
def digitCount (n : Nat) : Nat := (Text.ofNat n).length

/-- The decimal as a fraction. -/
def toFraction (d : Decimal) : Nat × Nat :=
  if 0 ≤ d.exponent then (d.coefficient * Nat.pow 10 d.exponent.toNat, 1)
  else (d.coefficient, Nat.pow 10 (-d.exponent).toNat)

/-- The nearest double. Far beyond the range the answer is known from the number of digits alone. -/
def toDouble (d : Decimal) (negative : Bool) : Double :=
  if d.coefficient = 0 then Double.zero negative
  else
    let top := d.exponent + digitCount d.coefficient
    if 400 < top then .infinite negative
    else if top < -400 then Double.zero negative
    else
      let (num, den) := d.toFraction
      Double.ofFraction negative num den

/-- The floor of the decimal logarithm of a positive fraction. -/
def decimalMagnitude (num den : Nat) : Int :=
  let guess : Int := (digitCount num : Int) - digitCount den
  -- the fraction lies between 10 ^ (guess - 1) and 10 ^ (guess + 1)
  let below := if 0 ≤ guess then num < den * Nat.pow 10 guess.toNat else num * Nat.pow 10 (-guess).toNat < den
  if below then guess - 1 else guess

/-- Multiplication of a fraction by a power of ten. -/
def scaleByTen (num den : Nat) (e : Int) : Nat × Nat :=
  if 0 ≤ e then (num * Nat.pow 10 e.toNat, den) else (num, den * Nat.pow 10 (-e).toNat)

/-- The decimals with `digits` digits next to a positive fraction of the given magnitude, the nearer
first, on a tie the even one. -/
def neighbours (num den : Nat) (magnitude : Int) (digits : Nat) : List Decimal :=
  let e := magnitude - digits + 1
  let (a, b) := scaleByTen num den (-e)
  let near := Double.roundQuotient a b
  let down := a / b
  let far := if near = down then down + 1 else down
  [⟨near, e⟩, ⟨far, e⟩]

/-- The first decimal that reads back as the double, trying more and more digits. -/
def shortestFrom (x : Double) (num den : Nat) (magnitude : Int) : Nat → Nat → Option Decimal
  | 0, _ => none
  | tries + 1, digits =>
    match (neighbours num den magnitude digits).find? (fun d => d.toDouble false == x) with
    | some d => some d
    | none => shortestFrom x num den magnitude tries (digits + 1)

/-- The decimal without trailing zeros in its coefficient. -/
def trimZeros : Nat → Decimal → Decimal
  | 0, d => d
  | fuel + 1, d =>
    if d.coefficient ≠ 0 ∧ d.coefficient % 10 = 0 then trimZeros fuel ⟨d.coefficient / 10, d.exponent + 1⟩ else d

/-- The decimal equal to a fraction `num / 2 ^ k`. -/
def exact (num den : Nat) : Decimal :=
  let k := den.log2
  ⟨num * Nat.pow 5 k, -(k : Int)⟩

/-- The decimal with the fewest digits that reads back as the positive finite double. -/
def shortest (x : Double) : Decimal :=
  match x.abs.toFraction? with
  | none => ⟨0, 0⟩
  | some (num, den) =>
    let num := num.natAbs
    if num = 0 then ⟨0, 0⟩
    else
      match shortestFrom x.abs num den (decimalMagnitude num den) 17 1 with
      | some d => trimZeros 20 d
      | none => trimZeros 1100 (exact num den)

/-- How a number text is laid out: where positional notation ends on either side. -/
structure Layout where
  /-- The least decimal magnitude written positionally. -/
  least : Int
  /-- The first decimal magnitude that is written with an exponent again. -/
  limit : Int

/-- Positional from 0.0001 to below 10 ^ 16. -/
def standardLayout : Layout := ⟨-4, 16⟩

/-- The exponent mark, a sign and at least two digits. -/
def exponentText (e : Int) : Text :=
  let digits := Text.ofNat e.natAbs
  Text.cp 'e' :: (if e < 0 then Text.cp '-' else Text.cp '+') ::
    (if digits.length < 2 then Text.cp '0' :: digits else digits)

/-- A decimal as text: positional with at least one digit on both sides of the point, or with an
exponent and a point only where a digit follows it. -/
def render (layout : Layout) (d : Decimal) : Text :=
  let digits := Text.ofNat d.coefficient
  let magnitude := d.exponent + digits.length - 1
  if layout.least ≤ magnitude ∧ magnitude < layout.limit then
    if 0 ≤ d.exponent then
      digits ++ List.replicate d.exponent.toNat (Text.cp '0') ++ [Text.cp '.', Text.cp '0']
    else if 0 ≤ magnitude then
      let whole := (magnitude + 1).toNat
      digits.take whole ++ Text.cp '.' :: digits.drop whole
    else
      Text.cp '0' :: Text.cp '.' :: List.replicate (-magnitude - 1).toNat (Text.cp '0') ++ digits
  else
    match digits with
    | [] => []
    | [c] => c :: exponentText magnitude
    | c :: more => c :: Text.cp '.' :: more ++ exponentText magnitude

end Decimal

/-- The text of a double: the shortest decimal that reads back, `inf` or `nan`. -/
def Double.text : Double → Text
  | .nan => "nan"
  | .infinite s => if s then "-inf" else "inf"
  | .finite s m e =>
    let t := if m = 0 then ("0.0" : Text) else Decimal.render Decimal.standardLayout (Decimal.shortest (.finite false m e))
    if s then Text.cp '-' :: t else t

end Rulebook
