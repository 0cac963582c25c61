/-!
# Double precision numbers

The binary numbers with 53 bits of precision and exponents from −1074 to 971, with two zeros, two
infinities and one not-a-number. Every operation is the exact one followed by rounding to the nearest
number, ties to the even mantissa.
-/

namespace Rulebook

/-- A double: not a number, an infinity, or `± mantissa · 2 ^ exponent`. The mantissa is below `2 ^ 53`
and, unless the exponent is −1074, at least `2 ^ 52`, so each number has one form. -/
inductive Double where
  | nan
  | infinite (negative : Bool)
  | finite (negative : Bool) (mantissa : Nat) (exponent : Int)
  deriving Repr, DecidableEq, Inhabited

namespace Double

/-- The least exponent, that of the numbers near zero. -/
def leastExponent : Int := -1074

/-- The greatest exponent of a finite number. -/
def greatestExponent : Int := 971

/-- Zero with a sign. -/
def zero (negative : Bool) : Double := .finite negative 0 leastExponent

/-- Multiplication of a fraction by a power of two, as numerator and denominator. -/
def scaleFraction (num den : Nat) (e : Int) : Nat × Nat :=
  if 0 ≤ e then (num * Nat.pow 2 e.toNat, den) else (num, den * Nat.pow 2 (-e).toNat)

/-- The quotient rounded to the nearest natural number, a tie to the even one. -/
def roundQuotient (num den : Nat) : Nat :=
  let q := num / den
  let r := num % den
  if 2 * r < den then q
  else if den < 2 * r then q + 1
  else if q % 2 = 0 then q else q + 1

/-- The integer `e` with `2 ^ e ≤ num / den < 2 ^ (e + 1)`, for positive arguments. -/
def binaryMagnitude (num den : Nat) : Int :=
  let guess : Int := (num.log2 : Int) - den.log2
  let (a, b) := scaleFraction num den (-guess)
  if a < b then guess - 1 else guess

/-- The number nearest to `± num / den`, for a positive denominator. -/
def ofFraction (negative : Bool) (num den : Nat) : Double :=
  if num = 0 then zero negative
  else
    let e := max (binaryMagnitude num den - 52) leastExponent
    let (a, b) := scaleFraction num den (-e)
    let m := roundQuotient a b
    let (m, e) := if m = Nat.pow 2 53 then (Nat.pow 2 52, e + 1) else (m, e)
    if greatestExponent < e then .infinite negative else .finite negative m e

/-- The number nearest to an integer, infinite beyond the range. -/
def ofInt (n : Int) : Double := ofFraction (n < 0) n.natAbs 1

/-- The sign bit. -/
def isNegative : Double → Bool
  | nan => false
  | infinite s => s
  | finite s _ _ => s

/-- Neither infinite nor not-a-number. -/
def isFinite : Double → Bool
  | finite .. => true
  | _ => false

/-- Either zero. -/
def isZero : Double → Bool
  | finite _ m _ => m == 0
  | _ => false

/-- Not-a-number. -/
def isNaN : Double → Bool
  | nan => true
  | _ => false

/-- Change of sign. -/
def neg : Double → Double
  | nan => nan
  | infinite s => infinite !s
  | finite s m e => finite (!s) m e

/-- The number without its sign. -/
def abs : Double → Double
  | nan => nan
  | infinite _ => infinite false
  | finite _ m e => finite false m e

/-- The exact value of a finite number as a fraction with positive denominator. -/
def toFraction? : Double → Option (Int × Nat)
  | finite s m e =>
    let (a, b) := scaleFraction m 1 e
    some (if s then -(a : Int) else a, b)
  | _ => none

/-- The exact order of a number and a fraction with positive denominator; not-a-number has none. -/
def orderFraction (x : Double) (num : Int) (den : Nat) : Option Ordering :=
  match x with
  | nan => none
  | infinite s => some (if s then .lt else .gt)
  | finite .. =>
    match x.toFraction? with
    | none => none
    | some (a, b) => some (compare (a * den) (num * b))

/-- The exact order of two numbers; not-a-number has none, and the zeros are equal. -/
def order (x y : Double) : Option Ordering :=
  match y with
  | nan => none
  | infinite t =>
    match x with
    | nan => none
    | infinite s => some (if s = t then .eq else if s then .lt else .gt)
    | finite .. => some (if t then .gt else .lt)
  | finite .. =>
    match y.toFraction? with
    | none => none
    | some (num, den) => orderFraction x num den

/-- The exact order of a number and an integer. -/
def orderInt (x : Double) (n : Int) : Option Ordering := orderFraction x n 1

/-- Sum. -/
def add (x y : Double) : Double :=
  match x, y with
  | nan, _ => nan
  | _, nan => nan
  | infinite s, infinite t => if s = t then infinite s else nan
  | infinite s, finite .. => infinite s
  | finite .., infinite t => infinite t
  | finite s m e, finite t n f =>
    let low := min e f
    let a : Int := m * Nat.pow 2 (e - low).toNat
    let b : Int := n * Nat.pow 2 (f - low).toNat
    let sum := (if s then -a else a) + (if t then -b else b)
    if sum = 0 then zero (s && t)
    else
      let (num, den) := scaleFraction sum.natAbs 1 low
      ofFraction (sum < 0) num den

/-- Difference. -/
def sub (x y : Double) : Double := add x y.neg

/-- Product. -/
def mul (x y : Double) : Double :=
  match x, y with
  | nan, _ => nan
  | _, nan => nan
  | infinite s, infinite t => infinite (s != t)
  | infinite s, finite t m _ => if m = 0 then nan else infinite (s != t)
  | finite s m _, infinite t => if m = 0 then nan else infinite (s != t)
  | finite s m e, finite t n f =>
    let (num, den) := scaleFraction (m * n) 1 (e + f)
    ofFraction (s != t) num den

/-- Quotient, for a divisor other than zero. -/
def div (x y : Double) : Double :=
  match x, y with
  | nan, _ => nan
  | _, nan => nan
  | infinite _, infinite _ => nan
  | infinite s, finite t _ _ => infinite (s != t)
  | finite s _ _, infinite t => zero (s != t)
  | finite s m e, finite t n f =>
    let (num, den) := scaleFraction m n (e - f)
    ofFraction (s != t) num den

/-- The remainder of the division toward zero, with the sign of the dividend; the divisor is not zero. -/
def remainderTowardZero (x y : Double) : Double :=
  match x, y with
  | nan, _ => nan
  | _, nan => nan
  | infinite _, _ => nan
  | finite .., infinite _ => x
  | finite s m e, finite _ n f =>
    let low := min e f
    let r : Nat := (m * Nat.pow 2 (e - low).toNat) % (n * Nat.pow 2 (f - low).toNat)
    let (num, den) := scaleFraction r 1 low
    ofFraction s num den

/-- The greatest integer not above a finite number. -/
def floorInt? (x : Double) : Option Int := x.toFraction?.map fun (a, b) => a.fdiv b

/-- The integer part of a finite number. -/
def truncate? (x : Double) : Option Int := x.toFraction?.map fun (a, b) => a.tdiv b

/-- A finite number without a fraction. -/
def isIntegral (x : Double) : Bool :=
  match x.toFraction? with
  | some (a, b) => a.natAbs % b == 0
  | none => false

/-- The greatest whole number not above the number. -/
def floor (x : Double) : Double :=
  match x.floorInt? with
  | some n => if n = 0 then zero x.isNegative else ofInt n
  | none => x

/-- The remainder with the sign of the divisor, which is not zero. -/
def mod (x y : Double) : Double :=
  let r := remainderTowardZero x y
  if r.isNaN then nan
  else if r.isZero then zero y.isNegative
  else if y.isNegative != r.isNegative then add r y else r

/-- The whole quotient that goes with `mod`, for a divisor other than zero. -/
def floorDiv (x y : Double) : Double :=
  let r := remainderTowardZero x y
  let q := div (sub x r) y
  let q := if !r.isZero && !r.isNaN && y.isNegative != r.isNegative then sub q (ofInt 1) else q
  if q.isNaN then nan
  else if q.isZero then zero (x.isNegative != y.isNegative)
  else
    let down := q.floor
    if order (sub q down) (ofFraction false 1 2) == some .gt then add down (ofInt 1) else down

/-- The number with the bits of an IEEE 754 double. -/
def ofBits (bits : Nat) : Double :=
  let negative := bits / Nat.pow 2 63 % 2 == 1
  let field : Nat := bits / Nat.pow 2 52 % Nat.pow 2 11
  let fraction : Nat := bits % Nat.pow 2 52
  if field = 2047 then (if fraction = 0 then infinite negative else nan)
  else if field = 0 then finite negative fraction leastExponent
  else finite negative (fraction + Nat.pow 2 52) ((field : Int) - 1075)

/-- The bits of the number as an IEEE 754 double. -/
def toBits : Double → Nat
  | nan => 0x7ff8000000000000
  | infinite s => (if s then Nat.pow 2 63 else 0) + 2047 * Nat.pow 2 52
  | finite s m e =>
    (if s then Nat.pow 2 63 else 0) +
      (if m < Nat.pow 2 52 then m else m - Nat.pow 2 52 + (e + 1075).toNat * Nat.pow 2 52)

/-- Power with a fractional or negative result, as the machine computes it. -/
def pow (x y : Double) : Double :=
  ofBits ((Float.ofBits x.toBits.toUInt64) ^ (Float.ofBits y.toBits.toUInt64)).toBits.toNat

end Double

end Rulebook
