import Rulebook.Value.Equality
import Rulebook.Text.Quoted

/-!
# Comparisons of two literals

The expressions that the comparison of operands renders: two literals with one relation between them. A
literal is a double-quoted text on one line or a number; this reader takes exactly these and leaves every
other expression to the full grammar.
-/

namespace Rulebook.Expression

/-- The relations that can be evaluated. -/
inductive Relation where
  | equal
  | notEqual
  | less
  | greater
  deriving Repr, DecidableEq, Inhabited

namespace Relation

/-- The symbol of a relation. -/
def symbol : Relation → String
  | equal => "=="
  | notEqual => "!="
  | less => "<"
  | greater => ">"

end Relation

/-- The greatest length of a text in an expression. -/
def maxLiteralLength : Nat := 100000

/-- The code point of two hexadecimal digits. -/
def hexPair? : Text → Option (CodePoint × Text)
  | a :: b :: rest => do return ((← Text.hexValue? a) * 16 + (← Text.hexValue? b), rest)
  | _ => none

/-- The body of a double-quoted literal after its opening quote, in the escapes that quoting writes. -/
def readQuoted : Nat → Text → Text → Option (Text × Text)
  | 0, _, _ => none
  | _ + 1, _, [] => none
  | fuel + 1, done, c :: rest =>
    if c = 0x22 then some (done.reverse, rest)
    else if c = 0x5c then
      match rest with
      | [] => none
      | e :: rest =>
        if e = 0x5c ∨ e = 0x22 then readQuoted fuel (e :: done) rest
        else if e = Text.cp 'x' then
          match hexPair? rest with
          | some (c, rest) => readQuoted fuel (c :: done) rest
          | none => none
        else if e = Text.cp 'u' then
          match hexPair? rest with
          | some (high, rest) =>
            match hexPair? rest with
            | some (low, rest) => readQuoted fuel ((high * 256 + low) :: done) rest
            | none => none
          | none => none
        else none
    else if Text.isUnprintable c then none
    else readQuoted fuel (c :: done) rest

/-- A mark `e` with a signed whole number, if one follows; otherwise zero. -/
def readExponent (t : Text) : Option (Int × Text) :=
  match t with
  | 0x65 :: 0x2b :: rest => exponentAfter false rest
  | 0x65 :: 0x2d :: rest => exponentAfter true rest
  | 0x65 :: rest => exponentAfter false rest
  | _ => none
where
  /-- The digits of an exponent. -/
  exponentAfter (negative : Bool) (t : Text) : Option (Int × Text) :=
    let (digits, rest) := Text.spanDigits t
    if digits.isEmpty then none
    else some (if negative then -(Text.digitsValue digits : Int) else Text.digitsValue digits, rest)

/-- A number without a sign. A whole number has no leading zero. -/
def readUnsigned (t : Text) : Option (Value × Text) :=
  let (whole, rest) := Text.spanDigits t
  match whole with
  | [] => none
  | first :: more =>
    let (fraction, pointed, rest) :=
      match rest with
      | 0x2e :: after =>
        let (digits, tail) := Text.spanDigits after
        (digits, true, tail)
      | _ => ([], false, rest)
    match readExponent rest with
    | some (e, rest) =>
      let d : Decimal := ⟨Text.digitsValue (whole ++ fraction), e - fraction.length⟩
      some (.float (d.toDouble false), rest)
    | none =>
      if pointed then
        let d : Decimal := ⟨Text.digitsValue (whole ++ fraction), -(fraction.length : Int)⟩
        some (.float (d.toDouble false), rest)
      else if (first = 0x30 ∧ !more.isEmpty) ∨ 4300 < whole.length then none
      else some (.int (Text.digitsValue whole), rest)

/-- A number after a minus sign, with the sign applied. -/
def negate? : Value → Option Value
  | .int n => some (.int (-n))
  | .float x => some (.float x.neg)
  | _ => none

/-- A literal: a double-quoted text or a number with at most one minus sign. -/
def readLiteral (t : Text) : Option (Value × Text) :=
  match t with
  | 0x22 :: rest =>
    match readQuoted (rest.length + 1) [] rest with
    | some (s, rest) => some (.text s, rest)
    | none => none
  | 0x2d :: rest => do
    let (v, rest) ← readUnsigned rest
    return (← negate? v, rest)
  | _ => readUnsigned t

/-- A relation between single spaces. -/
def readRelation : Text → Option (Relation × Text)
  | 0x20 :: 0x3d :: 0x3d :: 0x20 :: rest => some (.equal, rest)
  | 0x20 :: 0x21 :: 0x3d :: 0x20 :: rest => some (.notEqual, rest)
  | 0x20 :: 0x3c :: 0x20 :: rest => some (.less, rest)
  | 0x20 :: 0x3e :: 0x20 :: rest => some (.greater, rest)
  | _ => none

/-- A whole expression of two literals with a relation between them. -/
def readDirect (t : Text) : Option (Value × Relation × Value) := do
  let (a, rest) ← readLiteral t
  let (r, rest) ← readRelation rest
  let (b, rest) ← readLiteral rest
  if rest.isEmpty then return (a, r, b) else none

/-- A constant as the value of an expression; long texts and bytes are refused. -/
def constant (v : Value) : Except Fault Value :=
  let length? : Option Nat :=
    match v with
    | .text t => some t.length
    | .bytes data => some data.length
    | _ => none
  match length? with
  | some n =>
    if maxLiteralLength < n then
      .error ⟨.literalTooLong, "Literal in statement is too long! (" ++ Text.ofNat n ++ ", when 100000 is max)"⟩
    else .ok v
  | none => .ok v

/-- The order of two numbers, where they have one. -/
def numberOrder? (v w : Value) : Option (Option Ordering) :=
  match v, w with
  | .float x, .float y => some (x.order y)
  | .float x, _ => w.asInteger?.map fun n => x.orderInt n
  | _, .float y => v.asInteger?.map fun n => (y.orderInt n).map Ordering.swap
  | _, _ => do
    let m ← v.asInteger?
    let n ← w.asInteger?
    return some (compare m n)

/-- The order of two values of kinds that are ordered with each other. -/
def order? (v w : Value) : Option (Option Ordering) :=
  match v, w with
  | .text s, .text t => some (some (Text.order s t))
  | .bytes s, .bytes t => some (some (Text.order s t))
  | _, _ => numberOrder? v w

/-- A relation between two values; values of unordered kinds have only equality. -/
def Relation.holds (r : Relation) (v w : Value) : Except Fault Bool :=
  let ordered (wanted : Ordering) : Except Fault Bool :=
    match order? v w with
    | some o => .ok (o == some wanted)
    | none =>
      .error (Fault.wrongType ("'" ++ (r.symbol : Text) ++ "' not supported between instances of '" ++
        v.typeName ++ "' and '" ++ w.typeName ++ "'"))
  match r with
  | equal => .ok (v.equal w)
  | notEqual => .ok (!v.equal w)
  | less => ordered .lt
  | greater => ordered .gt

end Rulebook.Expression
