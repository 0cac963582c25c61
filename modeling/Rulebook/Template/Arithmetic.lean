import Rulebook.Number.Real
import Rulebook.Template.Format
import Rulebook.Template.Syntax

/-!
# Arithmetic on values

The operators of template expressions on values of every kind, with the faults of operands that do not fit
together. An operand that is undefined is reported before anything else, unless it is to fill a format text.
-/

namespace Rulebook.Template

/-- The symbol of an operation in messages. -/
def Arith.symbol : Arith → String
  | add => "+"
  | sub => "-"
  | mul => "*"
  | div => "/"
  | floorDiv => "//"
  | mod => "%"
  | pow => "** or pow()"

/-- Operands that do not fit together. -/
def unsupported (op : Arith) (a b : Value) : Fault :=
  Fault.wrongType ("unsupported operand type(s) for " ++ (op.symbol : Text) ++ ": '" ++ a.operandName ++
    "' and '" ++ b.operandName ++ "'")

/-- A division by zero. -/
def zeroDivision (message : Text) : Fault := ⟨.divisionByZero, message⟩

/-- A result beyond the range of doubles. -/
def rangeOverflow : Fault := ⟨.overflow, "(34, 'Numerical result out of range')"⟩

/-- A power of doubles. -/
def powDouble (x y : Double) : Except Fault Double :=
  if y.isZero then .ok (Double.ofInt 1)
  else if x.isZero && y.isNegative then
    .error (zeroDivision "0.0 cannot be raised to a negative power")
  else
    let r := Double.pow x y
    if x.isFinite && y.isFinite then
      match r with
      | .infinite _ => .error rangeOverflow
      | .nan => .error (leftOut "a complex power")
      | _ => .ok r
    else .ok r

/-- Arithmetic of integers. -/
def arithInt (op : Arith) (m n : Int) : Except Fault Value :=
  match op with
  | .add => .ok (.int (m + n))
  | .sub => .ok (.int (m - n))
  | .mul => .ok (.int (m * n))
  | .div =>
    if n = 0 then .error (zeroDivision "division by zero")
    else
      match Double.ofFraction ((m < 0) != (n < 0)) m.natAbs n.natAbs with
      | .infinite _ => .error ⟨.overflow, "integer division result too large for a float"⟩
      | .finite s 0 e => .ok (.float (.finite (s && m != 0) 0 e))
      | x => .ok (.float x)
  | .floorDiv =>
    if n = 0 then .error (zeroDivision "integer division or modulo by zero") else .ok (.int (m.fdiv n))
  | .mod => if n = 0 then .error (zeroDivision "integer modulo by zero") else .ok (.int (m.fmod n))
  | .pow =>
    if 0 ≤ n then .ok (.int (Int.pow m n.toNat))
    else do return .float (← powDouble (← (Number.int m).toDouble?) (← (Number.int n).toDouble?))

/-- Arithmetic of doubles. -/
def arithDouble (op : Arith) (x y : Double) : Except Fault Value :=
  match op with
  | .add => .ok (.float (x.add y))
  | .sub => .ok (.float (x.sub y))
  | .mul => .ok (.float (x.mul y))
  | .div => if y.isZero then .error (zeroDivision "float division by zero") else .ok (.float (x.div y))
  | .floorDiv =>
    if y.isZero then .error (zeroDivision "float floor division by zero") else .ok (.float (x.floorDiv y))
  | .mod => if y.isZero then .error (zeroDivision "float modulo") else .ok (.float (x.mod y))
  | .pow => do return .float (← powDouble x y)

/-- A sequence repeated by a number, on either side. -/
def repeatSequence? (v : Value) (n : Int) : Option Value :=
  match v with
  | .text t => some (.text (Text.times n.toNat t))
  | .bytes d => some (.bytes (Text.times n.toNat d))
  | .byteArray d => some (.byteArray (Text.times n.toNat d))
  | .list items => some (.list (Text.times n.toNat items))
  | .tuple items => some (.tuple (Text.times n.toNat items))
  | _ => none

/-- The value is a sequence that can be repeated. -/
def isRepeatable (v : Value) : Bool := (repeatSequence? v 0).isSome

/-- Sums other than those of numbers. -/
def concatenate (a b : Value) : Except Fault Value :=
  match a, b with
  | .text s, .text t => .ok (.text (s ++ t))
  | .text _, _ =>
    .error (Fault.wrongType ("can only concatenate str (not \"" ++ b.operandName ++ "\") to str"))
  | .list xs, .list ys => .ok (.list (xs ++ ys))
  | .list _, _ =>
    .error (Fault.wrongType ("can only concatenate list (not \"" ++ b.operandName ++ "\") to list"))
  | .tuple xs, .tuple ys => .ok (.tuple (xs ++ ys))
  | .tuple _, _ =>
    .error (Fault.wrongType ("can only concatenate tuple (not \"" ++ b.operandName ++ "\") to tuple"))
  | .bytes s, .bytes t => .ok (.bytes (s ++ t))
  | .bytes s, .byteArray t => .ok (.bytes (s ++ t))
  | .bytes _, _ => .error (Fault.wrongType ("can't concat " ++ b.operandName ++ " to bytes"))
  | .byteArray s, .byteArray t => .ok (.byteArray (s ++ t))
  | .byteArray s, .bytes t => .ok (.byteArray (s ++ t))
  | .byteArray _, _ => .error (Fault.wrongType ("can't concat " ++ b.operandName ++ " to bytearray"))
  | _, _ => .error (unsupported .add a b)

/-- A sequence repeated by a value, which must be a size. -/
def repeatBy (v w : Value) : Except Fault Value :=
  match w.asInteger? with
  | some n =>
    if isWithin maxSize n then .ok ((repeatSequence? v n).getD .null)
    else .error ⟨.overflow, "cannot fit 'int' into an index-sized integer"⟩
  | none => .error (Fault.wrongType ("can't multiply sequence by non-int of type '" ++ w.operandName ++ "'"))

/-- Products of a sequence and a number. -/
def multiply (a b : Value) : Except Fault Value :=
  if isRepeatable a then repeatBy a b
  else if isRepeatable b then repeatBy b a
  else .error (unsupported .mul a b)

/-- Differences of sets. -/
def subtract (a b : Value) : Except Fault Value :=
  match a, b with
  | .set xs, .set ys => .ok (.set (xs.filter fun x => !Value.among x ys))
  | .set xs, .frozenSet ys => .ok (.set (xs.filter fun x => !Value.among x ys))
  | .frozenSet xs, .set ys => .ok (.frozenSet (xs.filter fun x => !Value.among x ys))
  | .frozenSet xs, .frozenSet ys => .ok (.frozenSet (xs.filter fun x => !Value.among x ys))
  | _, _ => .error (unsupported .sub a b)

/-- An operation on two operands, of which neither is a format text and neither may be undefined. -/
def arithDefined (op : Arith) (a b : Value) : Except Fault Value :=
  match a, b with
  | .undefined u, _ => .error u.fault
  | _, .undefined u => .error u.fault
  | _, _ =>
    match asNumber? a, asNumber? b with
    | some (.int m), some (.int n) => arithInt op m n
    | some x, some y => do arithDouble op (← x.toDouble?) (← y.toDouble?)
    | _, _ =>
      match op with
      | .add => concatenate a b
      | .sub => subtract a b
      | .mul => multiply a b
      | _ => .error (unsupported op a b)

/-- The value is a number, a complex one included. -/
def isNumeric : Value → Bool
  | .complex .. => true
  | v => (asNumber? v).isSome

/-- The value names a day. -/
def isDay : Value → Bool
  | .date _ => true
  | .dateTime .. => true
  | _ => false

/-- The value is a view that can be taken for a set. -/
def isSetView : Value → Bool
  | .view .values _ => false
  | .view .. => true
  | _ => false

/-- The value is undefined. -/
def isUndefined : Value → Bool
  | .undefined _ => true
  | _ => false

/-- The two are numbers, and one of them is complex. -/
def areComplex (a b : Value) : Bool := isNumeric a && isNumeric b && !((asNumber? a).isSome && (asNumber? b).isSome)

/-- The operation is left out: bytes as format texts, differences of views and of days, and complex numbers. -/
def Arith.isLeftOut (op : Arith) (a b : Value) : Bool :=
  match op, a with
  | .mod, .bytes _ => true
  | .mod, .byteArray _ => true
  | .sub, _ => areComplex a b || isDay a && isDay b || isSetView a || isSetView b && !isUndefined a
  | _, _ => areComplex a b

/-- An operation on two operands. -/
def arith (op : Arith) (a b : Value) : Except Fault Value :=
  match op, a with
  | .mod, .text t => do return .text (← Format.apply t b)
  | _, _ =>
    if op.isLeftOut a b then .error (leftOut ((op.symbol : Text) ++ " of " ++ a.operandName ++ " and " ++ b.operandName))
    else arithDefined op a b

/-- A value counts as true; something undefined may refuse to tell. -/
def truth (v : Value) : Except Fault Bool :=
  match v with
  | .undefined u => if u.strict then .error u.fault else .ok false
  | .null => .ok false
  | .bool b => .ok b
  | .int n => .ok (n != 0)
  | .float x => .ok (!x.isZero)
  | .text t => .ok (!t.isEmpty)
  | .bytes d => .ok (!d.isEmpty)
  | .byteArray d => .ok (!d.isEmpty)
  | .list items => .ok (!items.isEmpty)
  | .tuple items => .ok (!items.isEmpty)
  | .set items => .ok (!items.isEmpty)
  | .frozenSet items => .ok (!items.isEmpty)
  | .mapping entries => .ok (!entries.isEmpty)
  | .range a b s => .ok (Value.rangeLength a b s != 0)
  | .view _ items => .ok (!items.isEmpty)
  | .complex re im => .ok (!(re.isZero && im.isZero))
  | _ => .ok true

/-- A sign before an operand, or its negation. -/
def unary (op : Unary) (v : Value) : Except Fault Value :=
  match op with
  | .not => do return .bool (!(← truth v))
  | .neg =>
    match v with
    | .undefined u => .error u.fault
    | .complex .. => .error (leftOut "the sign of a complex number")
    | _ =>
      match asNumber? v with
      | some (.int n) => .ok (.int (-n))
      | some (.float x) => .ok (.float x.neg)
      | none => .error (Fault.wrongType ("bad operand type for unary -: '" ++ v.operandName ++ "'"))
  | .pos =>
    match v with
    | .undefined u => .error u.fault
    | .complex .. => .error (leftOut "the sign of a complex number")
    | _ =>
      match asNumber? v with
      | some (.int n) => .ok (.int n)
      | some (.float x) => .ok (.float x)
      | none => .error (Fault.wrongType ("bad operand type for unary +: '" ++ v.operandName ++ "'"))

/-- The value is one of those that templates are given besides data, other than a namespace. -/
def isInternal : Value → Bool
  | .rule _ => true
  | .record kind _ _ => !Text.same kind "Namespace"
  | _ => false

/-- The members that a loop over the value meets. -/
def iterate (v : Value) : Except Fault (List Value) :=
  match v with
  | .list items => .ok items
  | .tuple items => .ok items
  | .set items => .ok items
  | .frozenSet items => .ok items
  | .view _ items => .ok items
  | .mapping entries => .ok (entries.map (·.1))
  | .text t => .ok (t.map fun c => .text [c])
  | .bytes d => .ok (d.map fun (b : Nat) => .int (b : Int))
  | .byteArray d => .ok (d.map fun (b : Nat) => .int (b : Int))
  | .range a b s => .ok (Value.rangeItems a b s)
  | .undefined u => if u.strict then .error u.fault else .ok []
  | _ =>
    .error (if isInternal v then leftOut ("a loop over " ++ v.operandName)
      else Fault.wrongType ("'" ++ v.operandName ++ "' object is not iterable"))

/-- The members of a value; the message is for one that has none. -/
def iterateOr (message : Text) (v : Value) : Except Fault (List Value) :=
  match iterate v with
  | .ok items => .ok items
  | .error f => .error (if f.kind = .wrongType then Fault.wrongType message else f)

/-- The number of members of a value. -/
def length (v : Value) : Except Fault Nat :=
  match v with
  | .list items => .ok items.length
  | .tuple items => .ok items.length
  | .set items => .ok items.length
  | .frozenSet items => .ok items.length
  | .view _ items => .ok items.length
  | .mapping entries => .ok entries.length
  | .text t => .ok t.length
  | .bytes d => .ok d.length
  | .byteArray d => .ok d.length
  | .range a b s => .ok (Value.rangeLength a b s)
  | .undefined u => if u.strict then .error u.fault else .ok 0
  | _ =>
    .error (if isInternal v then leftOut ("the length of " ++ v.operandName)
      else Fault.wrongType ("object of type '" ++ v.operandName ++ "' has no len()"))

/-- The equality of two values is left out: of such as are told apart by their addresses, and of views and sets. -/
def equalityIsLeftOut : Value → Value → Bool
  | .view k _, .view l _ => k == .values && l == .values
  | .view k _, .set _ => k != .values
  | .view k _, .frozenSet _ => k != .values
  | .set _, .view k _ => k != .values
  | .frozenSet _, .view k _ => k != .values
  | .method .., .method .. => true
  | .record s _ _, .record t _ _ => Text.same s t
  | _, _ => false

/-- An equality that is left out. -/
def equalityFault (a b : Value) : Fault := leftOut ("the equality of " ++ a.operandName ++ " and " ++ b.operandName)

mutual

/-- Equality, which something strictly undefined refuses wherever the comparison meets it. -/
def equalValues : Value → Value → Except Fault Bool
  | .undefined u, .undefined w =>
    if u.strict then .error u.fault else if w.strict then .error w.fault else .ok true
  | .undefined u, _ => if u.strict then .error u.fault else .ok false
  | _, .undefined w => if w.strict then .error w.fault else .ok false
  | .list xs, .list ys => if xs.length = ys.length then equalInOrder xs ys else .ok false
  | .tuple xs, .tuple ys => if xs.length = ys.length then equalInOrder xs ys else .ok false
  | .mapping xs, .mapping ys => if xs.length = ys.length then equalEntries xs ys else .ok false
  | .view k xs, .view l ys =>
    if equalityIsLeftOut (.view k xs) (.view l ys) then .error (equalityFault (.view k xs) (.view l ys))
    else if k ≠ .values ∧ l ≠ .values ∧ xs.length = ys.length then equalInSome xs ys
    else .ok false
  | a, b => if equalityIsLeftOut a b then .error (equalityFault a b) else .ok (a.equal b)
termination_by structural a => a

/-- The values are equal one by one, up to the first that is not. -/
def equalInOrder : List Value → List Value → Except Fault Bool
  | v :: vs, w :: ws => do if ← equalValues v w then equalInOrder vs ws else return false
  | _, _ => .ok true
termination_by structural vs => vs

/-- Each entry has an equal value under its key among the others, up to the first that has none. -/
def equalEntries : List (Value × Value) → List (Value × Value) → Except Fault Bool
  | [], _ => .ok true
  | (k, v) :: rest, others =>
    match Value.lookup k others with
    | some w => do if ← equalValues v w then equalEntries rest others else return false
    | none => .ok false
termination_by structural entries => entries

/-- Each value is equal to one of the others, up to the first that is not. -/
def equalInSome : List Value → List Value → Except Fault Bool
  | [], _ => .ok true
  | v :: vs, ws => do if ← ws.anyM (fun w => equalValues v w) then equalInSome vs ws else return false
termination_by structural vs => vs

end

/-- The symbol of a relation in messages. -/
def Relation.symbol : Relation → String
  | eq => "=="
  | ne => "!="
  | lt => "<"
  | le => "<="
  | gt => ">"
  | ge => ">="
  | isIn => "in"
  | notIn => "not in"

/-- An order satisfies a relation. -/
def Relation.accepts (r : Relation) (o : Ordering) : Bool :=
  match r with
  | lt => o == .lt
  | le => o != .gt
  | gt => o == .gt
  | ge => o != .lt
  | eq => o == .eq
  | ne => o != .eq
  | _ => false

/-- The order of two numbers, if they have one. -/
def orderNumbers : Number → Number → Option Ordering
  | .int m, .int n => some (compare m n)
  | .float x, .int n => x.orderInt n
  | .int m, .float y => (y.orderInt m).map Ordering.swap
  | .float x, .float y => x.order y

/-- The numbers of a date, greatest unit first. -/
def dateKey (d : Date) : List Nat := [d.year, d.month, d.day]

/-- The first two values at one place that are not equal. -/
def firstUnequal : List Value → List Value → Except Fault (Option (Value × Value))
  | v :: vs, w :: ws => do if ← equalValues v w then firstUnequal vs ws else return some (v, w)
  | _, _ => .ok none

/-- The value is a set, or a view that can be taken for one. -/
def isSetLike : Value → Bool
  | .set _ => true
  | .frozenSet _ => true
  | v => isSetView v

/-- The order of two values is left out: that of times, and that of views as sets. -/
def orderIsLeftOut (a b : Value) : Bool :=
  match a, b with
  | .time _, .time _ => true
  | .dateTime .., .dateTime .. => true
  | _, _ => isSetLike a && isSetLike b && (isSetView a || isSetView b)

/-- An order relation between two values, for sequences inside each other up to a depth. -/
def orderedBy (r : Relation) : Nat → Value → Value → Except Fault Bool
  | 0, _, _ => .error ⟨.tooDeep, "maximum recursion depth exceeded in comparison"⟩
  | depth + 1, a, b =>
    let refuse : Except Fault Bool :=
      .error (if orderIsLeftOut a b then leftOut ("the order of " ++ a.operandName ++ " and " ++ b.operandName)
        else Fault.wrongType ("'" ++ (r.symbol : Text) ++ "' not supported between instances of '" ++
          a.operandName ++ "' and '" ++ b.operandName ++ "'"))
    let sequences (xs ys : List Value) : Except Fault Bool := do
      match ← firstUnequal xs ys with
      | some (x, y) => orderedBy r depth x y
      | none => return r.accepts (compare xs.length ys.length)
    let sets (xs ys : List Value) : Except Fault Bool :=
      let below := Value.allAmong xs ys
      let above := Value.allAmong ys xs
      .ok (match r with
        | .lt => below && xs.length < ys.length
        | .le => below
        | .gt => above && ys.length < xs.length
        | _ => above)
    match a, b with
    | .undefined u, _ => .error u.fault
    | _, .undefined u => .error u.fault
    | .text s, .text t => .ok (r.accepts (Text.order s t))
    | .bytes s, .bytes t => .ok (r.accepts (Text.order s t))
    | .bytes s, .byteArray t => .ok (r.accepts (Text.order s t))
    | .byteArray s, .bytes t => .ok (r.accepts (Text.order s t))
    | .byteArray s, .byteArray t => .ok (r.accepts (Text.order s t))
    | .list xs, .list ys => sequences xs ys
    | .tuple xs, .tuple ys => sequences xs ys
    | .set xs, .set ys => sets xs ys
    | .set xs, .frozenSet ys => sets xs ys
    | .frozenSet xs, .set ys => sets xs ys
    | .frozenSet xs, .frozenSet ys => sets xs ys
    | .date d, .date e => .ok (r.accepts (Text.order (dateKey d) (dateKey e)))
    | _, _ =>
      match asNumber? a, asNumber? b with
      | some x, some y =>
        match orderNumbers x y with
        | some o => .ok (r.accepts o)
        | none => .ok false
      | _, _ => refuse

/-- The value can be looked up as a key: it is no collection that changes. -/
def isKey : Value → Bool
  | .list _ => false
  | .set _ => false
  | .mapping _ => false
  | .byteArray _ => false
  | .view .keys _ => false
  | .view .items _ => false
  | _ => true

mutual

/-- The first part of a value that is strictly undefined. -/
def strictPart? : Value → Option Undefined
  | .undefined u => if u.strict then some u else none
  | .list items => strictPartIn? items
  | .tuple items => strictPartIn? items
  | .set items => strictPartIn? items
  | .frozenSet items => strictPartIn? items
  | .view _ items => strictPartIn? items
  | .mapping entries => strictPartOfEntries? entries
  | .method receiver _ => strictPart? receiver
  | .record _ _ fields => strictPartOfFields? fields
  | _ => none

/-- The first part of values that is strictly undefined. -/
def strictPartIn? : List Value → Option Undefined
  | [] => none
  | v :: vs => (strictPart? v).or (strictPartIn? vs)

/-- The first part of entries that is strictly undefined. -/
def strictPartOfEntries? : List (Value × Value) → Option Undefined
  | [] => none
  | (k, v) :: rest => ((strictPart? k).or (strictPart? v)).or (strictPartOfEntries? rest)

/-- The first part of properties that is strictly undefined. -/
def strictPartOfFields? : List (Text × Value) → Option Undefined
  | [] => none
  | (_, v) :: rest => (strictPart? v).or (strictPartOfFields? rest)

end

mutual

/-- Refuses a key that cannot be looked up, because it changes or because something in it is strictly undefined. -/
def checkKey : Value → Except Fault Unit
  | .tuple items => checkKeys items
  | v =>
    if isKey v then
      match strictPart? v with
      | some u => .error u.fault
      | none => .ok ()
    else .error (Fault.wrongType ("unhashable type: '" ++ v.operandName ++ "'"))

/-- Refuses the first of some keys that cannot be looked up. -/
def checkKeys : List Value → Except Fault Unit
  | [] => .ok ()
  | v :: vs => do
    checkKey v
    checkKeys vs

end

/-- Refuses a value that cannot be looked for in a set; a set is looked for by its members. -/
def checkMember : Value → Except Fault Unit
  | .set _ => .ok ()
  | v => checkKey v

/-- The value is a part of bytes, or one of them. -/
def isInBytes (v : Value) (data : List Nat) : Except Fault Bool :=
  match v with
  | .bytes part => .ok (Text.hasPart part data)
  | .byteArray part => .ok (Text.hasPart part data)
  | _ =>
    match v.asInteger? with
    | some n =>
      if 0 ≤ n ∧ n < 256 then .ok (data.any fun (b : Nat) => (b : Int) == n)
      else .error (Fault.badValue "byte must be in range(0, 256)")
    | none => .error (Fault.wrongType ("a bytes-like object is required, not '" ++ v.operandName ++ "'"))

/-- The value is a member of the container. -/
def isMember (v container : Value) : Except Fault Bool :=
  match container with
  | .undefined u => if u.strict then .error u.fault else .ok false
  | .text t =>
    match v with
    | .text s => .ok (Text.hasPart s t)
    | _ => .error (Fault.wrongType ("'in <string>' requires string as left operand, not " ++ v.operandName))
  | .mapping entries => do
    checkKey v
    return (Value.lookup v entries).isSome
  | .set items => do
    checkMember v
    return Value.among v items
  | .frozenSet items => do
    checkMember v
    return Value.among v items
  | .bytes d => isInBytes v d
  | .byteArray d => isInBytes v d
  | .view .keys items => do
    checkKey v
    items.anyM fun w => equalValues w v
  | .view .items _ => .error (leftOut "membership in a view of entries")
  | _ => do
    let items ← iterateOr ("argument of type '" ++ container.operandName ++ "' is not iterable") container
    items.anyM fun w => equalValues w v

/-- A relation between two values. -/
def relate (r : Relation) (a b : Value) : Except Fault Bool :=
  match r with
  | .eq => equalValues a b
  | .ne => do return !(← equalValues a b)
  | .isIn => isMember a b
  | .notIn => do return !(← isMember a b)
  | _ => orderedBy r 1000 a b

end Rulebook.Template
