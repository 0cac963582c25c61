import Rulebook.Template.Filter

/-!
# Tests

What the word "is" and a name ask of a value.
-/

namespace Rulebook.Template

/-- The names of all tests. -/
def testNames : List Text :=
  ["odd", "even", "divisibleby", "defined", "undefined", "filter", "test", "none", "boolean", "false", "true",
    "integer", "float", "lower", "upper", "string", "mapping", "number", "sequence", "iterable", "callable",
    "sameas", "escaped", "in", "==", "eq", "equalto", "!=", "ne", ">", "gt", "greaterthan", "ge", ">=", "<",
    "lt", "lessthan", "<=", "le"].map Text.ofString

/-- The test exists. -/
def isTestName (name : Text) : Bool := testNames.any (Text.same name)

/-- The relation that a test asks for, with the name under which faults report it. -/
def relationTest? (name : Text) : Option (Relation × String) :=
  match name.toStringLossy with
  | "==" => some (.eq, "eq")
  | "eq" => some (.eq, "eq")
  | "equalto" => some (.eq, "eq")
  | "!=" => some (.ne, "ne")
  | "ne" => some (.ne, "ne")
  | ">" => some (.gt, "gt")
  | "gt" => some (.gt, "gt")
  | "greaterthan" => some (.gt, "gt")
  | ">=" => some (.ge, "ge")
  | "ge" => some (.ge, "ge")
  | "<" => some (.lt, "lt")
  | "lt" => some (.lt, "lt")
  | "lessthan" => some (.lt, "lt")
  | "<=" => some (.le, "le")
  | "le" => some (.le, "le")
  | _ => none

/-- The value can be called. -/
def isCallable : Value → Bool
  | .undefined _ => true
  | .method .. => true
  | .function .. => true
  | .templateFunction .. => true
  | .record kind _ _ => Text.same kind "LoopContext"
  | _ => false

/-- The value has members under places or keys. -/
def isSubscriptable : Value → Bool
  | .undefined u => !u.strict
  | .list _ => true
  | .tuple _ => true
  | .text _ => true
  | .bytes _ => true
  | .byteArray _ => true
  | .range .. => true
  | .mapping _ => true
  | _ => false

/-- The two are one and the same value. -/
def isSameValue (v w : Value) : Bool :=
  match v, w with
  | .null, .null => true
  | .bool a, .bool b => a == b
  | .int a, .int b => a == b
  | .text a, .text b => Text.same a b
  | .float a, .float b => a == b
  | _, _ => false

/-- The name of the value is one of some names. -/
def isNameAmong (v : Value) (names : List Text) : Except Fault Bool :=
  match v with
  | .text t => .ok (names.any (Text.same t))
  | .undefined u => if u.strict then .error u.fault else .ok false
  | v => do
    checkKey v
    return false

/-- A loop may go over the value. -/
def isIterable (v : Value) : Except Fault Bool :=
  match iterate v with
  | .ok _ => .ok true
  | .error f => if f.kind = .wrongType then .ok false else .error f

/-- The answer of a test about a value. -/
def applyTest (name : Text) (v : Value) (args : List Value) (named : List (Text × Value)) : Except Fault Value := do
  let all := v :: args
  let single (label : String) (hidden : Nat) : Except Fault Unit := do
    let _ ← (Signature.mk label hidden [.required "value"]).bind all named
  let about (label : String) (b : Bool) : Except Fault Value := do
    single label 0
    return .bool b
  let divisible (n : Value) (remainder : Int) : Except Fault Value := do
    return .bool (← equalValues (← arith .mod v n) (.int remainder))
  match relationTest? name with
  | some (r, label) =>
    if !named.isEmpty then
      throw (Fault.wrongType ("_operator." ++ (label : Text) ++ "() takes no keyword arguments"))
    else
      match all with
      | [a, b] => return .bool (← relate r a b)
      | _ =>
        throw (Fault.wrongType ((label : Text) ++ " expected 2 arguments, got " ++ Text.ofNat all.length))
  | none =>
    match name.toStringLossy with
    | "odd" => do
      single "test_odd" 0
      divisible (.int 2) 1
    | "even" => do
      single "test_even" 0
      divisible (.int 2) 0
    | "divisibleby" => do
      match ← Signature.bind ⟨"test_divisibleby", 0, [.required "value", .required "num"]⟩ all named with
      | [_, n] => divisible n 0
      | _ => return .null
    | "defined" => about "test_defined" (match v with | .undefined _ => false | _ => true)
    | "undefined" => about "test_undefined" (match v with | .undefined _ => true | _ => false)
    | "filter" => do
      single "test_filter" 1
      return .bool (← isNameAmong v filterNames)
    | "test" => do
      single "test_test" 1
      return .bool (← isNameAmong v testNames)
    | "none" => about "test_none" (match v with | .null => true | _ => false)
    | "boolean" => about "test_boolean" (match v with | .bool _ => true | _ => false)
    | "false" => about "test_false" (match v with | .bool b => !b | _ => false)
    | "true" => about "test_true" (match v with | .bool b => b | _ => false)
    | "integer" => about "test_integer" (match v with | .int _ => true | _ => false)
    | "float" => about "test_float" (match v with | .float _ => true | _ => false)
    | "lower" => do
      single "test_lower" 0
      return .bool (Text.isLowerCase (← printed v))
    | "upper" => do
      single "test_upper" 0
      return .bool (Text.isUpperCase (← printed v))
    | "string" => about "test_string" (match v with | .text _ => true | _ => false)
    | "mapping" => about "test_mapping" (match v with | .mapping _ => true | _ => false)
    | "number" => about "test_number" (isNumeric v)
    | "sequence" => about "test_sequence" (isSubscriptable v)
    | "iterable" => do
      single "test_iterable" 0
      return .bool (← isIterable v)
    | "callable" => do
      let _ ← exactlyOne "callable" all named
      return .bool (isCallable v)
    | "sameas" => do
      match ← Signature.bind ⟨"test_sameas", 0, [.required "value", .required "other"]⟩ all named with
      | [a, b] => return .bool (isSameValue a b)
      | _ => return .null
    | "escaped" => about "test_escaped" false
    | _ => do
      match ← Signature.bind ⟨"test_in", 0, [.required "value", .required "seq"]⟩ all named with
      | [a, b] => return .bool (← isMember a b)
      | _ => return .null

end Rulebook.Template
