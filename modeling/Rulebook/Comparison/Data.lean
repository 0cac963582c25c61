import Rulebook.Comparison.Comparator
import Rulebook.Value.Printer

/-!
# Comparisons of data

A single comparison whose parts are values of any kind. Texts are compared; of any other value it is reported
where it first cannot be used as a text.
-/

namespace Rulebook

/-- The fault of a field that is no text, which cannot be asked for its first sign. -/
def fieldFault (v : Value) : Fault :=
  match v with
  | .bytes _ => Fault.wrongType "startswith first arg must be bytes or a tuple of bytes, not str"
  | .byteArray _ => Fault.wrongType "startswith first arg must be bytes or a tuple of bytes, not str"
  | v => ⟨.missingAttribute, "'" ++ v.typeName ++ "' object has no attribute 'startswith'"⟩

/-- The fault of a comparand that is no text and is to be written as a literal. -/
def literalFault (v : Value) : Fault :=
  match v with
  | .bytes _ => Fault.wrongType "cannot use a string pattern on a bytes-like object"
  | .byteArray _ => Fault.wrongType "cannot use a string pattern on a bytes-like object"
  | v => Fault.wrongType ("expected string or bytes-like object, got '" ++ v.typeName ++ "'")

/-- The fault of a comparand that is no text and is to be searched for. -/
def patternFault (v : Value) : Fault :=
  match v with
  | .bytes _ => Fault.wrongType "a bytes-like object is required, not 'str'"
  | .byteArray _ => Fault.wrongType "a bytes-like object is required, not 'str'"
  | .list _ => Fault.wrongType "unhashable type: 'list'"
  | .set _ => Fault.wrongType "unhashable type: 'set'"
  | .mapping _ => Fault.wrongType "unhashable type: 'dict'"
  | .tuple _ => Fault.wrongType "first argument must be string or compiled pattern"
  | .frozenSet _ => Fault.wrongType "first argument must be string or compiled pattern"
  | .range .. => Fault.wrongType "first argument must be string or compiled pattern"
  | v => Fault.wrongType ("argument of type '" ++ v.typeName ++ "' is not iterable")

/-- A comparison of a raw field token with a value under the name of an operator, all given as data. -/
def evaluateSingleData (maxPatternLength : Int) (field value name : Value) : Traced Bool :=
  match field with
  | .text field => do
    let ref := FieldRef.parse field
    let op ← Traced.lift (do parseOperator (← liftFault name.plain))
    match value with
    | .text value => compareTexts maxPatternLength ref.token value op ref.negated
    | value =>
      if op.isRegex then Traced.fail (.fault (patternFault value))
      else do
        let _ ← renderOperand ref.token op
        Traced.fail (.fault (literalFault value))
  | field => Traced.fail (.fault (fieldFault field))

end Rulebook
