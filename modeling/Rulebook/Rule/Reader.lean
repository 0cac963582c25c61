import Rulebook.Rule.Error
import Rulebook.Value.Equality

/-!
# Reading rules from data

Rule data is a flat sequence that alternates fields and comparands. Reading it either keeps every scalar
as text or reports the first offence, in the order of the elements.
-/

namespace Rulebook

/-- Data as a sequence of elements; texts and bytes are none. -/
def Value.asSequence? : Value → Option (List Value)
  | .list items => some items
  | .tuple items => some items
  | .range a b s => some (Value.rangeItems a b s)
  | .byteArray data => some (data.map fun (b : Nat) => .int (b : Int))
  | _ => none

/-- Refuses a pattern that could run code. -/
def checkPattern (pattern : Text) : Except LogicError Unit :=
  if Text.hasPart inlineCodeMark pattern then .error (.inlineCode pattern) else .ok ()

/-- Lifts a fault into a failure. -/
def liftFault {α : Type} : Except Fault α → Except Failure α
  | .ok a => .ok a
  | .error e => .error (.fault e)

/-- Lifts an error of a rule into a failure. -/
def liftLogic {α : Type} : Except LogicError α → Except Failure α
  | .ok a => .ok a
  | .error e => .error (.logic e)

/-- A scalar as text. Truth values and null are refused, because their text is ambiguous. -/
def scalarText (role : Role) (v : Value) : Except Failure Text :=
  match v with
  | .bool b => .error (.logic (.shape (.ambiguousScalar role (boolText b))))
  | .null => .error (.logic (.shape (.ambiguousScalar role "None")))
  | .text t => .ok t
  | .int n => liftFault (integerText n)
  | .float x => .ok x.text
  | v => .error (.logic (.shape (.notAScalar role v.typeName)))

/-- A collection that cannot stand as a comparand. -/
def Value.isCollection (v : Value) : Bool :=
  match v with
  | .set _ => true
  | .frozenSet _ => true
  | _ => v.asSequence?.isSome

/-- The operator of a name. -/
def parseOperator (name : Text) : Except Failure Operator :=
  match Operator.parse name with
  | .ok op => .ok op
  | .error normal => .error (.logic (.unknownOperator normal))

/-- The right side of a condition: a scalar, or a mapping of one operator to a scalar. -/
def parseComparison (v : Value) : Except Failure Comparison :=
  match v with
  | .mapping [(k, comparand)] => do
    let op ← parseOperator (← scalarText .operator k)
    let value ← scalarText .comparand comparand
    if op.isRegex then liftLogic (checkPattern value)
    return .under op value
  | .mapping entries => do
    let shown ← liftFault (Value.mapping entries).display
    throw (.logic (.shape (.entryCount entries.length shown)))
  | v =>
    if v.isCollection then .error (.logic (.shape (.notAComparison v.typeName)))
    else do return .bare (← scalarText .comparand v)

/-- Conditions from elements two by two; a single element at the end is left out. -/
def parseConditions : List Value → List Condition → Except Failure (List Condition)
  | f :: c :: rest, done =>
    match scalarText .field f with
    | .error e => .error e
    | .ok raw =>
      match parseComparison c with
      | .error e => .error e
      | .ok comparison => parseConditions rest (⟨FieldRef.parse raw, comparison⟩ :: done)
  | _, done => .ok done.reverse

/-- A rule from data; a rule that is already read stands for itself. -/
def Rule.ofData (data : Value) : Except Failure Rule :=
  match data with
  | .rule r => .ok r
  | data =>
    match data.asSequence? with
    | none => do
      let shown ← liftFault data.display
      throw (.logic (.shape (.notASequence shown)))
    | some items =>
      if items.length % 2 = 1 then .error (.logic (.shape (.oddLength items.length)))
      else do return ⟨← parseConditions items []⟩

end Rulebook
