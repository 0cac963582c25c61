import Rulebook.Template.Arithmetic
import Rulebook.Template.Property

/-!
# Parts of values

Items, slices and properties of values. What is not there, or must not be handed out, is a value of its own
that reports when it is used.
-/

namespace Rulebook.Template

/-- Something undefined. -/
def undefinedOf (strict : Bool) (message : Text) : Value := .undefined ⟨message, false, strict⟩

/-- A property that must not be handed out. -/
def forbiddenProperty (strict : Bool) (v : Value) (name : Text) : Value :=
  .undefined ⟨"access to attribute " ++ Text.display name ++ " of " ++ Text.display v.typeName ++ " object is unsafe.",
    true, strict⟩

/-- What messages call a value that lacks a part. -/
def ownerName (v : Value) : Text :=
  match v with
  | .null => "None"
  | .date _ => "datetime.date object"
  | .time _ => "datetime.time object"
  | .dateTime .. => "datetime.datetime object"
  | .rule _ => "conflogic.logic.models.Rule object"
  | .undefined _ => "jinja2.runtime." ++ v.typeName ++ " object"
  | .templateFunction .. => "jinja2.runtime.Macro object"
  | .record .. => "jinja2.runtime." ++ v.typeName ++ " object"
  | _ => v.typeName ++ " object"

/-- A property that a value does not have. -/
def missingProperty (strict : Bool) (v : Value) (name : Text) : Value :=
  undefinedOf strict (Text.display (ownerName v) ++ " has no attribute " ++ Text.display name)

/-- An item that a value does not have. -/
def missingItem (strict : Bool) (v index : Value) : Value :=
  match index with
  | .text name => missingProperty strict v name
  | _ =>
    let shownIndex : Text := match index.display with | .ok t => t | .error _ => []
    undefinedOf strict (ownerName v ++ " has no element " ++ shownIndex)

/-- A place in a sequence, counted from the end if it is negative. -/
def placeIn (size : Nat) (i : Int) : Option Nat :=
  if 0 ≤ i then (if i < size then some i.toNat else none)
  else if -i ≤ size then some (size + i).toNat else none

/-- The item of a sequence at a place. -/
def itemAt {α : Type} (items : List α) (i : Int) (kind : Text) : Except Fault α :=
  match (placeIn items.length i).bind fun n => items[n]? with
  | some a => .ok a
  | none => .error ⟨.outOfRange, kind ++ " index out of range"⟩

/-- The item of a value under an index or key. -/
def subscript (v index : Value) : Except Fault Value :=
  let place (kind : Text) : Except Fault Int :=
    match index.asInteger? with
    | some i => .ok i
    | none => .error (Fault.wrongType (kind ++ " indices must be integers or slices, not " ++ index.operandName))
  match v with
  | .undefined u => .error u.fault
  | .mapping entries => do
    checkKey index
    match Value.lookup index entries with
    | some w => return w
    | none => throw ⟨.missingKey, []⟩
  | .list items => do itemAt items (← place "list") "list"
  | .tuple items => do itemAt items (← place "tuple") "tuple"
  | .text t => do return .text [← itemAt t (← place "string") "string"]
  | .bytes d => do return .int (← itemAt d (← place "byte") "byte" : Nat)
  | .byteArray d => do return .int (← itemAt d (← place "bytearray") "bytearray" : Nat)
  | .range a b s => do itemAt (Value.rangeItems a b s) (← place "range") "range object"
  | .function _ kind _ =>
    .error (if Text.same kind "type" then leftOut "a type with parameters"
      else Fault.wrongType ("'" ++ kind ++ "' object is not subscriptable"))
  | .record kind _ _ =>
    .error (if Text.same kind "TemplateReference" then leftOut "the blocks of a template by name"
      else Fault.wrongType ("'" ++ kind ++ "' object is not subscriptable"))
  | _ => .error (Fault.wrongType ("'" ++ v.operandName ++ "' object is not subscriptable"))

/-- The fault only says that the part is not there. -/
def isAbsence (f : Fault) : Bool :=
  f.kind == .wrongType || f.kind == .missingKey || f.kind == .outOfRange

/-- The numbers of a date or time. -/
def calendarPart? (d : Date) (t : Time) (name : String) : Option Nat :=
  match name with
  | "year" => some d.year
  | "month" => some d.month
  | "day" => some d.day
  | "hour" => some t.hour
  | "minute" => some t.minute
  | "second" => some t.second
  | "microsecond" => some t.microsecond
  | _ => none

/-- A condition of a rule as a value with named properties. -/
def conditionRecord (c : Condition) : Value :=
  let comparison : Value :=
    .record (match c.comparison with | .bare _ => "LiteralComparison" | .under .. => "OperatorComparison")
      (match c.comparison with
        | .bare v => "kind='literal' value=" ++ Text.display v
        | .under op v => "kind='operator' operator=<Operator." ++ (op.label : Text) ++ ": '" ++ (op.spelling : Text) ++
          "'> value=" ++ Text.display v)
      [("kind", .text c.comparison.kind), ("operator", .text c.comparison.operator.spelling),
        ("value", .text c.comparison.value)]
  .record "Condition" c.display
    [("field", .record "FieldRef"
        ("token=" ++ Text.display c.field.token ++ " negated=" ++ boolText c.field.negated)
        [("token", .text c.field.token), ("negated", .bool c.field.negated)]),
      ("comparison", comparison)]

/-- The value of a property that a value has. -/
def propertyValue (v : Value) (name : Text) : Value :=
  let number (n : Nat) : Value := .int (n : Int)
  let noon : Time := ⟨0, 0, 0, 0⟩
  let found : Option Value :=
    match v with
    | .record _ _ fields => (fields.find? fun f => Text.same f.1 name).map (·.2)
    | .rule r =>
      if Text.same name "conditions" then some (.tuple (r.conditions.map conditionRecord)) else none
    | .date d => (calendarPart? d noon name.toStringLossy).map number
    | .time t => (calendarPart? ⟨0, 0, 0⟩ t name.toStringLossy).map number
    | .dateTime d t _ => (calendarPart? d t name.toStringLossy).map number
    | .range a b s =>
      match name.toStringLossy with
      | "start" => some (.int a)
      | "stop" => some (.int b)
      | "step" => some (.int s)
      | _ => none
    | .float x =>
      match name.toStringLossy with
      | "real" => some (.float x)
      | "imag" => some (.float (Double.zero false))
      | _ => none
    | _ =>
      match v.asInteger? with
      | some n =>
        match name.toStringLossy with
        | "real" => some (.int n)
        | "numerator" => some (.int n)
        | "imag" => some (.int 0)
        | "denominator" => some (.int 1)
        | _ => none
      | none => none
  found.getD (.method v name)

/-- The value has a property, if that may be handed out. -/
def safeProperty? (strict : Bool) (v : Value) (name : Text) : Option Value :=
  let known := match v with | .rule _ => Text.same name "conditions" || hasProperty v name | _ => hasProperty v name
  if known then
    some (if isSafeProperty v name then propertyValue v name else forbiddenProperty strict v name)
  else none

/-- The properties of dates and times that are no numbers of theirs. -/
def calendarConstants : List Text := wordsOf "fold max min resolution tzinfo"

/-- Whether the value has the property, or what that is, is left out. -/
def hidesProperty (v : Value) (name : Text) : Bool :=
  match v with
  | .complex .. => true
  | .function .. => true
  | .templateFunction .. => true
  | .rule _ => !Text.same name "conditions"
  | .record kind _ fields => !Text.same kind "Namespace" && !fields.any fun f => Text.same f.1 name
  | .date _ => calendarConstants.any (Text.same name)
  | .time _ => calendarConstants.any (Text.same name)
  | .dateTime .. => calendarConstants.any (Text.same name)
  | .view .. => Text.same name "mapping"
  | _ => false

/-- A property that is left out. -/
def hiddenProperty (v : Value) (name : Text) : Fault :=
  leftOut ("the property " ++ name ++ " of " ++ v.operandName)

/-- The property of a value by its name; an item of that key stands in for it. -/
def getProperty (strict : Bool) (v : Value) (name : Text) : Except Fault Value :=
  if hidesProperty v name then .error (hiddenProperty v name)
  else
    match safeProperty? strict v name with
    | some w => .ok w
    | none =>
      match subscript v (.text name) with
      | .ok w => .ok w
      | .error f => if isAbsence f then .ok (missingProperty strict v name) else .error f

/-- The item of a value; a property of that name stands in for it. -/
def getItem (strict : Bool) (v index : Value) : Except Fault Value :=
  match subscript v index with
  | .ok w => .ok w
  | .error f =>
    if isAbsence f then
      match index with
      | .text name =>
        if hidesProperty v name then .error (hiddenProperty v name)
        else .ok ((safeProperty? strict v name).getD (missingItem strict v index))
      | _ => .ok (missingItem strict v index)
    else .error f

/-- A bound of a slice. -/
def sliceBound (v : Value) : Except Fault (Option Int) :=
  match v with
  | .null => .ok none
  | .undefined _ =>
    .error (Fault.wrongType "slice indices must be integers or None or have an __index__ method")
  | _ =>
    match v.asInteger? with
    | some n => .ok (some n)
    | none => .error (Fault.wrongType "slice indices must be integers or None or have an __index__ method")

/-- A bound within a sequence of the given size. -/
def clampBound (size : Nat) (step : Int) (i : Int) : Int :=
  let j := if i < 0 then i + size else i
  if step < 0 then max (-1) (min j (size - 1)) else max 0 (min j size)

/-- The places that a slice takes from a sequence. -/
def slicePlaces (size : Nat) (start stop step : Option Int) : Except Fault (List Nat) :=
  let step := step.getD 1
  if step = 0 then .error (Fault.badValue "slice step cannot be zero")
  else
    let first := match start with
      | some i => clampBound size step i
      | none => if step < 0 then (size : Int) - 1 else 0
    let last := match stop with
      | some i => clampBound size step i
      | none => if step < 0 then -1 else size
    .ok ((List.range (Value.rangeLength first last step)).map fun (i : Nat) => (first + step * (i : Int)).toNat)

/-- The items of a sequence at the places of a slice. -/
def sliceItems {α : Type} (items : List α) (start stop step : Option Int) : Except Fault (List α) := do
  let places ← slicePlaces items.length start stop step
  let all := items.toArray
  return places.filterMap fun i => all[i]?

/-- A slice of a value. -/
def sliceValue (v start stop step : Value) : Except Fault Value := do
  match v with
  | .undefined u => throw u.fault
  | .mapping _ => throw (Fault.wrongType "unhashable type: 'slice'")
  | .text t => return .text (← sliceItems t (← sliceBound start) (← sliceBound stop) (← sliceBound step))
  | .list items => return .list (← sliceItems items (← sliceBound start) (← sliceBound stop) (← sliceBound step))
  | .tuple items => return .tuple (← sliceItems items (← sliceBound start) (← sliceBound stop) (← sliceBound step))
  | .bytes d => return .bytes (← sliceItems d (← sliceBound start) (← sliceBound stop) (← sliceBound step))
  | .byteArray d => return .byteArray (← sliceItems d (← sliceBound start) (← sliceBound stop) (← sliceBound step))
  | .range a b s =>
    let start ← sliceBound start
    let stop ← sliceBound stop
    let step ← sliceBound step
    let size := Value.rangeLength a b s
    let _ ← slicePlaces size start stop step
    let k := step.getD 1
    let first := match start with
      | some i => clampBound size k i
      | none => if k < 0 then (size : Int) - 1 else 0
    let last := match stop with
      | some i => clampBound size k i
      | none => if k < 0 then -1 else size
    return .range (a + first * s) (a + last * s) (s * k)
  | _ => throw (Fault.wrongType ("'" ++ v.operandName ++ "' object is not subscriptable"))

end Rulebook.Template
