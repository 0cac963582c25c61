import Rulebook.Expression.Reader

/-!
# Evaluating expressions

An expression is evaluated only as far as it consists of constants, minus signs before values, and chains of
comparisons by `==`, `!=`, `<` and `>`. Of a text with several statements the first counts.
-/

namespace Rulebook.Expression

/-- The value of a comparison of two literals. -/
def compareLiterals (a : Value) (r : Relation) (b : Value) : Except Fault Value := do
  let a ← constant a
  let b ← constant b
  return .bool (← r.holds a b)

/-- A form that is not evaluated. -/
def unavailable (f : Form) : Fault :=
  ⟨.featureUnavailable, "Sorry, " ++ (f.label : Text) ++ " is not available in this evaluator"⟩

/-- A sign that is not evaluated, in a source. -/
def undefinedSign (s : Sign) (source : Text) : Fault :=
  ⟨.operatorUndefined, "Operator '<ast." ++ (s.label : Text) ++ " object>' does not exist in expression '" ++
    source ++ "'"⟩

/-- A value under a minus sign. -/
def negated (v : Value) : Except Fault Value :=
  match v with
  | .float x => .ok (.float x.neg)
  | .complex re im => .ok (.complex re.neg im.neg)
  | _ =>
    match v.asInteger? with
    | some n => .ok (.int (-n))
    | none => .error (Fault.wrongType ("bad operand type for unary -: '" ++ v.typeName ++ "'"))

/-- Whether a relation of a chain holds between two values. -/
def Link.holds (l : Link) (v w : Value) : Except Fault Bool :=
  match l with
  | .evaluated r => r.holds v w
  | _ => .error ⟨.missingKey, "<class 'ast." ++ (l.label : Text) ++ "'>"⟩

mutual

/-- The value of a tree in a source. -/
def evaluateNode (source : Text) : Node → Except Fault Value
  | .mk form _ parts =>
    match form with
    | .constant v => constant v
    | .signed .minus =>
      match parts with
      | operand :: _ => do negated (← evaluateNode source operand)
      | [] => .error (unavailable form)
    | .signed s => .error (undefinedSign s source)
    | .chain links =>
      match parts with
      | first :: more => do return .bool (← evaluateChain source (← evaluateNode source first) links more)
      | [] => .error (unavailable form)
    | _ => .error (unavailable form)

/-- Whether a value stands in relations to each next operand. What follows a relation that does not hold is not
evaluated. -/
def evaluateChain (source : Text) (left : Value) : List Link → List Node → Except Fault Bool
  | l :: links, n :: operands => do
    let right ← evaluateNode source n
    if ← l.holds left right then evaluateChain source right links operands else return false
  | _, _ => .ok true

end

/-- The value of a statement in a source. -/
def evaluateStatement (source : Text) (n : Node) : Except Fault Value :=
  match n.form, n.parts with
  | .statement "Expr", value :: _ => evaluateNode source value
  | form, _ => .error (unavailable form)

/-- What keeps a text from being read at all. -/
def unreadable? (t : Text) : Option Fault :=
  let start := (t.takeWhile fun c => !Text.isSurrogate c).length
  match t.drop start with
  | first :: rest =>
    let count := 1 + (rest.takeWhile Text.isSurrogate).length
    let place : Text :=
      if count = 1 then "character '\\u" ++ Text.hex 4 first ++ "' in position " ++ Text.ofNat start
      else "characters in position " ++ Text.ofNat start ++ "-" ++ Text.ofNat (start + count - 1)
    some ⟨.unencodable, "'utf-8' codec can't encode " ++ place ++ ": surrogates not allowed"⟩
  | [] => if t.contains 0 then some (Fault.badValue "source code string cannot contain null bytes") else none

/-- The kind of fault that an offence is. -/
def OffenceKind.faultKind : OffenceKind → FaultKind
  | form => .expressionSyntax
  | indentation => .expressionIndentation
  | tabs => .expressionTabs

/-- An offence as a fault. -/
def Offence.fault (o : Offence) : Fault :=
  ⟨o.kind.faultKind, o.message ++ " (<unknown>, line " ++ Text.ofNat o.line ++ ")"⟩

/-- The value of an expression text by the grammar. -/
def evaluateByGrammar (source t : Text) : Except Fault Value :=
  match unreadable? t with
  | some f => .error f
  | none =>
    match readText t with
    | .error o => .error o.fault
    | .ok tree =>
      match tree.spread with
      | [] => .error ⟨.expressionInvalid, "Sorry, cannot evaluate empty string"⟩
      | first :: _ => evaluateStatement source first

/-- The value of an expression text. -/
def evaluate (source : Text) : Except Fault Value :=
  let t := Text.strip source
  match readDirect t with
  | some (a, r, b) => compareLiterals a r b
  | none => evaluateByGrammar source t

end Rulebook.Expression
