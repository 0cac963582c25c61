import Rulebook.Expression.Token
import Rulebook.Template.Syntax
import Rulebook.Template.Test

/-!
# Constants

What is known of an expression before a template is rendered. A fault while a part is computed beforehand
leaves that part to rendering, except for joined texts, logical operators, choices and mappings, whose faults
are reported at once.
-/

namespace Rulebook.Template

/-- A value that may be known beforehand. -/
abbrev Known (α : Type) := Except Fault (Option α)

namespace Known

/-- Goes on with a value that is known. -/
def andThen {α β : Type} (x : Known α) (f : α → Known β) : Known β :=
  match x with
  | .ok (some a) => f a
  | .ok none => .ok none
  | .error e => .error e

/-- A value that is known if it can be computed; a fault is left to rendering. -/
def attempt {α : Type} (r : Except Fault α) : Known α :=
  match r with
  | .ok a => .ok (some a)
  | .error _ => .ok none

/-- A value that is known; a fault is reported at once. -/
def insist {α : Type} (r : Except Fault α) : Known α := r.map some

/-- Leaves the faults of a value to rendering. -/
def orLater {α : Type} (x : Known α) : Known α :=
  match x with
  | .ok a => .ok a
  | .error _ => .ok none

end Known

/-- A slice as messages show it. -/
def sliceText (start stop step : Value) : Except Fault Text := do
  return "slice(" ++ (← start.display) ++ ", " ++ (← stop.display) ++ ", " ++ (← step.display) ++ ")"

/-- A slice that is taken beforehand; one that the value does not offer is undefined. -/
def constantSlice (strict : Bool) (v start stop step : Value) : Except Fault Value :=
  match sliceValue v start stop step with
  | .ok w => .ok w
  | .error f =>
    if isAbsence f then do
      let shown ← sliceText start stop step
      return undefinedOf strict (ownerName v ++ " has no element " ++ shown)
    else .error f

/-- A word that no argument of a program can be called by. -/
def isReserved (n : Text) : Bool := Expression.keywords.any fun k => Text.same n k

/-- Names that are bound to values. -/
abbrev Scope := List (Text × Value)

/-- The value of a name in a scope. -/
def Scope.find? (n : Text) : Scope → Option Value
  | [] => none
  | (m, v) :: rest => if Text.same m n then some v else Scope.find? n rest

/-- The scope with a value for a name. -/
def Scope.bind (n : Text) (v : Value) : Scope → Scope
  | [] => [(n, v)]
  | (m, w) :: rest => if Text.same m n then (n, v) :: rest else (m, w) :: Scope.bind n v rest

/-- Arguments by position followed by the members of a collection. -/
def withRest (args : List Value) (rest : Value) : Except Fault (List Value) := do
  return args ++ (← iterateOr ("Value after * must be an iterable, not " ++ rest.operandName) rest)

/-- The entries of a mapping that arguments by name are taken from. -/
def restEntries (rest : Value) : Except Fault (List (Value × Value)) :=
  match rest with
  | .mapping entries => .ok entries
  | .undefined u => .error u.fault
  | v => .error (Fault.wrongType ("argument after ** must be a mapping, not " ++ v.operandName))

/-- The names and values bound in order: a later one of a name replaces the value. -/
def bindAll (pairs scope : Scope) : Scope := pairs.foldl (fun scope e => Scope.bind e.1 e.2 scope) scope

/-- Entries as arguments by name. -/
def namedEntries (entries : List (Value × Value)) : Except Fault Scope :=
  entries.mapM fun (k, v) =>
    match k with
    | .text t => .ok (t, v)
    | _ => .error (Fault.wrongType "keywords must be strings")

/-- Arguments by name followed by the entries of a mapping. A name that is there already is refused, unless the entries
replace what is there. -/
def withNamedRest (replaces : Bool) (named : Scope) (rest : Value) : Except Fault Scope := do
  let more ← namedEntries (← restEntries rest)
  let twice := if replaces then none else List.find? (fun e => (Scope.find? e.1 named).isSome) more
  match twice with
  | some (k, _) => throw (Fault.wrongType ("got multiple values for keyword argument '" ++ k ++ "'"))
  | none => return bindAll more named

/-- The entries that a collection of pairs or a mapping gives. -/
def entriesFrom (v : Value) : Except Fault (List (Value × Value)) :=
  match v with
  | .mapping entries => .ok entries
  | .undefined u => .error u.fault
  | v => do
    (← iterate v).zipIdx.mapM fun (item, i) => do
      match ← iterateOr ("cannot convert dictionary update sequence element #" ++ Text.ofNat i ++ " to a sequence") item with
      | [k, w] => return (k, w)
      | parts =>
        throw (Fault.badValue ("dictionary update sequence element #" ++ Text.ofNat i ++ " has length " ++
          Text.ofNat parts.length ++ "; 2 is required"))

/-- Arguments by name followed by those of a collection that is known beforehand, which replace what is there. -/
def withConstantRest (named : Scope) (rest : Value) : Except Fault Scope := do
  return bindAll (← namedEntries (← entriesFrom rest)) named

/-- What a filter or test makes of a value; it must exist. -/
def askValue (strict : Bool) (asked : Asked) (name : Text) (v : Value) (args : List Value)
    (named : List (Text × Value)) : Except Fault Value :=
  match asked with
  | .filter => applyFilter strict name v args named
  | .test => applyTest name v args named

/-- The filter or test exists. -/
def Asked.has (asked : Asked) (name : Text) : Bool :=
  match asked with
  | .filter => isFilterName name
  | .test => isTestName name

/-- The entries of a mapping from pairs. -/
def mappingOf (pairs : List (Value × Value)) : Except Fault Value := do
  let entries ← pairs.foldlM
    (fun entries (k, v) => do
      checkKey k
      return Value.insertEntry k v entries)
    []
  return .mapping entries

mutual

/-- The value of an expression that is known before rendering. -/
def Expr.constant? (strict : Bool) : Expr → Known Value
  | .const v => .ok (some v)
  | .tuple items => (constants? strict items).andThen fun vs => .ok (some (.tuple vs))
  | .list items => (constants? strict items).andThen fun vs => .ok (some (.list vs))
  | .mapping pairs => (constantPairs? strict pairs).andThen fun es => Known.insist (mappingOf es)
  | .unary op e => ((e.constant? strict).andThen fun v => Known.attempt (unary op v)).orLater
  | .arith op a b =>
    ((a.constant? strict).andThen fun v => (b.constant? strict).andThen fun w => Known.attempt (arith op v w)).orLater
  | .both a b =>
    (a.constant? strict).andThen fun v =>
      (Known.insist (truth v)).andThen fun t => if t then b.constant? strict else .ok (some v)
  | .either a b =>
    (a.constant? strict).andThen fun v =>
      (Known.insist (truth v)).andThen fun t => if t then .ok (some v) else b.constant? strict
  | .chain first rest => (first.constant? strict).andThen fun v => (constantChain? strict v rest).orLater
  | .concat items => (constantTexts? strict items).andThen fun ts => .ok (some (.text ts.flatten))
  | .choice _ condition value otherwise =>
    (condition.constant? strict).andThen fun c =>
      (Known.insist (truth c)).andThen fun t =>
        if t then value.constant? strict
        else
          match otherwise with
          | some e => e.constant? strict
          | none => .ok none
  | .property e n => ((e.constant? strict).andThen fun v => Known.attempt (getProperty strict v n)).orLater
  | .item e (.slice a b c) =>
    ((e.constant? strict).andThen fun v =>
      (constantOption? strict a).andThen fun a =>
        (constantOption? strict b).andThen fun b =>
          (constantOption? strict c).andThen fun c => Known.attempt (constantSlice strict v a b c)).orLater
  | .item e i =>
    ((e.constant? strict).andThen fun v =>
      (i.constant? strict).andThen fun w => Known.attempt (getItem strict v w)).orLater
  | .ask asked (some target) name args named rest namedRest =>
    if !asked.has name then .ok none
    else
      (constants? strict args).andThen fun args =>
        (constantNamed? strict named).andThen fun named =>
          (constantRest? strict rest args).andThen fun args =>
            (constantNamedRest? strict namedRest (bindAll named [])).andThen fun named =>
              (target.constant? strict).andThen fun v => Known.attempt (askValue strict asked name v args named)
  | _ => .ok none

/-- The values of expressions, if all are known. -/
def constants? (strict : Bool) : List Expr → Known (List Value)
  | [] => .ok (some [])
  | e :: es => (e.constant? strict).andThen fun v => (constants? strict es).andThen fun vs => .ok (some (v :: vs))

/-- The plain texts of expressions, if all are known. -/
def constantTexts? (strict : Bool) : List Expr → Known (List Text)
  | [] => .ok (some [])
  | e :: es =>
    (e.constant? strict).andThen fun v =>
      (Known.insist (printed v)).andThen fun t =>
        (constantTexts? strict es).andThen fun ts => .ok (some (t :: ts))

/-- The values of pairs of expressions, if all are known. -/
def constantPairs? (strict : Bool) : List (Expr × Expr) → Known (List (Value × Value))
  | [] => .ok (some [])
  | (a, b) :: es =>
    (a.constant? strict).andThen fun v =>
      (b.constant? strict).andThen fun w =>
        (constantPairs? strict es).andThen fun vs => .ok (some ((v, w) :: vs))

/-- The values of arguments by name, if all are known. -/
def constantNamed? (strict : Bool) : List (Text × Expr) → Known (List (Text × Value))
  | [] => .ok (some [])
  | (k, e) :: es =>
    (e.constant? strict).andThen fun v =>
      (constantNamed? strict es).andThen fun vs => .ok (some ((k, v) :: vs))

/-- The value of an expression if there is one, else nothing. -/
def constantOption? (strict : Bool) : Option Expr → Known Value
  | none => .ok (some .null)
  | some e => e.constant? strict

/-- The arguments by position with those of a collection behind them, if they are known. -/
def constantRest? (strict : Bool) : Option Expr → List Value → Known (List Value)
  | none, args => .ok (some args)
  | some e, args => ((e.constant? strict).andThen fun v => Known.attempt (withRest args v)).orLater

/-- The arguments by name with those of a mapping behind them, if they are known. -/
def constantNamedRest? (strict : Bool) : Option Expr → List (Text × Value) → Known (List (Text × Value))
  | none, named => .ok (some named)
  | some e, named => ((e.constant? strict).andThen fun v => Known.attempt (withConstantRest named v)).orLater

/-- Whether a chain of relations from a value on holds, if that is known. -/
def constantChain? (strict : Bool) (v : Value) : List (Relation × Expr) → Known Value
  | [] => .ok (some (.bool true))
  | (r, e) :: rest =>
    (e.constant? strict).andThen fun w =>
      (Known.attempt (relate r v w)).andThen fun holds =>
        if holds then constantChain? strict w rest else .ok (some (.bool false))

end

mutual

/-- The value can stand in an expression as a constant. -/
def isConstantValue : Value → Bool
  | .null => true
  | .bool _ => true
  | .int _ => true
  | .float _ => true
  | .text _ => true
  | .range .. => true
  | .tuple items => allConstantValues items
  | .list items => allConstantValues items
  | .set items => allConstantValues items
  | .frozenSet items => allConstantValues items
  | .mapping entries => allConstantEntries entries
  | _ => false

/-- All values can stand as constants. -/
def allConstantValues : List Value → Bool
  | [] => true
  | v :: vs => isConstantValue v && allConstantValues vs

/-- All entries can stand as constants. -/
def allConstantEntries : List (Value × Value) → Bool
  | [] => true
  | (k, v) :: es => isConstantValue k && isConstantValue v && allConstantEntries es

end

/-- The expression as a constant, if its value is known. -/
def settle (strict : Bool) (e : Expr) : Except Fault Expr :=
  match e.constant? strict with
  | .ok (some v) => .ok (if isConstantValue v then .const v else e)
  | .ok none => .ok e
  | .error f => .error f

mutual

/-- The expression with constants for all parts that are known. -/
def Expr.fold (strict : Bool) : Expr → Except Fault Expr
  | .const v => .ok (.const v)
  | .name n => .ok (.name n)
  | .tuple items => do settle strict (.tuple (← foldAll strict items))
  | .list items => do settle strict (.list (← foldAll strict items))
  | .mapping pairs => do settle strict (.mapping (← foldPairs strict pairs))
  | .unary op e => do settle strict (.unary op (← e.fold strict))
  | .arith op a b => do
    let a ← a.fold strict
    let b ← b.fold strict
    settle strict (.arith op a b)
  | .both a b => do
    let a ← a.fold strict
    let b ← b.fold strict
    settle strict (.both a b)
  | .either a b => do
    let a ← a.fold strict
    let b ← b.fold strict
    settle strict (.either a b)
  | .chain first rest => do
    let first ← first.fold strict
    let rest ← foldRelated strict rest
    settle strict (.chain first rest)
  | .concat items => do settle strict (.concat (← foldAll strict items))
  | .choice line condition value otherwise => do
    let condition ← condition.fold strict
    let value ← value.fold strict
    let otherwise ← foldOption strict otherwise
    settle strict (.choice line condition value otherwise)
  | .property e n => do settle strict (.property (← e.fold strict) n)
  | .item e i => do
    let e ← e.fold strict
    let i ← i.fold strict
    settle strict (.item e i)
  | .slice a b c => do
    let a ← foldOption strict a
    let b ← foldOption strict b
    let c ← foldOption strict c
    return .slice a b c
  | .call f args named rest namedRest => do
    let f ← f.fold strict
    let args ← foldAll strict args
    let named ← foldNamed strict named
    let rest ← foldOption strict rest
    let namedRest ← foldOption strict namedRest
    return .call f args named rest namedRest
  | .ask asked target name args named rest namedRest => do
    let target ← foldOption strict target
    let args ← foldAll strict args
    let named ← foldNamed strict named
    let rest ← foldOption strict rest
    let namedRest ← foldOption strict namedRest
    settle strict (.ask asked target name args named rest namedRest)
  | .namespaceRef n p => .ok (.namespaceRef n p)

/-- The expressions with constants for what is known. -/
def foldAll (strict : Bool) : List Expr → Except Fault (List Expr)
  | [] => .ok []
  | e :: es => do
    let e ← e.fold strict
    return e :: (← foldAll strict es)

/-- The pairs with constants for what is known. -/
def foldPairs (strict : Bool) : List (Expr × Expr) → Except Fault (List (Expr × Expr))
  | [] => .ok []
  | (a, b) :: es => do
    let a ← a.fold strict
    let b ← b.fold strict
    return (a, b) :: (← foldPairs strict es)

/-- The relations with constants for what is known. -/
def foldRelated (strict : Bool) : List (Relation × Expr) → Except Fault (List (Relation × Expr))
  | [] => .ok []
  | (r, e) :: es => do
    let e ← e.fold strict
    return (r, e) :: (← foldRelated strict es)

/-- The arguments by name with constants for what is known. -/
def foldNamed (strict : Bool) : List (Text × Expr) → Except Fault (List (Text × Expr))
  | [] => .ok []
  | (k, e) :: es => do
    let e ← e.fold strict
    return (k, e) :: (← foldNamed strict es)

/-- The expression, if there is one, with constants for what is known. -/
def foldOption (strict : Bool) : Option Expr → Except Fault (Option Expr)
  | none => .ok none
  | some e => do return some (← e.fold strict)

end

end Rulebook.Template
