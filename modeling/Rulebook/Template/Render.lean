import Rulebook.Template.Method
import Rulebook.Template.Prepared

/-!
# Rendering

Expressions and statements with names bound to values. A frame begins by taking the names that it lists from outside:
from the variables, or else from the names that every template knows. From then on names are looked up from the
innermost scope outwards, and one that no scope knows is undefined.
-/

namespace Rulebook.Template

/-- What a template can call by a name that it defines: parameters, the defaults of the last of them, the names of
its frame, the body, and the number of scopes around it. -/
structure Callable where
  name : Text
  params : List Text
  defaults : List Expr
  frame : CallFrame
  body : List Stmt
  depth : Nat
  deriving Inhabited

/-- What changes while a template is rendered: the scopes, innermost first, and the callables in order. -/
structure Scene where
  scopes : List Scope
  callables : Array Callable
  deriving Inhabited

/-- What stays while a template is rendered. -/
structure Surroundings where
  strict : Bool
  bindings : List (Value × Value)
  blocks : List (Text × Body)
  deriving Inhabited

/-- A step of rendering. -/
abbrev Render (α : Type) := StateT Scene (Except Fault) α

/-- The values of the names that every template knows. -/
def globalValue? (n : Text) : Option Value :=
  match n.toStringLossy with
  | "range" => some (.function "range" "function" "<function safe_range>")
  | "dict" => some (.function "dict" "type" "<class 'dict'>")
  | "lipsum" => some (.function "lipsum" "function" "<function generate_lorem_ipsum>")
  | "cycler" => some (.function "cycler" "type" "<class 'jinja2.utils.Cycler'>")
  | "joiner" => some (.function "joiner" "type" "<class 'jinja2.utils.Joiner'>")
  | "namespace" => some (.function "namespace" "type" "<class 'jinja2.utils.Namespace'>")
  | _ => none

/-- The value that a name has outside the template. -/
def Surroundings.value? (s : Surroundings) (n : Text) : Option Value :=
  (Value.lookupText n s.bindings).or (globalValue? n)

/-- The value of a name in the innermost scope that knows it. -/
def Scene.find? (scene : Scene) (n : Text) : Option Value := scene.scopes.findSome? (Scope.find? n)

/-- The value of a name. -/
def Scene.lookup (strict : Bool) (n : Text) (scene : Scene) : Value :=
  (scene.find? n).getD (undefinedOf strict (Text.display n ++ " is undefined"))

/-- The scene with a value for a name in the innermost scope. -/
def Scene.bind (n : Text) (v : Value) (scene : Scene) : Scene :=
  match scene.scopes with
  | [] => { scene with scopes := [[(n, v)]] }
  | scope :: outer => { scene with scopes := scope.bind n v :: outer }

/-- The scene with the value that a name has outside, unless a scope knows the name. -/
def Scene.fetch (s : Surroundings) (scene : Scene) (n : Text) : Scene :=
  match scene.find? n, s.value? n with
  | none, some v => scene.bind n v
  | _, _ => scene

/-- Binds a name in the innermost scope. -/
def bindName (n : Text) (v : Value) : Render Unit := modify (Scene.bind n v)

/-- Takes names from outside. -/
def fetch (s : Surroundings) (names : List Text) : Render Unit := modify fun scene => names.foldl (Scene.fetch s) scene

/-- A value with properties of its own. -/
def namespaceOf (fields : List (Text × Value)) : Except Fault Value := do
  let shown ← displayed (.mapping (fields.map fun (k, v) => (.text k, v)))
  return .record "Namespace" ("<Namespace " ++ shown ++ ">") fields

/-- Gives a property of a namespace a value in the innermost scope that knows the namespace. -/
def assignProperty (n property : Text) (v : Value) : List Scope → Except Fault (List Scope)
  | [] => .error ⟨.templateRuntime, "cannot assign attribute on non-namespace object"⟩
  | scope :: outer =>
    match scope.find? n with
    | some (.record kind _ fields) =>
      if Text.same kind "Namespace" then do
        return scope.bind n (← namespaceOf (Scope.bind property v fields)) :: outer
      else .error ⟨.templateRuntime, "cannot assign attribute on non-namespace object"⟩
    | some _ => .error ⟨.templateRuntime, "cannot assign attribute on non-namespace object"⟩
    | none => do return scope :: (← assignProperty n property v outer)

mutual

/-- Binds the names of a target to a value, or to its members. -/
def bindTarget (v : Value) : Expr → Render Unit
  | .name n => bindName n v
  | .namespaceRef n p => do
    let scene ← get
    match assignProperty n p v scene.scopes with
    | .ok scopes => set { scene with scopes := scopes }
    | .error f => throw f
  | .tuple items => do
    let vs ← iterateOr ("cannot unpack non-iterable " ++ v.operandName ++ " object") v
    if vs.length < items.length then
      throw (Fault.badValue ("not enough values to unpack (expected " ++ Text.ofNat items.length ++ ", got " ++
        Text.ofNat vs.length ++ ")"))
    else if items.length < vs.length then
      throw (Fault.badValue ("too many values to unpack (expected " ++ Text.ofNat items.length ++ ")"))
    else bindTargets vs items
  | _ => pure ()

/-- Binds targets to values in order. -/
def bindTargets (vs : List Value) : List Expr → Render Unit
  | [] => pure ()
  | e :: es => do
    bindTarget (vs.headD .null) e
    bindTargets (vs.drop 1) es

end

/-- The first number in a constant that has no written form of its own. -/
def nonFinite? : Nat → Value → Option Text
  | 0, _ => none
  | depth + 1, v =>
    match v with
    | .float (.infinite _) => some "inf"
    | .float .nan => some "nan"
    | .tuple items => items.findSome? (nonFinite? depth)
    | .list items => items.findSome? (nonFinite? depth)
    | .set items => items.findSome? (nonFinite? depth)
    | .frozenSet items => items.findSome? (nonFinite? depth)
    | .mapping entries => entries.findSome? fun (k, w) => (nonFinite? depth k).or (nonFinite? depth w)
    | _ => none

/-- A constant; a number that is not finite is taken for a name that nothing binds. -/
def constantValue (v : Value) : Except Fault Value :=
  match nonFinite? 1000 v with
  | some n => .error ⟨.unboundName, "name " ++ Text.display n ++ " is not defined"⟩
  | none => .ok v

/-- The greatest number of members of a range. -/
def maxRangeLength : Nat := 100000

/-- A range between bounds. -/
def rangeOf (args : List Value) : Except Fault Value := do
  argumentCount "range" 1 3 args
  let bounds ← args.mapM integerArgument
  let (a, b, step) := match bounds with
    | [b] => ((0 : Int), b, (1 : Int))
    | [a, b] => (a, b, 1)
    | a :: b :: s :: _ => (a, b, s)
    | [] => (0, 0, 1)
  if step = 0 then throw (Fault.badValue "range() arg 3 must not be zero")
  if maxSize < Value.rangeLength a b step then throw (beyondRange "ssize_t")
  if maxRangeLength < Value.rangeLength a b step then
    throw ⟨.overflow, "Range too big. The sandbox blocks ranges larger than MAX_RANGE (100000)."⟩
  return .range a b step

/-- The properties of a namespace from pairs; those under other keys than texts cannot be asked for. -/
def namespaceFrom (pairs : List (Value × Value)) : Except Fault Value := do
  match ← mappingOf pairs with
  | .mapping entries =>
    namespaceOf (entries.filterMap fun (k, v) => match k with | .text t => some (t, v) | _ => none)
  | v => return v

/-- What a function that every template knows gives. -/
def callGlobal (n : Text) (args : List Value) (named : List (Text × Value)) : Except Fault Value :=
  let byName : List (Value × Value) := named.map fun (k, v) => (.text k, v)
  match n.toStringLossy with
  | "range" =>
    match named with
    | [] => rangeOf args
    | (k, _) :: _ =>
      .error (Fault.wrongType ("safe_range() got an unexpected keyword argument '" ++ k ++ "'"))
  | "dict" => do
    argumentCount "dict" 0 1 args
    let entries ← match args with | v :: _ => entriesFrom v | [] => pure []
    mappingOf (entries ++ byName)
  | "namespace" => do
    argumentCount "dict" 0 1 args
    let entries ← match args with | v :: _ => entriesFrom v | [] => pure []
    namespaceFrom (entries ++ byName)
  | _ => .error (leftOut ("the function " ++ n))

/-- The names of arguments that the caller of a program's functions takes for itself. -/
def internalArguments : List Text :=
  ["_loop_vars", "_block_vars", "_SandboxedEnvironment__self", "_SandboxedEnvironment__context",
    "_SandboxedEnvironment__obj", "_Context__self", "_Context__obj"].map Text.ofString

/-- Refuses arguments by such a name, which are left out. -/
def refuseInternal (named : Scope) : Except Fault Unit :=
  if List.any named fun e => internalArguments.any (Text.same e.1) then
    .error (leftOut "an argument that callers take for themselves")
  else .ok ()

/-- The fault of a template that would need another one. -/
def noLoader : Fault := Fault.wrongType "no loader for this environment specified"

/-- The value is an empty choice among templates: none could be found. -/
def isEmptyChoice (v : Value) : Bool :=
  match v with
  | .undefined _ => false
  | .text _ => false
  | v => match truth v with | .ok b => !b | .error _ => false

/-- The fault of an insertion of another template. -/
def insertionFault (v : Value) : Fault :=
  match v with
  | .undefined u => u.fault
  | .text _ => noLoader
  | v =>
    match truth v with
    | .error f => f
    | .ok false => ⟨.missingTemplate, "Tried to select from an empty list of templates."⟩
    | .ok true => match iterate v with | .ok _ => noLoader | .error f => f

/-- A chain of filters with a text in the place of the missing target. -/
def Expr.onText (t : Text) : Expr → Expr
  | .ask asked none n args named rest namedRest =>
    .ask asked (some (.const (.text t))) n args named rest namedRest
  | .ask asked (some e) n args named rest namedRest => .ask asked (some (e.onText t)) n args named rest namedRest
  | e => e

/-- The value that tells about the progress of a loop. -/
def progress (index size : Nat) (previous next : Value) : Value :=
  let number (n : Nat) : Value := .int (n : Int)
  .record "LoopContext" ("<LoopContext " ++ Text.ofNat (index + 1) ++ "/" ++ Text.ofNat size ++ ">")
    [("index", number (index + 1)), ("index0", number index), ("length", number size),
      ("first", .bool (index = 0)), ("last", .bool (index + 1 = size)),
      ("revindex", number (size - index)), ("revindex0", number (size - index - 1)),
      ("previtem", previous), ("nextitem", next), ("depth", number 1), ("depth0", number 0)]

/-- Runs a step in a frame of its own, with a new innermost scope. -/
def inFrame {α : Type} (s : Surroundings) (outside : List Text) (step : Render α) : Render α := do
  modify fun scene => { scene with scopes := [] :: scene.scopes }
  fetch s outside
  let a ← step
  modify fun scene => { scene with scopes := scene.scopes.drop 1 }
  return a

/-- Runs a step in a frame of its own that knows the outermost scopes only, and a new one for some names. -/
def inOuterFrame {α : Type} (s : Surroundings) (depth : Nat) (names : Scope) (outside : List Text) (step : Render α) :
    Render α := do
  let saved := (← get).scopes
  let hidden := saved.take (saved.length - depth)
  modify fun scene => { scene with scopes := names :: saved.drop (saved.length - depth) }
  fetch s outside
  let a ← step
  modify fun scene => { scene with scopes := hidden ++ scene.scopes.drop 1 }
  return a

/-- The values of the special names that a body uses; `name` is that of its block. -/
def Body.specialScope (b : Body) (strict : Bool) (name : Text) : Scope :=
  b.special.map fun n =>
    (n, if Text.same n "super" then undefinedOf strict ("there is no parent block called " ++ Text.display name ++ ".")
      else .record "TemplateReference" "<TemplateReference None>" [])

/-- What the parameters of a callable get for arguments: a value, or none where a default is needed; and the
special names that its body uses. -/
def Callable.arguments (c : Callable) (strict : Bool) (args : List Value) (named : List (Text × Value)) :
    Except Fault (List (Option Value) × Scope) := do
  let uses (n : String) : Bool := c.frame.special.any (Text.same n) && !c.params.any (Text.same n)
  let byPosition := (args.take c.params.length).map some
  let left := c.params.drop args.length
  let byName := left.map fun p => (named.find? fun (k, _) => Text.same k p).map (·.2)
  let unused := named.filter fun (k, _) => !left.any (Text.same k)
  let caller : Scope :=
    if uses "caller" then
      [("caller", ((unused.find? fun (k, _) => Text.same k "caller").map (·.2)).getD
        (undefinedOf strict "No caller defined"))]
    else []
  let unused := if uses "caller" then unused.filter fun (k, _) => !Text.same k "caller" else unused
  let byNames : Scope ←
    if uses "kwargs" then pure [(("kwargs" : Text), Value.mapping (unused.map fun (k, v) => (.text k, v)))]
    else
      match unused with
      | [] => pure []
      | (k, _) :: _ =>
        if unused.any fun (k, _) => Text.same k "caller" then
          throw (Fault.wrongType ("macro " ++ Text.display c.name ++
            " was invoked with two values for the special caller argument. This is most likely a bug."))
        else
          throw (Fault.wrongType ("macro " ++ Text.display c.name ++ " takes no keyword argument " ++ Text.display k))
  let more := args.drop c.params.length
  let byPositions : Scope ←
    if uses "varargs" then pure [(("varargs" : Text), Value.tuple more)]
    else if more.isEmpty then pure []
    else
      throw (Fault.wrongType ("macro " ++ Text.display c.name ++ " takes not more than " ++
        Text.ofNat c.params.length ++ " argument(s)"))
  return (byPosition ++ byName, caller ++ byNames ++ byPositions)

mutual

/-- The value of an expression. The first argument bounds the depth of calls inside each other. -/
def evaluate (s : Surroundings) : Nat → Expr → Render Value
  | 0, _ => throw ⟨.tooDeep, "maximum recursion depth exceeded"⟩
  | fuel + 1, e =>
    match e with
    | .const v => fun scene => (constantValue v).map (·, scene)
    | .name n => do return (← get).lookup s.strict n
    | .tuple items => do return .tuple (← items.mapM (evaluate s fuel))
    | .list items => do return .list (← items.mapM (evaluate s fuel))
    | .mapping pairs => do
      let pairs ← pairs.mapM fun (a, b) => do
        let k ← evaluate s fuel a
        return (k, ← evaluate s fuel b)
      mappingOf pairs
    | .unary op e => do unary op (← evaluate s fuel e)
    | .arith op a b => do
      let v ← evaluate s fuel a
      arith op v (← evaluate s fuel b)
    | .both a b => do
      let v ← evaluate s fuel a
      if ← truth v then evaluate s fuel b else return v
    | .either a b => do
      let v ← evaluate s fuel a
      if ← truth v then return v else evaluate s fuel b
    | .chain first rest => do
      let v ← evaluate s fuel first
      return .bool (← chainHolds s fuel v rest)
    | .concat items => do
      let vs ← items.mapM (evaluate s fuel)
      let ts : List Text ← (vs.mapM printed : Except Fault (List Text))
      return .text ts.flatten
    | .choice line condition value otherwise => do
      if ← truth (← evaluate s fuel condition) then evaluate s fuel value
      else
        match otherwise with
        | some e => evaluate s fuel e
        | none =>
          return undefinedOf false ("the inline if-expression on line " ++ Text.ofNat line ++
            " evaluated to false and no else section was defined.")
    | .property e n => do getProperty s.strict (← evaluate s fuel e) n
    | .item e (.slice a b c) => do
      let v ← evaluate s fuel e
      let a ← evaluateOption s fuel a
      let b ← evaluateOption s fuel b
      let c ← evaluateOption s fuel c
      sliceValue v a b c
    | .item e i => do
      let v ← evaluate s fuel e
      getItem s.strict v (← evaluate s fuel i)
    | .slice .. => throw (leftOut "a slice in a tuple")
    | .call f args named rest namedRest => do
      let f ← evaluate s fuel f
      let (args, named) ← evaluateArguments s fuel args named rest namedRest
      refuseInternal named
      callValue s fuel f args named
    | .ask asked target name args named rest namedRest => do
      let v ← evaluateOption s fuel target
      let (args, named) ← evaluateArguments s fuel args named rest namedRest
      if asked.has name then askValue s.strict asked name v args named
      else
        throw ⟨.templateRuntime, "No " ++ (asked.label : Text) ++ " named " ++ Text.display name ++ " found."⟩
    | .namespaceRef n p => do getProperty s.strict ((← get).lookup s.strict n) p

/-- The value of an expression if there is one, else nothing. -/
def evaluateOption (s : Surroundings) : Nat → Option Expr → Render Value
  | 0, _ => throw ⟨.tooDeep, "maximum recursion depth exceeded"⟩
  | fuel + 1, e =>
    match e with
    | none => return .null
    | some e => evaluate s fuel e

/-- The values of arguments by position and by name. -/
def evaluateArguments (s : Surroundings) : Nat → List Expr → List (Text × Expr) → Option Expr → Option Expr →
    Render (List Value × List (Text × Value))
  | 0, _, _, _, _ => throw ⟨.tooDeep, "maximum recursion depth exceeded"⟩
  | fuel + 1, args, named, rest, namedRest => do
    let args ← args.mapM (evaluate s fuel)
    let args ← match rest with
      | none => pure args
      | some e => do
        let v ← evaluate s fuel e
        withRest args v
    let given ← named.mapM fun (k, e) => do return (k, ← evaluate s fuel e)
    let scope := bindAll given []
    let scope ← match namedRest with
      | none => pure scope
      | some e => do
        let v ← evaluate s fuel e
        -- arguments with a reserved name are written as one mapping, which the entries are put into
        withNamedRest (named.any fun e => isReserved e.1) scope v
    return (args, scope)

/-- The chain of relations from a value on holds; it ends at the first relation that does not. -/
def chainHolds (s : Surroundings) : Nat → Value → List (Relation × Expr) → Render Bool
  | 0, _, _ => throw ⟨.tooDeep, "maximum recursion depth exceeded"⟩
  | fuel + 1, v, rest =>
    match rest with
    | [] => return true
    | (r, e) :: rest => do
      let w ← evaluate s fuel e
      if ← relate r v w then chainHolds s fuel w rest else return false

/-- What a value gives when it is called. -/
def callValue (s : Surroundings) : Nat → Value → List Value → List (Text × Value) → Render Value
  | 0, _, _, _ => throw ⟨.tooDeep, "maximum recursion depth exceeded"⟩
  | fuel + 1, f, args, named =>
    match f with
    | .undefined u => throw u.fault
    | .method receiver name => callMethod receiver name args named
    | .function name _ _ => callGlobal name args named
    | .templateFunction i _ => do
      match (← get).callables[i]? with
      | none => return .null
      | some c =>
        let (values, special) ← c.arguments s.strict args named
        inOuterFrame s c.depth special c.frame.outside do
          let required := c.params.length - c.defaults.length
          let _ ← ((c.params.zip values).zipIdx).mapM fun ((p, v?), i) => do
            match v? with
            | some v => bindName p v
            | none =>
              match if i < required then none else c.defaults[i - required]? with
              | some e =>
                let v ← evaluate s fuel e
                bindName p v
              | none => bindName p (undefinedOf s.strict ("parameter " ++ Text.display p ++ " was not provided"))
          return .text (← runAll s fuel c.body)
    | f =>
      throw (if isCallable f then leftOut ("a call of " ++ f.operandName)
        else Fault.wrongType ("'" ++ f.operandName ++ "' object is not callable"))

/-- The text that statements put out. -/
def runAll (s : Surroundings) : Nat → List Stmt → Render Text
  | 0, _ => throw ⟨.tooDeep, "maximum recursion depth exceeded"⟩
  | fuel + 1, body => do return (← body.mapM (run s fuel)).flatten

/-- The text that a statement puts out. -/
def run (s : Surroundings) : Nat → Stmt → Render Text
  | 0, _ => throw ⟨.tooDeep, "maximum recursion depth exceeded"⟩
  | fuel + 1, stmt =>
    match stmt with
    | .output pieces => do
      let parts ← pieces.mapM fun p => do
        match p with
        | .data t => return t
        | .expr e => printed (← evaluate s fuel e)
      return parts.flatten
    | .assign target value => do
      let v ← evaluate s fuel value
      bindTarget v target
      return []
    | .assignBlock target filter outside body => do
      let v ← inFrame s outside do
        let t ← runAll s fuel body
        match filter with
        | none => return .text t
        | some e => evaluate s fuel (e.onText t)
      bindTarget v target
      return []
    | .loop target iterable test _ outside body otherwise => do
      let items ← iterate (← evaluate s fuel iterable)
      let items ← match test with
        | none => pure items
        | some e =>
          items.filterM fun v => inFrame s outside.test do
            bindTarget v target
            truth (← evaluate s fuel e)
      if items.isEmpty then inFrame s outside.otherwise (runAll s fuel otherwise)
      else
        let all := items.toArray
        let missing (m : Text) := undefinedOf s.strict m
        let parts ← items.zipIdx.mapM fun (v, i) => inFrame s outside.body do
          let previous := if i = 0 then missing "there is no previous item" else all.getD (i - 1) .null
          let next := all.getD (i + 1) (missing "there is no next item")
          bindName "loop" (progress i all.size previous next)
          bindTarget v target
          runAll s fuel body
        return parts.flatten
    | .condition test body more otherwise => do
      if ← truth (← evaluate s fuel test) then runAll s fuel body
      else runBranches s fuel more otherwise
    | .withNames targets values outside body => do
      let vs ← values.mapM (evaluate s fuel)
      inFrame s outside do
        bindTargets vs targets
        runAll s fuel body
    | .autoescape value outside body => inFrame s outside do
      let _ ← evaluate s fuel value
      runAll s fuel body
    | .block name _ _ =>
      match s.blocks.find? fun b => Text.same b.1 name with
      | some (_, body) =>
        inOuterFrame s 1 (body.specialScope s.strict name) body.outside (runAll s fuel body.statements)
      | none => return []
    | .inherit e => do
      let _ ← evaluate s fuel e
      throw noLoader
    | .insert e passing => do
      let v ← evaluate s fuel e
      if passing && isEmptyChoice v then return [] else throw (insertionFault v)
    | .importAs e _ => do
      let _ ← evaluate s fuel e
      throw noLoader
    | .importNames e _ => do
      let _ ← evaluate s fuel e
      throw noLoader
    | .define name params defaults frame body => do
      let scene ← get
      let index := scene.callables.size
      set { scene with callables := scene.callables.push ⟨name, params, defaults, frame, body, scene.scopes.length⟩ }
      bindName name (.templateFunction index name)
      return []
    | .callBlock call params defaults frame body => do
      let scene ← get
      let index := scene.callables.size
      set { scene with callables := scene.callables.push ⟨"caller", params, defaults, frame, body, scene.scopes.length⟩ }
      match call with
      | .call f args named rest namedRest =>
        let f ← evaluate s fuel f
        let caller : Text × Expr := ("caller", .const (.templateFunction index "caller"))
        let (args, named) ← evaluateArguments s fuel args (named ++ [caller]) rest namedRest
        refuseInternal named
        printed (← callValue s fuel f args named)
      | _ => return []
    | .filterBlock filter outside body => inFrame s outside do
      let t ← runAll s fuel body
      printed (← evaluate s fuel (filter.onText t))

/-- The text of the first branch whose test holds. -/
def runBranches (s : Surroundings) : Nat → List (Expr × List Stmt) → List Stmt → Render Text
  | 0, _, _ => throw ⟨.tooDeep, "maximum recursion depth exceeded"⟩
  | fuel + 1, more, otherwise =>
    match more with
    | [] => runAll s fuel otherwise
    | (test, body) :: more => do
      if ← truth (← evaluate s fuel test) then runAll s fuel body
      else runBranches s fuel more otherwise

end

theorem evaluate_const {s : Surroundings} {fuel : Nat} {v : Value} :
    evaluate s (fuel + 1) (.const v) = liftM (constantValue v) := by
  funext scene
  simp only [evaluate]
  cases constantValue v <;> rfl

/-- The text that a template puts out for variables; `depth` bounds the nesting that is followed. -/
def render (strict : Bool) (depth : Nat) (template : Prepared) (bindings : List (Value × Value)) :
    Except Fault Text := do
  let s : Surroundings := ⟨strict, bindings, template.blocks⟩
  let body := template.body
  let root := inOuterFrame s 0 (body.specialScope strict []) body.outside (runAll s depth body.statements)
  return (← root.run ⟨[], #[]⟩).1

end Rulebook.Template
