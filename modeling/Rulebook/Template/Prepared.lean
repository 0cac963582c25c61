import Rulebook.Template.Constant
import Rulebook.Template.Names

/-!
# Prepared templates

A template as it is rendered: what is known beforehand is computed, and the offences that need no variables
are reported. Inside conditions a filter or test that does not exist is left to rendering.
-/

namespace Rulebook.Template

/-- An offence of a template that is well formed. -/
def assertion (message : Text) : Fault := ⟨.templateAssertion, message⟩

/-- The word for what is asked. -/
def Asked.label : Asked → String
  | filter => "filter"
  | test => "test"

/-- Refuses a filter or test that does not exist. -/
def Asked.ensure (asked : Asked) (soft : Bool) (name : Text) : Except Fault Unit :=
  if soft || asked.has name then .ok ()
  else .error (assertion ("No " ++ (asked.label : Text) ++ " named " ++ Text.display name ++ "."))

mutual

/-- Refuses filters and tests that do not exist, and constants that cannot be written down. -/
def Expr.check (soft : Bool) : Expr → Except Fault Unit
  | .const v => do
    let _ ← v.display
  | .name _ => .ok ()
  | .tuple items => checkAll soft items
  | .list items => checkAll soft items
  | .mapping pairs => checkPairs soft pairs
  | .unary _ e => e.check soft
  | .arith _ a b => do
    a.check soft
    b.check soft
  | .both a b => do
    a.check soft
    b.check soft
  | .either a b => do
    a.check soft
    b.check soft
  | .chain first rest => do
    first.check soft
    checkRelated soft rest
  | .concat items => checkAll soft items
  | .choice _ condition value otherwise => do
    value.check true
    condition.check true
    checkOption true otherwise
  | .property e _ => e.check soft
  | .item e i => do
    e.check soft
    i.check soft
  | .slice a b c => do
    checkOption soft a
    checkOption soft b
    checkOption soft c
  | .call f args named rest namedRest => do
    f.check soft
    checkAll soft args
    checkNamed soft named
    checkOption soft rest
    checkOption soft namedRest
  | .ask asked target name args named rest namedRest => do
    asked.ensure soft name
    checkOption soft target
    checkAll soft args
    checkNamed soft named
    checkOption soft rest
    checkOption soft namedRest
  | .namespaceRef .. => .ok ()

/-- Checks expressions in order. -/
def checkAll (soft : Bool) : List Expr → Except Fault Unit
  | [] => .ok ()
  | e :: es => do
    e.check soft
    checkAll soft es

/-- Checks pairs of expressions in order. -/
def checkPairs (soft : Bool) : List (Expr × Expr) → Except Fault Unit
  | [] => .ok ()
  | (a, b) :: es => do
    a.check soft
    b.check soft
    checkPairs soft es

/-- Checks the operands of relations in order. -/
def checkRelated (soft : Bool) : List (Relation × Expr) → Except Fault Unit
  | [] => .ok ()
  | (_, e) :: es => do
    e.check soft
    checkRelated soft es

/-- Checks arguments by name in order. -/
def checkNamed (soft : Bool) : List (Text × Expr) → Except Fault Unit
  | [] => .ok ()
  | (_, e) :: es => do
    e.check soft
    checkNamed soft es

/-- Checks an expression, if there is one. -/
def checkOption (soft : Bool) : Option Expr → Except Fault Unit
  | none => .ok ()
  | some e => e.check soft

end

mutual

/-- An expression ready for rendering. -/
def Expr.prepare (strict soft : Bool) : Expr → Except Fault Expr
  | .tuple items => do return .tuple (← prepareExprs strict soft items)
  | .list items => do return .list (← prepareExprs strict soft items)
  | .mapping pairs => do return .mapping (← preparePairs strict soft pairs)
  | e => do
    let e ← e.fold strict
    e.check soft
    return e

/-- Expressions ready for rendering. -/
def prepareExprs (strict soft : Bool) : List Expr → Except Fault (List Expr)
  | [] => .ok []
  | e :: es => do
    let e ← e.prepare strict soft
    return e :: (← prepareExprs strict soft es)

/-- Pairs of expressions ready for rendering. -/
def preparePairs (strict soft : Bool) : List (Expr × Expr) → Except Fault (List (Expr × Expr))
  | [] => .ok []
  | (a, b) :: es => do
    let a ← a.prepare strict soft
    let b ← b.prepare strict soft
    return (a, b) :: (← preparePairs strict soft es)

end

/-- A piece of output with its text where that is known. -/
def Piece.known (strict : Bool) : Piece → Except Fault Piece
  | .data t => .ok (.data t)
  | .expr e =>
    match e.constant? strict with
    | .ok (some v) => do return .data (← printed v)
    | .ok none => .ok (.expr e)
    | .error f => .error f

/-- A piece of output ready for rendering. -/
def Piece.prepare (strict soft : Bool) : Piece → Except Fault Piece
  | .data t => .ok (.data t)
  | .expr e => do return .expr (← e.prepare strict soft)

/-- An expression ready for rendering, if there is one. -/
def prepareOption (strict soft : Bool) : Option Expr → Except Fault (Option Expr)
  | none => .ok none
  | some e => do return some (← e.prepare strict soft)

/-- Refuses a parameter for the caller that the body uses and that has no default. -/
def checkCaller (params : List Text) (defaults : List Expr) (body : List Stmt) : Except Fault Unit :=
  let required := params.take (params.length - defaults.length)
  if isFree "caller" (mentionsAll body) && required.any (Text.same "caller") then
    .error (assertion "When defining macros or call blocks the special \"caller\" argument must be omitted or be given a default.")
  else .ok ()

mutual

/-- A statement ready for rendering. It is soft inside a condition, and on top outside all frames. -/
def Stmt.prepare (strict soft top : Bool) : Stmt → Except Fault Stmt
  | .output pieces => do
    let pieces ← pieces.mapM (Piece.known strict)
    return .output (← pieces.mapM (Piece.prepare strict soft))
  | .assign target value => do return .assign target (← value.prepare strict soft)
  | .assignBlock target filter outside body => do
    let body ← prepareAll strict false false body
    let filter ← prepareOption strict false filter
    return .assignBlock target filter outside body
  | .loop target iterable test recursive outside body otherwise => do
    let test ← prepareOption strict false test
    if isStored "loop" [.loop target iterable test recursive outside body otherwise] then
      throw (assertion "Can't assign to special loop variable in for-loop target")
    let iterable ← iterable.prepare strict soft
    let body ← prepareAll strict false false body
    let otherwise ← prepareAll strict false false otherwise
    return .loop target iterable test recursive outside body otherwise
  | .condition test body more otherwise => do
    let test ← test.prepare strict true
    let body ← prepareAll strict true top body
    let more ← prepareBranches strict top more
    let otherwise ← prepareAll strict true top otherwise
    return .condition test body more otherwise
  | .withNames targets values outside body => do
    let values ← prepareExprs strict soft values
    return .withNames targets values outside (← prepareAll strict false false body)
  | .autoescape value outside body => do
    let value ← value.prepare strict false
    return .autoescape value outside (← prepareAll strict false false body)
  | .block name isScoped _ => .ok (.block name isScoped [])
  | .inherit template => do
    if !top then throw (assertion "cannot use extend from a non top-level scope")
    return .inherit (← template.prepare strict soft)
  | .insert template passing => do return .insert (← template.prepare strict soft) passing
  | .importAs template target => do return .importAs (← template.prepare strict soft) target
  | .importNames template names => do return .importNames (← template.prepare strict soft) names
  | .define name params defaults frame body => do
    checkCaller params defaults body
    let defaults ← prepareExprs strict false defaults
    return .define name params defaults frame (← prepareAll strict false false body)
  | .callBlock call params defaults frame body => do
    checkCaller params defaults body
    let defaults ← prepareExprs strict false defaults
    let body ← prepareAll strict false false body
    return .callBlock (← call.prepare strict soft) params defaults frame body
  | .filterBlock filter outside body => do
    let body ← prepareAll strict false false body
    return .filterBlock (← filter.prepare strict false) outside body

/-- Statements ready for rendering. -/
def prepareAll (strict soft top : Bool) : List Stmt → Except Fault (List Stmt)
  | [] => .ok []
  | s :: ss => do
    let s ← s.prepare strict soft top
    return s :: (← prepareAll strict soft top ss)

/-- Branches ready for rendering. -/
def prepareBranches (strict top : Bool) : List (Expr × List Stmt) → Except Fault (List (Expr × List Stmt))
  | [] => .ok []
  | (test, body) :: more => do
    let test ← test.prepare strict true
    let body ← prepareAll strict true top body
    return (test, body) :: (← prepareBranches strict top more)

end

/-- A body ready for rendering. -/
def Body.prepare (strict top : Bool) (b : Body) : Except Fault Body := do
  return { b with statements := ← prepareAll strict false top b.statements }

/-- A template ready for rendering: its body, and the bodies of its blocks by name. -/
structure Prepared where
  body : Body
  blocks : List (Text × Body)
  deriving Inhabited

/-- Refuses two blocks of one name. -/
def checkBlockNames : List Text → List Text → Except Fault Unit
  | [], _ => .ok ()
  | n :: rest, seen =>
    if seen.any (Text.same n) then .error (assertion ("block " ++ Text.display n ++ " defined twice"))
    else checkBlockNames rest (n :: seen)

/-- The template ready for rendering, or the first offence that needs no variables. -/
def prepare (strict : Bool) (statements : List Stmt) : Except Fault Prepared := do
  let blocks := blockBodies statements
  checkBlockNames (blocks.map (·.1)) []
  let body ← (templateBody statements).prepare strict true
  let blocks ← blocks.mapM fun b => do return (b.1, ← b.2.prepare strict false)
  return ⟨body, blocks⟩

end Rulebook.Template
