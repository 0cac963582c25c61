import Rulebook.Template.Syntax

/-!
# Mentions of names

The names that expressions and statements look up and bind, in the order of the text.
-/

namespace Rulebook.Template

mutual

/-- The names that an expression looks up. -/
def Expr.names : Expr → List Text
  | .const _ => []
  | .name n => [n]
  | .tuple items => namesAll items
  | .list items => namesAll items
  | .mapping pairs => namesPairs pairs
  | .unary _ e => e.names
  | .arith _ a b => a.names ++ b.names
  | .both a b => a.names ++ b.names
  | .either a b => a.names ++ b.names
  | .chain first rest => first.names ++ namesRelated rest
  | .concat items => namesAll items
  | .choice _ condition value otherwise => condition.names ++ value.names ++ namesOption otherwise
  | .property e _ => e.names
  | .item e i => e.names ++ i.names
  | .slice a b c => namesOption a ++ namesOption b ++ namesOption c
  | .call f args named rest namedRest =>
    f.names ++ namesAll args ++ namesNamed named ++ namesOption rest ++ namesOption namedRest
  | .ask _ target _ args named rest namedRest =>
    namesOption target ++ namesAll args ++ namesNamed named ++ namesOption rest ++ namesOption namedRest
  | .namespaceRef n _ => [n]

/-- The names that expressions look up. -/
def namesAll : List Expr → List Text
  | [] => []
  | e :: es => e.names ++ namesAll es

/-- The names that pairs of expressions look up. -/
def namesPairs : List (Expr × Expr) → List Text
  | [] => []
  | (a, b) :: es => a.names ++ b.names ++ namesPairs es

/-- The names that the operands of relations look up. -/
def namesRelated : List (Relation × Expr) → List Text
  | [] => []
  | (_, e) :: es => e.names ++ namesRelated es

/-- The names that arguments by name look up. -/
def namesNamed : List (Text × Expr) → List Text
  | [] => []
  | (_, e) :: es => e.names ++ namesNamed es

/-- The names that an expression looks up, if there is one. -/
def namesOption : Option Expr → List Text
  | none => []
  | some e => e.names

end

/-- How a name is mentioned. -/
inductive Mention where
  | load (name : Text)
  | store (name : Text)
  | param (name : Text)
  deriving Repr, DecidableEq, Inhabited

/-- Expressions look names up. -/
def loads (names : List Text) : List Mention := names.map .load

mutual

/-- The mentions of an assignment's target; a namespace is looked up. -/
def targetMentions (bind : Text → Mention) : Expr → List Mention
  | .name n => [bind n]
  | .tuple items => targetMentionsAll bind items
  | .namespaceRef n _ => [.load n]
  | _ => []

/-- The mentions of targets. -/
def targetMentionsAll (bind : Text → Mention) : List Expr → List Mention
  | [] => []
  | e :: es => targetMentions bind e ++ targetMentionsAll bind es

end

mutual

/-- The mentions of a statement and of all inside it, apart from blocks. -/
def Stmt.mentions : Stmt → List Mention
  | .output pieces => loads (pieces.flatMap fun p => match p with | .data _ => [] | .expr e => e.names)
  | .assign target value => targetMentions .store target ++ loads value.names
  | .assignBlock target filter _ body =>
    targetMentions .store target ++ loads (namesOption filter) ++ mentionsAll body
  | .loop target iterable test _ _ body otherwise =>
    targetMentions .store target ++ loads iterable.names ++ mentionsAll body ++ mentionsAll otherwise ++
      loads (namesOption test)
  | .condition test body more otherwise =>
    loads test.names ++ mentionsAll body ++ mentionsBranches more ++ mentionsAll otherwise
  | .withNames targets values _ body =>
    targetMentionsAll .param targets ++ loads (namesAll values) ++ mentionsAll body
  | .autoescape value _ body => loads value.names ++ mentionsAll body
  | .block .. => []
  | .inherit e => loads e.names
  | .insert e _ => loads e.names
  | .importAs e _ => loads e.names
  | .importNames e _ => loads e.names
  | .define _ params defaults _ body => params.map .param ++ loads (namesAll defaults) ++ mentionsAll body
  | .callBlock call params defaults _ body =>
    loads call.names ++ params.map .param ++ loads (namesAll defaults) ++ mentionsAll body
  | .filterBlock filter _ body => mentionsAll body ++ loads filter.names

/-- The mentions of statements. -/
def mentionsAll : List Stmt → List Mention
  | [] => []
  | s :: ss => s.mentions ++ mentionsAll ss

/-- The mentions of branches. -/
def mentionsBranches : List (Expr × List Stmt) → List Mention
  | [] => []
  | (test, body) :: more => loads test.names ++ mentionsAll body ++ mentionsBranches more

end

/-- The name is looked up before anything binds it. -/
def isFree (name : Text) : List Mention → Bool
  | [] => false
  | .load n :: rest => Text.same n name || isFree name rest
  | .store n :: rest => !Text.same n name && isFree name rest
  | .param n :: rest => !Text.same n name && isFree name rest

mutual

/-- The blocks of a statement, outer ones first: name, choice of scope, and body. -/
def Stmt.blocks : Stmt → List (Text × Bool × List Stmt)
  | .block name isScoped body => (name, isScoped, body) :: blocksAll body
  | .assignBlock _ _ _ body => blocksAll body
  | .loop _ _ _ _ _ body otherwise => blocksAll body ++ blocksAll otherwise
  | .condition _ body more otherwise => blocksAll body ++ blocksBranches more ++ blocksAll otherwise
  | .withNames _ _ _ body => blocksAll body
  | .autoescape _ _ body => blocksAll body
  | .define _ _ _ _ body => blocksAll body
  | .callBlock _ _ _ _ body => blocksAll body
  | .filterBlock _ _ body => blocksAll body
  | _ => []

/-- The blocks of statements. -/
def blocksAll : List Stmt → List (Text × Bool × List Stmt)
  | [] => []
  | s :: ss => s.blocks ++ blocksAll ss

/-- The blocks of branches. -/
def blocksBranches : List (Expr × List Stmt) → List (Text × Bool × List Stmt)
  | [] => []
  | (_, body) :: more => blocksAll body ++ blocksBranches more

end

/-- Something inside the statements, blocks included, assigns to the name. -/
def isStored (name : Text) (body : List Stmt) : Bool :=
  let all := mentionsAll body ++ (blocksAll body).flatMap fun b => mentionsAll b.2.2
  all.any fun m => match m with | .store n => Text.same n name | _ => false

end Rulebook.Template
