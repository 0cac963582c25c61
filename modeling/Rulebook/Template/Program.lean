import Rulebook.Template.Prepared

/-!
# Programs of templates

A template becomes a program before it is rendered. What it uses by a word or a form of its own is collected here;
the compiler of the program refuses names that are given twice, and loops too deep inside each other.
-/

namespace Rulebook.Template

/-- Something that a template uses by a word or by a form of its own. -/
inductive Use where
  | ask (asked : Asked) (name : Text)
  | property (name : Text)
  /-- The names of the arguments that a call, filter or test is given by name. -/
  | arguments (names : List Text)
  /-- The names of the parameters of a body. -/
  | parameters (names : List Text)
  /-- A tuple; a slice may stand among its items. -/
  | tuple (sliced : Bool)
  /-- An assignment to a property of a namespace. -/
  | namespaceTarget
  /-- A loop; a condition may choose among its items. -/
  | loop (chosen : Bool)
  | escaping
  /-- A block; it may see the names around it. -/
  | block (isScoped : Bool)
  | inheritance
  deriving Repr, DecidableEq, Inhabited

/-- A slice. -/
def Expr.isSlice : Expr → Bool
  | .slice .. => true
  | _ => false

/-- The names of the arguments by name of a call. -/
def Expr.argumentNames : Expr → List Text
  | .call _ _ named _ _ => named.map (·.1)
  | _ => []

mutual

/-- What an expression uses. -/
def Expr.uses : Expr → List Use
  | .const _ => []
  | .name _ => []
  | .tuple items => .tuple (items.any Expr.isSlice) :: usesAll items
  | .list items => usesAll items
  | .mapping pairs => usesPairs pairs
  | .unary _ e => e.uses
  | .arith _ a b => a.uses ++ b.uses
  | .both a b => a.uses ++ b.uses
  | .either a b => a.uses ++ b.uses
  | .chain first rest => first.uses ++ usesRelated rest
  | .concat items => usesAll items
  | .choice _ condition value otherwise => condition.uses ++ value.uses ++ usesOption otherwise
  | .property e name => .property name :: e.uses
  | .item e i => e.uses ++ i.uses
  | .slice a b c => usesOption a ++ usesOption b ++ usesOption c
  | .call f args named rest namedRest =>
    .arguments (named.map (·.1)) ::
      (f.uses ++ usesAll args ++ usesNamed named ++ usesOption rest ++ usesOption namedRest)
  | .ask asked target name args named rest namedRest =>
    .ask asked name :: .arguments (named.map (·.1)) ::
      (usesOption target ++ usesAll args ++ usesNamed named ++ usesOption rest ++ usesOption namedRest)
  | .namespaceRef _ name => [.namespaceTarget, .property name]

/-- What expressions use. -/
def usesAll : List Expr → List Use
  | [] => []
  | e :: es => e.uses ++ usesAll es

/-- What pairs of expressions use. -/
def usesPairs : List (Expr × Expr) → List Use
  | [] => []
  | (a, b) :: es => a.uses ++ b.uses ++ usesPairs es

/-- What the operands of relations use. -/
def usesRelated : List (Relation × Expr) → List Use
  | [] => []
  | (_, e) :: es => e.uses ++ usesRelated es

/-- What arguments by name use. -/
def usesNamed : List (Text × Expr) → List Use
  | [] => []
  | (_, e) :: es => e.uses ++ usesNamed es

/-- What an expression uses, if there is one. -/
def usesOption : Option Expr → List Use
  | none => []
  | some e => e.uses

end

/-- What a piece of output uses. -/
def Piece.uses : Piece → List Use
  | .data _ => []
  | .expr e => e.uses

mutual

/-- What a statement uses, with what is inside it. A call of a body is given the body by name besides. -/
def Stmt.uses : Stmt → List Use
  | .output pieces => pieces.flatMap Piece.uses
  | .assign target value => target.uses ++ value.uses
  | .assignBlock target filter _ body => target.uses ++ (usesOption filter ++ usesBody body)
  | .loop _ iterable test _ _ body otherwise =>
    .loop test.isSome :: (iterable.uses ++ usesOption test ++ usesBody body ++ usesBody otherwise)
  | .condition test body more otherwise =>
    test.uses ++ usesBody body ++ usesBranches more ++ usesBody otherwise
  | .withNames _ values _ body => usesAll values ++ usesBody body
  | .autoescape value _ body => .escaping :: (value.uses ++ usesBody body)
  | .block _ isScoped body => .block isScoped :: usesBody body
  | .inherit e => .inheritance :: e.uses
  | .insert e _ => e.uses
  | .importAs e _ => e.uses
  | .importNames e _ => e.uses
  | .define _ params defaults _ body => .parameters params :: (usesAll defaults ++ usesBody body)
  | .callBlock call params defaults _ body =>
    .arguments (call.argumentNames ++ [("caller" : Text)]) :: .parameters params ::
      (call.uses ++ usesAll defaults ++ usesBody body)
  | .filterBlock filter _ body => filter.uses ++ usesBody body

/-- What statements use. -/
def usesBody : List Stmt → List Use
  | [] => []
  | s :: ss => s.uses ++ usesBody ss

/-- What branches use. -/
def usesBranches : List (Expr × List Stmt) → List Use
  | [] => []
  | (test, body) :: more => test.uses ++ usesBody body ++ usesBranches more

end

/-! ### Resolved names and blocks -/

mutual

/-- Resolving names changes no expression. -/
theorem Stmt.uses_resolve (outer : List Text) (s : Stmt) : (s.resolve outer).uses = s.uses := by
  cases s with
  | assignBlock | loop | withNames | autoescape | define | callBlock | filterBlock =>
    simp only [Stmt.resolve, Stmt.uses, usesBody_resolveAll]
  | condition => simp only [Stmt.resolve, Stmt.uses, usesBody_resolveAll, usesBranches_resolveBranches]
  | _ => rfl

theorem usesBody_resolveAll (outer : List Text) (ss : List Stmt) : usesBody (resolveAll outer ss) = usesBody ss := by
  cases ss with
  | nil => rfl
  | cons s ss => simp only [resolveAll, usesBody, Stmt.uses_resolve, usesBody_resolveAll]

theorem usesBranches_resolveBranches (outer : List Text) (more : List (Expr × List Stmt)) :
    usesBranches (resolveBranches outer more) = usesBranches more := by
  cases more with
  | nil => rfl
  | cons branch more =>
    simp only [resolveBranches, usesBranches, usesBody_resolveAll, usesBranches_resolveBranches]

end

mutual

/-- The blocks of a statement use nothing that it does not use. -/
theorem Stmt.uses_blocks_subset {s : Stmt} : ∀ b ∈ s.blocks, usesBody b.2.2 ⊆ s.uses := by
  cases s with
  | block name isScoped body =>
    exact List.forall_mem_cons.2 ⟨List.subset_cons_self _ _, fun b hb =>
      List.subset_cons_of_subset _ (uses_blocksAll_subset b hb)⟩
  | loop target iterable test recursive outside body otherwise =>
    simp only [Stmt.blocks, List.forall_mem_append, Stmt.uses]
    exact ⟨fun b hb w hw => by simp [uses_blocksAll_subset b hb hw],
      fun b hb w hw => by simp [uses_blocksAll_subset b hb hw]⟩
  | condition test body more otherwise =>
    simp only [Stmt.blocks, List.forall_mem_append, Stmt.uses]
    exact ⟨⟨fun b hb w hw => by simp [uses_blocksAll_subset b hb hw],
      fun b hb w hw => by simp [uses_blocksBranches_subset b hb hw]⟩,
      fun b hb w hw => by simp [uses_blocksAll_subset b hb hw]⟩
  | assignBlock | withNames | autoescape | define | callBlock | filterBlock =>
    exact fun b hb w hw => by simp [Stmt.uses, uses_blocksAll_subset b hb hw]
  | _ => nofun

theorem uses_blocksAll_subset {ss : List Stmt} : ∀ b ∈ blocksAll ss, usesBody b.2.2 ⊆ usesBody ss := by
  cases ss with
  | nil => nofun
  | cons s ss =>
    simp only [blocksAll, List.forall_mem_append, usesBody]
    exact ⟨fun b hb => List.subset_append_of_subset_left _ (Stmt.uses_blocks_subset b hb),
      fun b hb => List.subset_append_of_subset_right _ (uses_blocksAll_subset b hb)⟩

theorem uses_blocksBranches_subset {more : List (Expr × List Stmt)} :
    ∀ b ∈ blocksBranches more, usesBody b.2.2 ⊆ usesBranches more := by
  cases more with
  | nil => nofun
  | cons branch more =>
    simp only [blocksBranches, List.forall_mem_append, usesBranches]
    exact ⟨fun b hb w hw => by simp [uses_blocksAll_subset b hb hw],
      fun b hb => List.subset_append_of_subset_right _ (uses_blocksBranches_subset b hb)⟩

end

/-- A body with its names resolved uses what its statements use. -/
theorem usesBody_resolveBody (special : List Text) (statements : List Stmt) :
    usesBody (resolveBody special statements).statements = usesBody statements :=
  usesBody_resolveAll _ _

/-- The body of a block uses nothing that the template does not use. -/
theorem usesBody_subset_of_mem_blockBodies {statements : List Stmt} {b : Text × Body}
    (hb : b ∈ blockBodies statements) : usesBody b.2.statements ⊆ usesBody statements := by
  obtain ⟨block, hblock, rfl⟩ := List.mem_map.1 hb
  rw [usesBody_resolveBody]
  exact uses_blocksAll_subset block hblock

/-! ### Compiling -/

/-- A program that is refused. -/
def programFault (message : Text) : Fault := ⟨.expressionSyntax, message⟩

/-- The first name that stands there a second time. -/
def repeated? (seen : List Text) : List Text → Option Text
  | [] => none
  | n :: rest => if seen.any (Text.same n) then some n else repeated? (n :: seen) rest

/-- What the compiler refuses about a use. Arguments by name are given as one mapping if one of the names is
reserved, where a name may stand twice. -/
def Use.offence? : Use → Option Fault
  | .arguments names =>
    if names.any isReserved then none
    else if names.any (Text.same "__debug__") then some (programFault "cannot assign to __debug__")
    else (repeated? [] names).map fun n => programFault ("keyword argument repeated: " ++ n)
  | .parameters names =>
    (repeated? [] names).map fun n => programFault ("duplicate argument " ++ Text.display n ++ " in function definition")
  | _ => none

mutual

/-- The greatest number of loops of one body around each other, for a statement with `around` loops around it. Macros,
called bodies and recursive loops are bodies of their own. -/
def Stmt.nesting (around : Nat) : Stmt → Nat
  | .loop _ _ _ recursive _ body otherwise =>
    let around := if recursive then 0 else around
    max (nestingAll (around + 1) body) (nestingAll around otherwise)
  | .condition _ body more otherwise =>
    max (nestingAll around body) (max (nestingBranches around more) (nestingAll around otherwise))
  | .assignBlock _ _ _ body => nestingAll around body
  | .withNames _ _ _ body => nestingAll around body
  | .autoescape _ _ body => nestingAll around body
  | .filterBlock _ _ body => nestingAll around body
  | .define _ _ _ _ body => nestingAll 0 body
  | .callBlock _ _ _ _ body => nestingAll 0 body
  | .insert .. => around + 2
  | _ => around

/-- The greatest number of loops around each other in statements. -/
def nestingAll (around : Nat) : List Stmt → Nat
  | [] => around
  | s :: ss => max (s.nesting around) (nestingAll around ss)

/-- The greatest number of loops around each other in branches. -/
def nestingBranches (around : Nat) : List (Expr × List Stmt) → Nat
  | [] => around
  | (_, body) :: more => max (nestingAll around body) (nestingBranches around more)

end

/-- The number of loops that may stand around each other. -/
def maxNesting : Nat := 20

/-- Refuses a body that does not compile. -/
def Body.compile (b : Body) : Except Fault Unit :=
  match (usesBody b.statements).findSome? Use.offence? with
  | some f => .error f
  | none =>
    if maxNesting < nestingAll 0 b.statements then .error (programFault "too many statically nested blocks") else .ok ()

/-- Refuses a template of which a body does not compile. -/
def Prepared.compile (p : Prepared) : Except Fault Unit := (p.body :: p.blocks.map (·.2)).forM Body.compile

/-- The template ready for rendering and compiled, or the first offence that needs no variables. -/
def compile (strict : Bool) (statements : List Stmt) : Except Fault Prepared := do
  let template ← prepare strict statements
  template.compile
  return template

end Rulebook.Template
