import Rulebook.Value.Basic

/-!
# Syntax of templates

Expressions inside placeholders and statements, and the statements themselves.
-/

namespace Rulebook.Template

/-- Arithmetic between two operands. -/
inductive Arith where
  | add | sub | mul | div | floorDiv | mod | pow
  deriving Repr, DecidableEq, Inhabited

/-- A relation in a chain of comparisons. -/
inductive Relation where
  | eq | ne | lt | le | gt | ge | isIn | notIn
  deriving Repr, DecidableEq, Inhabited

/-- An operation on one operand. -/
inductive Unary where
  | not | neg | pos
  deriving Repr, DecidableEq, Inhabited

/-- What is asked of a value by its name: a filter makes another value of it, a test tells a truth value. -/
inductive Asked where
  | filter
  | test
  deriving Repr, DecidableEq, Inhabited

/-- An expression. -/
inductive Expr where
  | const (v : Value)
  | name (n : Text)
  | tuple (items : List Expr)
  | list (items : List Expr)
  | mapping (pairs : List (Expr × Expr))
  | unary (op : Unary) (e : Expr)
  | arith (op : Arith) (a b : Expr)
  | both (a b : Expr)
  | either (a b : Expr)
  | chain (first : Expr) (rest : List (Relation × Expr))
  | concat (items : List Expr)
  /-- A choice by a condition; the line is where it starts. -/
  | choice (line : Nat) (condition value : Expr) (otherwise : Option Expr)
  | property (e : Expr) (name : Text)
  | item (e : Expr) (index : Expr)
  | slice (start stop step : Option Expr)
  | call (f : Expr) (args : List Expr) (named : List (Text × Expr)) (rest namedRest : Option Expr)
  /-- A filter or test; a filter of a block has no target of its own. -/
  | ask (asked : Asked) (target : Option Expr) (name : Text) (args : List Expr) (named : List (Text × Expr))
      (rest namedRest : Option Expr)
  /-- A property of a namespace, as the target of an assignment. -/
  | namespaceRef (name property : Text)
  deriving Inhabited

/-- A part of an output: data as it stands, or an expression. -/
inductive Piece where
  | data (t : Text)
  | expr (e : Expr)
  deriving Inhabited

/-- A name that an import takes over, and the name it gets. -/
structure Imported where
  name : Text
  shownAs : Text
  deriving Repr, DecidableEq, Inhabited

/-- The names that the frames of a loop take from outside. -/
structure LoopOutside where
  test : List Text
  body : List Text
  otherwise : List Text
  deriving Repr, DecidableEq, Inhabited

/-- The names that the frame of something with parameters takes from outside, and the special names that its body
uses. -/
structure CallFrame where
  outside : List Text
  special : List Text
  deriving Repr, DecidableEq, Inhabited

/-- A statement. One whose body is a frame of its own lists the names that the frame takes from outside; the lists are
empty until the names are resolved. -/
inductive Stmt where
  | output (pieces : List Piece)
  | assign (target value : Expr)
  | assignBlock (target : Expr) (filter : Option Expr) (outside : List Text) (body : List Stmt)
  | loop (target iterable : Expr) (test : Option Expr) (recursive : Bool) (outside : LoopOutside)
      (body otherwise : List Stmt)
  | condition (test : Expr) (body : List Stmt) (more : List (Expr × List Stmt)) (otherwise : List Stmt)
  | withNames (targets values : List Expr) (outside : List Text) (body : List Stmt)
  | autoescape (value : Expr) (outside : List Text) (body : List Stmt)
  | block (name : Text) (isScoped : Bool) (body : List Stmt)
  | inherit (template : Expr)
  /-- The text of another template; one that is not found may be passed over. -/
  | insert (template : Expr) (passing : Bool)
  | importAs (template : Expr) (target : Text)
  | importNames (template : Expr) (names : List Imported)
  | define (name : Text) (params : List Text) (defaults : List Expr) (frame : CallFrame) (body : List Stmt)
  | callBlock (call : Expr) (params : List Text) (defaults : List Expr) (frame : CallFrame) (body : List Stmt)
  | filterBlock (filter : Expr) (outside : List Text) (body : List Stmt)
  deriving Inhabited

end Rulebook.Template
