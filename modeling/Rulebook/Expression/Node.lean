import Rulebook.Expression.Direct
import Rulebook.Expression.Token

/-!
# Syntax trees of expressions

A tree names the form of each part of a text. Evaluation follows constants, signs before a value and chains of
comparisons; of every other form it needs only the name.
-/

namespace Rulebook.Expression

/-- A sign before a value. -/
inductive Sign where
  | minus
  | plus
  | invert
  | not
  deriving Repr, DecidableEq, Inhabited

/-- The name of a sign. -/
def Sign.label : Sign → String
  | minus => "USub"
  | plus => "UAdd"
  | invert => "Invert"
  | not => "Not"

/-- The relations of a comparison; some of them are never evaluated. -/
inductive Link where
  | evaluated (r : Relation)
  | lessOrEqual
  | greaterOrEqual
  | identical
  | notIdentical
  | member
  | notMember
  deriving Repr, DecidableEq, Inhabited

/-- The name of a relation. -/
def Link.label : Link → String
  | evaluated .equal => "Eq"
  | evaluated .notEqual => "NotEq"
  | evaluated .less => "Lt"
  | evaluated .greater => "Gt"
  | lessOrEqual => "LtE"
  | greaterOrEqual => "GtE"
  | identical => "Is"
  | notIdentical => "IsNot"
  | member => "In"
  | notMember => "NotIn"

/-- The forms of parts of a text. -/
inductive Form where
  | constant (v : Value)
  | signed (s : Sign)
  /-- A chain of comparisons; the operands are the parts. -/
  | chain (links : List Link)
  | name (id : Text)
  | property
  | subscript
  | starred
  | list
  | tuple
  | boolean
  | arithmetic
  | conditional
  | lambda
  | call
  | named
  | set
  | dict
  | listOf
  | setOf
  | dictOf
  | generator
  | await
  | yield
  | yieldFrom
  | joined
  /-- An argument with a name. -/
  | keyword
  /-- A mapping of arguments. -/
  | unpacked
  | link (l : Link)
  | statement (label : String)
  | token (spelling : String)
  /-- Parts in a row. -/
  | row
  /-- A part that is left out. -/
  | absent
  deriving Inhabited

/-- The name of a form. -/
def Form.label : Form → String
  | constant _ => "Constant"
  | signed _ => "UnaryOp"
  | chain _ => "Compare"
  | name _ => "Name"
  | property => "Attribute"
  | subscript => "Subscript"
  | starred => "Starred"
  | list => "List"
  | tuple => "Tuple"
  | boolean => "BoolOp"
  | arithmetic => "BinOp"
  | conditional => "IfExp"
  | lambda => "Lambda"
  | call => "Call"
  | named => "NamedExpr"
  | set => "Set"
  | dict => "Dict"
  | listOf => "ListComp"
  | setOf => "SetComp"
  | dictOf => "DictComp"
  | generator => "GeneratorExp"
  | await => "Await"
  | yield => "Yield"
  | yieldFrom => "YieldFrom"
  | joined => "JoinedStr"
  | statement s => s
  | _ => "Module"

/-- What a constant is called. -/
def constantNoun : Value → String
  | .null => "None"
  | .bool true => "True"
  | .bool false => "False"
  | .ellipsis => "ellipsis"
  | _ => "literal"

/-- What a form is called in offences. -/
def Form.noun : Form → String
  | constant v => constantNoun v
  | signed _ => "expression"
  | chain _ => "comparison"
  | name _ => "name"
  | property => "attribute"
  | subscript => "subscript"
  | starred => "starred"
  | list => "list"
  | tuple => "tuple"
  | boolean => "expression"
  | arithmetic => "expression"
  | conditional => "conditional expression"
  | lambda => "lambda"
  | call => "function call"
  | named => "named expression"
  | set => "set display"
  | dict => "dict literal"
  | listOf => "list comprehension"
  | setOf => "set comprehension"
  | dictOf => "dict comprehension"
  | generator => "generator expression"
  | await => "await expression"
  | yield => "yield expression"
  | yieldFrom => "yield expression"
  | joined => "f-string expression"
  | _ => "expression"

/-- A syntax tree: a form, the line where it starts, and its parts. -/
inductive Node where
  | mk (form : Form) (line : Nat) (parts : List Node)
  deriving Inhabited

namespace Node

/-- The form of a tree. -/
def form : Node → Form
  | mk f _ _ => f

/-- The line where a tree starts. -/
def line : Node → Nat
  | mk _ l _ => l

/-- The parts of a tree. -/
def parts : Node → List Node
  | mk _ _ ps => ps

/-- Nothing. -/
def absent : Node := mk .absent 0 []

/-- Parts in a row. -/
def row (parts : List Node) : Node := mk .row ((parts.head?.map line).getD 0) parts

/-- The spelling of a token. -/
def spelling (n : Node) : String := match n.form with | .token s => s | _ => ""

end Node

/-- The places where a target can stand. -/
inductive TargetPlace where
  | assigned
  | deleted
  | looped
  deriving Repr, DecidableEq, Inhabited

mutual

/-- The first part of a tree that cannot be a target. -/
def badTarget (place : TargetPlace) : Node → Option Node
  | .mk form line parts =>
    match form with
    | .list => firstBadTarget place parts
    | .tuple => firstBadTarget place parts
    | .starred => if place == .deleted then some (.mk form line parts) else firstBadTarget place parts
    | .chain links =>
      if place == .looped then
        match links, parts with
        | .member :: _, first :: _ => badTarget place first
        | _, _ => none
      else some (.mk form line parts)
    | .name _ => none
    | .subscript => none
    | .property => none
    | _ => some (.mk form line parts)

/-- The first part of several trees that cannot be a target. -/
def firstBadTarget (place : TargetPlace) : List Node → Option Node
  | [] => none
  | n :: rest => (badTarget place n).or (firstBadTarget place rest)

end

end Rulebook.Expression
