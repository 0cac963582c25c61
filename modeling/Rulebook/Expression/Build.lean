import Rulebook.Expression.Grammar

/-!
# What alternatives build

Most alternatives build a tree of a certain form. Those of faulty phrases build a complaint, or nothing where the
text is not at fault in their way.
-/

namespace Rulebook.Expression

mutual

/-- The trees in rows within a tree, without tokens and what is left out. -/
def Node.spread : Node → List Node
  | .mk form line parts =>
    match form with
    | .row => spreadAll parts
    | .absent => []
    | .token _ => []
    | _ => [.mk form line parts]

/-- The trees in rows within several trees. -/
def spreadAll : List Node → List Node
  | [] => []
  | n :: rest => n.spread ++ spreadAll rest

end

/-- The part at an index. -/
def partAt (parts : List Node) (i : Nat) : Node := parts.getD i Node.absent

/-- A single part as it is, several in a row. -/
def pass (place : Place) (parts : List Node) : Built :=
  match parts with
  | [n] => .node n
  | _ => .node (.mk .row place.line parts)

/-- One of the parts. -/
def pick (i : Nat) (_ : Place) (parts : List Node) : Built := .node (partAt parts i)

/-- A tree of a form with the parts that are trees. -/
def collect (form : Form) (place : Place) (parts : List Node) : Built := .node (.mk form place.line (spreadAll parts))

/-- A tree of a form whose parts do not matter. -/
def leaf (form : Form) (place : Place) (_ : List Node) : Built := .node (.mk form place.line [])

/-- A relation with its right operand. -/
def link (l : Link) (place : Place) (parts : List Node) : Built := .node (.mk (.link l) place.line (spreadAll parts))

/-- A chain of comparisons from a left operand and links. -/
def chain (place : Place) (parts : List Node) : Built :=
  match spreadAll parts with
  | [] => .nothing
  | first :: more =>
    let links := more.filterMap fun n => match n.form with | .link l => some l | _ => none
    .node (.mk (.chain links) place.line (first :: more.flatMap Node.parts))

/-- The arguments of a call in a row. -/
def argumentRowOf (place : Place) (parts : List Node) : Built := .node (.mk .row place.line (spreadAll parts))

/-- Whether a constant is an imaginary number. -/
def isImaginary (n : Node) : Bool :=
  match n.form with
  | .constant (.complex _ _) => true
  | _ => false

/-- A number that is not imaginary. -/
def real (_ : Place) (parts : List Node) : Built :=
  let n := partAt parts 0
  if isImaginary n then .refused (complainAt n.line "real number required in complex literal") else .node n

/-- An imaginary number. -/
def imaginary (_ : Place) (parts : List Node) : Built :=
  let n := partAt parts 0
  if isImaginary n then .node n else .refused (complainAt n.line "imaginary number required in complex literal")

/-- A complaint at the place where the reader looked last. -/
def refuse (message : String) (_ : Place) (_ : List Node) : Built := .refused (complain message)

/-- A complaint at a part. -/
def refuseAt (i : Nat) (message : String) (_ : Place) (parts : List Node) : Built :=
  .refused (complainAt (partAt parts i).line message)

/-- A complaint at a part that says what the part is. -/
def refuseNoun (i : Nat) (before behind : String) (_ : Place) (parts : List Node) : Built :=
  let n := partAt parts i
  .refused (complainAt n.line ((before : Text) ++ n.form.noun ++ behind))

/-- A complaint at the first part, a word, with its spelling. -/
def refuseWord (before : String) (_ : Place) (parts : List Node) : Built :=
  let n := partAt parts 0
  .refused (complainAt n.line ((before : Text) ++ n.spelling))

/-- A complaint about the first part of a target that cannot be one; nothing if all can. -/
def refuseTarget (i : Nat) (target : TargetPlace) (_ : Place) (parts : List Node) : Built :=
  match badTarget target (partAt parts i) with
  | some n =>
    let verb : Text := if target = .deleted then "cannot delete " else "cannot assign to "
    .refused (complainAt n.line (verb ++ n.form.noun))
  | none => .nothing

/-- A complaint about the layout. -/
def refuseIndent (message : String) (_ : Place) (_ : List Node) : Built := .refused ⟨.indentation, message, .latest⟩

/-- A complaint about the layout behind a statement whose part at the index tells its line. -/
def refuseBlock (i : Nat) (what : String) (_ : Place) (parts : List Node) : Built :=
  .refused ⟨.indentation, "expected an indented block after " ++ (what : Text) ++ " on line " ++
    Text.ofNat (partAt parts i).line, .latest⟩

/-- An argument without a name. -/
def isPositional (n : Node) : Bool :=
  match n.form with
  | .keyword => false
  | .unpacked => false
  | _ => true

/-- A mapping of arguments. -/
def isUnpacked (n : Node) : Bool :=
  match n.form with
  | .unpacked => true
  | _ => false

/-- A complaint about a generator behind other arguments. -/
def looseGenerator (_ : Place) (parts : List Node) : Built :=
  let positional := (partAt parts 0).parts.filter isPositional
  match positional with
  | _ :: _ :: _ =>
    .refused (complainAt ((positional.getLast?.map Node.line).getD 0) "Generator expression must be parenthesized")
  | _ => .nothing

/-- A complaint about arguments without names behind arguments with names. -/
def misplacedArgument (_ : Place) (parts : List Node) : Built :=
  if (partAt parts 0).parts.any isUnpacked then
    .refused (complain "positional argument follows keyword argument unpacking")
  else .refused (complain "positional argument follows keyword argument")

/-- A name that was once a statement. -/
def bracketlessName? (n : Node) : Option Text :=
  match n.form with
  | .name id => if id = ("print" : Text) ∨ id = ("exec" : Text) then some id else none
  | _ => none

/-- A complaint about two expressions side by side in brackets. -/
def forgottenComma (place : Place) (parts : List Node) : Built :=
  let first := partAt parts 0
  if (bracketlessName? first).isSome ∨ place.depth = 0 then .nothing
  else .refused (complainAt first.line "invalid syntax. Perhaps you forgot a comma?")

/-- A complaint about a call without brackets. -/
def missingBrackets (_ : Place) (parts : List Node) : Built :=
  let first := partAt parts 0
  match bracketlessName? first with
  | some id =>
    .refused (complainAt first.line
      ("Missing parentheses in call to '" ++ id ++ "'. Did you mean " ++ id ++ "(...)?"))
  | none => .nothing

end Rulebook.Expression
