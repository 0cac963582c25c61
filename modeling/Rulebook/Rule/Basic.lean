import Rulebook.Rule.Operator

/-!
# Rules

A rule is a chain of conditions joined by "and". A condition compares a field, which may be negated, with a
comparand, which stands alone or under an operator.
-/

namespace Rulebook

/-- The left side of a condition: a token, and whether the comparison counts reversed. -/
structure FieldRef where
  token : Text
  negated : Bool
  deriving Repr, DecidableEq, Inhabited

/-- The right side of a condition: a bare comparand, compared for equality, or one under an operator. -/
inductive Comparison where
  | bare (value : Text)
  | under (operator : Operator) (value : Text)
  deriving Repr, DecidableEq, Inhabited

/-- One comparison of a rule. -/
structure Condition where
  field : FieldRef
  comparison : Comparison
  deriving Repr, DecidableEq, Inhabited

/-- A chain of conditions, all of which must hold. -/
structure Rule where
  conditions : List Condition
  deriving Repr, DecidableEq, Inhabited

/-- The mark before a field that reverses the comparison. -/
def negationMark : CodePoint := 0x21

/-- The mark before a token that refers to variables. -/
def variableMark : CodePoint := 0x24

/-- A field token with its leading negation mark split off; one mark at most. -/
def FieldRef.parse : Text → FieldRef
  | [] => ⟨[], false⟩
  | c :: rest => if c = negationMark then ⟨rest, true⟩ else ⟨c :: rest, false⟩

namespace Comparison

/-- The operator, equality for a bare comparand. -/
def operator : Comparison → Operator
  | bare _ => .eq
  | under op _ => op

/-- The comparand. -/
def value : Comparison → Text
  | bare v => v
  | under _ v => v

/-- The name of the form. -/
def kind : Comparison → String
  | bare _ => "literal"
  | under .. => "operator"

end Comparison

/-- The two tokens of a condition. -/
def Condition.tokens (c : Condition) : List Text := [c.field.token, c.comparison.value]

/-- The tokens of a rule in order. -/
def Rule.tokens (r : Rule) : List Text := r.conditions.flatMap Condition.tokens

/-- The token refers to variables. -/
def isReference : Text → Bool
  | c :: _ => c == variableMark
  | [] => false

end Rulebook
