import Rulebook.Proofs.Comparison.Caught
import Rulebook.Proofs.Expression.Literal
import Rulebook.Proofs.Log.Traced

/-!
# How relational comparisons end

A relational comparison writes both sides as literals and evaluates them with the symbol of its operator
between them. It ends as the relation of the two denoted values does; what the evaluation refuses is reported
as a comparison that cannot be performed.
-/

namespace Rulebook
open Expression

/-- The relation that a relational operator stands for. -/
def Operator.relation : Operator → Relation
  | eq => .equal
  | ne => .notEqual
  | lt => .less
  | gt => .greater
  | numEq => .equal
  | numLt => .less
  | numGt => .greater
  | search => .equal

theorem Operator.symbol_eq {op : Operator} (h : op.isRegex = false) : op.symbol = op.relation.symbol := by
  cases op <;> first | rfl | cases h

/-- The relation of two values as an evaluation has it: long texts are refused. -/
def relates (a : Value) (rel : Relation) (b : Value) : Except Fault Bool := do
  let a ← constant a
  let b ← constant b
  rel.holds a b

theorem compareLiterals_eq (a : Value) (rel : Relation) (b : Value) :
    compareLiterals a rel b = (relates a rel b).map .bool := by
  unfold compareLiterals relates
  cases constant a with
  | error e => rfl
  | ok a =>
    cases constant b with
    | error e => rfl
    | ok b => cases h : rel.holds a b <;> simp [bind, Except.bind, pure, Except.pure, Except.map, h]

/-- The end of an evaluation as the end of a comparison. -/
def comparisonOutcome (expression : Text) (r : Except Fault Bool) : Except Failure Bool :=
  match r with
  | .ok b => .ok b
  | .error fault => .error (.logic (.comparison expression fault))

theorem result_evaluatePolicy {expression : Text} {r : Except Fault Bool}
    (h : Expression.evaluate expression = r.map .bool) :
    (evaluatePolicy expression).result.map Value.truth = comparisonOutcome expression r := by
  rw [evaluatePolicy_eq]
  rw [h]
  cases r <;> rfl

/-- Two sides that are written as literals compare as their values. -/
theorem result_relate {f v l r : Text} {a b : Value} {op : Operator} (hop : op.isRegex = false)
    (hf : (renderOperand f op).result = .ok l) (hv : (renderOperand v op).result = .ok r)
    (hl : IsLiteral l a) (hr : IsLiteral r b) :
    (relate f v op).result = comparisonOutcome (joined l op.symbol r) (relates a op.relation b) := by
  have he : Expression.evaluate (joined l op.symbol r) = (relates a op.relation b).map .bool := by
    rw [Operator.symbol_eq hop, evaluate_joined hl hr, compareLiterals_eq]
  rw [← result_evaluatePolicy he]
  unfold relate
  rw [Traced.result_bind_ok hf, Traced.result_bind_ok hv]
  simp only [Traced.result_bind, Traced.result_report, Traced.result_pure]
  show ((evaluatePolicy (joined l op.symbol r)).result.bind fun w => .ok w.truth) = _
  cases (evaluatePolicy (joined l op.symbol r)).result <;> rfl

/-- A side that cannot be written as a literal ends the comparison; the left side comes first. -/
theorem result_relate_error {f v : Text} {op : Operator} {e : Failure}
    (h : (renderOperand f op).result = .error e ∨
      (∃ l, (renderOperand f op).result = .ok l) ∧ (renderOperand v op).result = .error e) :
    (relate f v op).result = .error e := by
  unfold relate
  rcases h with h | ⟨⟨l, hl⟩, hv⟩
  · exact Traced.result_bind_error h
  · rw [Traced.result_bind_ok hl]
    exact Traced.result_bind_error hv

/-- A relational comparison ends as its relation does, reversed under a negation. -/
theorem result_compareTexts (limit : Int) (f v : Text) {op : Operator} (hop : op.isRegex = false) (negate : Bool) :
    (compareTexts limit f v op negate).result = (relate f v op).result.map (· ^^ negate) := by
  simp only [compareTexts, hop, Bool.false_eq_true, ↓reduceIte, Traced.result_bind, Traced.result_pure]
  cases (relate f v op).result with
  | error e => rfl
  | ok b => cases negate <;> cases b <;> rfl

end Rulebook
