import Rulebook.Proofs.Comparison.Caught
import Rulebook.Proofs.Log.Traced

/-!
# Failures of comparisons

A relational comparison fails for an operand or for its expression, a search for its pattern. None of these is an error
of the shape of a rule, of an operator or of a reference.
-/

namespace Rulebook
open Traced

/-- The error is about the comparison of two texts. -/
def LogicError.AboutComparison (e : LogicError) : Prop := e.errorClass = .security ∨ e.errorClass = .evaluation

/-- An error about a comparison is neither about the shape of a rule nor about an operator or a reference. -/
theorem LogicError.AboutComparison.errorClass_ne {e : LogicError} (h : e.AboutComparison) {c : ErrorClass}
    (hc : c ∈ [ErrorClass.config, .unknownOperator, .template]) : e.errorClass ≠ c := by
  rintro rfl
  rcases h with h | h <;> simp [h] at hc

/-- The failure is an error about the comparison of two texts. -/
def Failure.IsComparisonError (e : Failure) : Prop := ∃ l : LogicError, e = .logic l ∧ l.AboutComparison

theorem isComparisonError_of_evaluation {l : LogicError} (h : l.errorClass = .evaluation) :
    Failure.IsComparisonError (.logic l) :=
  ⟨l, rfl, .inr h⟩

theorem isComparisonError_of_security {l : LogicError} (h : l.errorClass = .security) :
    Failure.IsComparisonError (.logic l) :=
  ⟨l, rfl, .inl h⟩

theorem failsOnly_renderOperand (t : Text) (op : Operator) :
    (renderOperand t op).FailsOnly Failure.IsComparisonError := by
  unfold renderOperand
  split
  · exact failsOnly_pure _
  · split
    · exact failsOnly_pure _
    · split
      · exact failsOnly_pure _
      · exact failsOnly_reported (isComparisonError_of_evaluation rfl)

theorem failsOnly_evaluatePolicy (expression : Text) :
    (evaluatePolicy expression).FailsOnly Failure.IsComparisonError := by
  rw [evaluatePolicy_eq]
  split
  · exact failsOnly_pure _
  · exact failsOnly_reported (isComparisonError_of_evaluation rfl)

/-- A relational comparison ends in no fault: whatever goes wrong becomes an error about the comparison. -/
theorem failsOnly_relate (field value : Text) (op : Operator) :
    (relate field value op).FailsOnly Failure.IsComparisonError :=
  .bind (failsOnly_renderOperand field op) fun _ => .bind (failsOnly_renderOperand value op) fun _ =>
    .bind (failsOnly_report _ _ _ _) fun _ => .bind (failsOnly_evaluatePolicy _) fun _ => failsOnly_pure _

theorem checkPattern_eq_error {pattern : Text} {e : LogicError} (h : checkPattern pattern = .error e) :
    e = .inlineCode pattern := by
  unfold checkPattern at h
  split at h
  · exact (Except.error.inj h).symm
  · cases h

/-- The errors of a search are about its pattern; it can also end in a fault. -/
theorem failsOnly_searchPattern (limit : Int) (field pattern : Text) :
    (searchPattern limit field pattern).FailsOnly fun e => e.IsComparisonError ∨ ∃ f, e = .fault f := by
  unfold searchPattern
  split
  · next e he =>
    obtain rfl := checkPattern_eq_error he
    exact failsOnly_reported (.inl (isComparisonError_of_security rfl))
  · split
    · exact failsOnly_reported (.inl (isComparisonError_of_security rfl))
    · split
      · split
        · exact failsOnly_reported (.inl (isComparisonError_of_evaluation rfl))
        · exact failsOnly_fail (.inr ⟨_, rfl⟩)
      · exact .bind (failsOnly_report _ _ _ _) fun _ => failsOnly_pure _

theorem failsOnly_compareTexts (limit : Int) (field value : Text) (op : Operator) (negate : Bool) :
    (compareTexts limit field value op negate).FailsOnly fun e => e.IsComparisonError ∨ ∃ f, e = .fault f := by
  have hend : ∀ b, FailsOnly (fun e => e.IsComparisonError ∨ ∃ f, e = .fault f) (pure (if negate then !b else b)) :=
    fun b => failsOnly_pure _
  unfold compareTexts
  cases op.isRegex with
  | true => exact .bind (failsOnly_searchPattern limit field value) hend
  | false => exact .bind (fun e he => .inl (failsOnly_relate field value op e he)) hend

end Rulebook
