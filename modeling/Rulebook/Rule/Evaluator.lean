import Rulebook.Comparison.Comparator
import Rulebook.Template.Interpolation

/-!
# Evaluating rules

A rule holds if all its conditions hold; the first that does not hold, or fails, decides. Both tokens of a
condition are interpolated before they are compared.
-/

namespace Rulebook

/-- Whether a condition holds for variables. -/
def Condition.holds (config : LogicConfig) (bindings : Value) (c : Condition) : Traced Bool := do
  let field ← interpolate config.undefinedVariables c.field.token bindings
  let value ← interpolate config.undefinedVariables c.comparison.value bindings
  compareTexts config.maxPatternLength field value c.comparison.operator c.field.negated

/-- Whether conditions, counted from `index`, all hold. -/
def allHold (config : LogicConfig) (bindings : Value) : Nat → List Condition → Traced Bool
  | _, [] => pure true
  | index, c :: rest => do
    if ← c.holds config bindings then allHold config bindings (index + 1) rest
    else
      Traced.report .evaluator .debug "rule_condition_failed"
        [("index", .int index), ("operator", .text c.comparison.operator.spelling),
          ("negated", .bool c.field.negated)]
      return false

/-- The variables to evaluate with: a value that counts as false stands for none. -/
def variablesOrNone (bindings : Value) : Value := if bindings.truth then bindings else .mapping []

/-- Reports an error of a rule before it ends the evaluation. -/
def reportingErrors (x : Traced Bool) : Traced Bool :=
  match x.result with
  | .error (.logic e) =>
    ⟨x.events ++ [⟨.evaluator, .error, "rule_evaluation_error",
      [("error_type", .text e.errorClass.label), ("error", .text e.message)]⟩], .error (.logic e)⟩
  | _ => x

/-- Whether a rule, given as data, holds for variables. -/
def evaluateRule (config : LogicConfig) (rule bindings : Value) : Traced Bool :=
  reportingErrors do
    let parsed ← Traced.lift (Rule.ofData rule)
    allHold config (variablesOrNone bindings) 0 parsed.conditions

/-- The error of a rule given as data, if it has one; its references are only read. -/
def validateRule (rule : Value) : Traced (Option Text) :=
  let names : Except Failure (List Text) := do (← Rule.ofData rule).variablesUsed
  match names with
  | .ok names => do
    Traced.report .evaluator .debug "rule_validated" [("variables", .list (names.map .text))]
    return none
  | .error (.logic e) => pure (some ((e.errorClass.label : Text) ++ ": " ++ e.message))
  | .error (.fault f) => Traced.fail (.fault f)

end Rulebook
