import Rulebook.Proofs.Log.Traced
import Rulebook.Proofs.Outcome
import Rulebook.Rule.Evaluator

/-!
# How evaluations end

The conditions of a rule are looked at in order, up to the first that does not hold or fails. What is reported
on the way does not change the end.
-/

namespace Rulebook

@[simp] theorem result_reportingErrors (x : Traced Bool) : (reportingErrors x).result = x.result := by
  unfold reportingErrors
  split
  · next h => exact h.symm
  · rfl

section conditions
variable (config : LogicConfig) (bindings : Value)

@[simp] theorem result_allHold_nil (index : Nat) : (allHold config bindings index []).result = .ok true := rfl

theorem result_allHold_cons (index : Nat) (c : Condition) (rest : List Condition) :
    (allHold config bindings index (c :: rest)).result =
      (c.holds config bindings).result.bind fun b =>
        if b then (allHold config bindings (index + 1) rest).result else .ok false := by
  rw [allHold, Traced.result_bind]
  congr 1
  funext b
  cases b <;> simp [Except.bind]

/-- A rule with a single condition holds if that condition does. -/
theorem result_allHold_singleton (index : Nat) (c : Condition) :
    (allHold config bindings index [c]).result = (c.holds config bindings).result := by
  rw [result_allHold_cons]
  cases (c.holds config bindings).result with
  | error e => rfl
  | ok b => cases b <;> rfl

/-- Conditions end in anything but true exactly if one of them ends so and all before it hold. -/
theorem result_allHold_eq_iff {o : Except Failure Bool} (ho : o ≠ .ok true) {index : Nat}
    {conditions : List Condition} :
    (allHold config bindings index conditions).result = o ↔
      ∃ before c after, conditions = before ++ c :: after ∧
        (∀ b ∈ before, (b.holds config bindings).result = .ok true) ∧ (c.holds config bindings).result = o := by
  induction conditions generalizing index with
  | nil => simpa using ho.symm
  | cons d rest ih =>
    rw [result_allHold_cons, exists_first_cons_iff, ← @ih (index + 1)]
    cases (d.holds config bindings).result with
    | error e => simp [Except.bind]
    | ok b => cases b <;> simp [Except.bind, ho.symm]

/-- Conditions end in a failure exactly if one of them does and all before it hold. -/
theorem result_allHold_eq_error_iff {index : Nat} {conditions : List Condition} {e : Failure} :
    (allHold config bindings index conditions).result = .error e ↔
      ∃ before c after, conditions = before ++ c :: after ∧
        (∀ b ∈ before, (b.holds config bindings).result = .ok true) ∧ (c.holds config bindings).result = .error e :=
  result_allHold_eq_iff config bindings (by simp)

/-- The place from which conditions are counted does not change how they end. -/
theorem result_allHold_index (i j : Nat) (conditions : List Condition) :
    (allHold config bindings i conditions).result = (allHold config bindings j conditions).result := by
  induction conditions generalizing i j with
  | nil => rfl
  | cons c rest ih => rw [result_allHold_cons, result_allHold_cons, ih (i + 1) (j + 1)]

/-- Conditions in front of others decide, unless they all hold. -/
theorem result_allHold_append (index : Nat) (xs ys : List Condition) :
    (allHold config bindings index (xs ++ ys)).result =
      (allHold config bindings index xs).result.bind fun b =>
        if b then (allHold config bindings index ys).result else .ok false := by
  induction xs generalizing index with
  | nil => rfl
  | cons c rest ih =>
    rw [List.cons_append, result_allHold_cons, result_allHold_cons, ih,
      result_allHold_index config bindings (index + 1) index ys]
    cases (c.holds config bindings).result with
    | error e => rfl
    | ok b => cases b <;> rfl

end conditions

/-- An evaluation ends as the reading of the rule does, and then as its conditions do. -/
theorem result_evaluateRule (config : LogicConfig) (rule bindings : Value) :
    (evaluateRule config rule bindings).result =
      (Rule.ofData rule).bind fun r => (allHold config (variablesOrNone bindings) 0 r.conditions).result := by
  simp [evaluateRule]

/-- A condition ends as the comparison of its two tokens does, once both stand for texts. -/
theorem result_holds {config : LogicConfig} {bindings : Value} {c : Condition} {f v : Text}
    (hf : interpolate config.undefinedVariables c.field.token bindings = pure f)
    (hv : interpolate config.undefinedVariables c.comparison.value bindings = pure v) :
    (c.holds config bindings).result =
      (compareTexts config.maxPatternLength f v c.comparison.operator c.field.negated).result := by
  rw [Condition.holds, Traced.result_bind_ok (by rw [hf]; rfl), Traced.result_bind_ok (by rw [hv]; rfl)]

end Rulebook
