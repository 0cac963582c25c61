import Rulebook.Proofs.Rule.Evaluation
import Rulebook.Template.Offer

/-!
# Conditions that an evaluation comes to

An evaluation comes to a condition if all before it hold. How such a condition ends decides, unless it holds: its end is
the end of the evaluation. A condition ends as the comparison of the texts that its two tokens stand for. An evaluation
keeps to the offer if the tokens that it comes to use only what is offered, and it meets no limit.
-/

namespace Rulebook
open Template

/-- An evaluation of the rule comes to the condition: all before it hold. -/
def Rule.Reaches (r : Rule) (config : LogicConfig) (bindings : Value) (c : Condition) : Prop :=
  ∃ before after, r.conditions = before ++ c :: after ∧
    ∀ b ∈ before, (b.holds config bindings).result = .ok true

/-- The tokens of the condition stand for two texts. -/
def Condition.Resolves (c : Condition) (config : LogicConfig) (bindings : Value) (field comparand : Text) : Prop :=
  (interpolate config.undefinedVariables c.field.token bindings).result = .ok field ∧
    (interpolate config.undefinedVariables c.comparison.value bindings).result = .ok comparand

/-- What the template of a token uses. A token that is no reference, or not well formed, uses nothing. -/
def tokenUses (token : Text) : List Use :=
  if isReference token then
    match Template.read (toTemplate token) with
    | .ok statements => usesBody statements
    | .error _ => []
  else []

/-- The kinds of faults that stand for what is set aside: nesting and lengths beyond what can be followed or held, and
operations that are left out. -/
def limitFaults : List FaultKind := [.tooDeep, .outOfMemory, .unsupported]

/-- The tokens of the conditions that an evaluation comes to use only what is offered, and none of these conditions ends
at a limit. -/
def Rule.KeepsToOffer (r : Rule) (config : LogicConfig) (bindings : Value) : Prop :=
  ∀ c, r.Reaches config bindings c → (∀ token ∈ c.tokens, (tokenUses token).all Use.isOffered = true) ∧
    ∀ f, (c.holds config bindings).result = .error (.fault f) → f.kind ∉ limitFaults

/-- The tokens of the rule use only what is offered, and reading their names ends at no limit. -/
def Rule.IsOffered (r : Rule) : Prop :=
  ∀ token ∈ r.tokens, (tokenUses token).all Use.isOffered = true ∧
    ∀ f, tokenVariables token = .error (.fault f) → f.kind ∉ limitFaults

variable {config : LogicConfig} {bindings : Value}

/-- A condition whose tokens stand for texts ends as their comparison does. -/
theorem Condition.Resolves.result_holds {c : Condition} {field comparand : Text}
    (h : c.Resolves config bindings field comparand) :
    (c.holds config bindings).result =
      (compareTexts config.maxPatternLength field comparand c.comparison.operator c.field.negated).result := by
  rw [Condition.holds, Traced.result_bind_ok h.1, Traced.result_bind_ok h.2]

/-- Where a condition ends in a truth value, its tokens stand for texts. -/
theorem exists_resolves_of_holds {c : Condition} {b : Bool} (h : (c.holds config bindings).result = .ok b) :
    ∃ field comparand, c.Resolves config bindings field comparand := by
  simp only [Condition.holds, Traced.result_bind] at h
  obtain ⟨field, hfield, h⟩ := bind_eq_ok_iff.1 h
  obtain ⟨comparand, hcomparand, -⟩ := bind_eq_ok_iff.1 h
  exact ⟨field, comparand, hfield, hcomparand⟩

section
variable {data : Value} {r : Rule} (hdata : Rule.ofData data = .ok r)
include hdata

/-- A condition that is reached and does not hold decides the evaluation. -/
theorem Rule.Reaches.result_evaluateRule {c : Condition} (h : r.Reaches config (variablesOrNone bindings) c)
    {o : Except Failure Bool} (ho : (c.holds config (variablesOrNone bindings)).result = o) (hne : o ≠ .ok true) :
    (evaluateRule config data bindings).result = o := by
  obtain ⟨before, after, hconditions, hbefore⟩ := h
  rw [Rulebook.result_evaluateRule, hdata]
  exact (result_allHold_eq_iff config _ hne).2 ⟨before, c, after, hconditions, hbefore, ho⟩

/-- In an evaluation that ends in a truth value, each condition that is reached ends in one. -/
theorem Rule.Reaches.exists_result_holds {c : Condition} (h : r.Reaches config (variablesOrNone bindings) c) {b : Bool}
    (hb : (evaluateRule config data bindings).result = .ok b) :
    ∃ b', (c.holds config (variablesOrNone bindings)).result = .ok b' := by
  cases ho : (c.holds config (variablesOrNone bindings)).result with
  | ok b' => exact ⟨b', rfl⟩
  | error e =>
    rw [h.result_evaluateRule hdata ho (by simp)] at hb
    cases hb

end

end Rulebook
