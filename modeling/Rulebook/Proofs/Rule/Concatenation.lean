import Rulebook.Proofs.Rule.Evaluation
import Rulebook.Proofs.Rule.Pairs

/-!
# Rules one behind the other

Rule data may be put together from parts. The whole is read before any condition is looked at; then the conditions of
the first part decide, and those of the second part only if the first part holds.
-/

namespace Rulebook

/-- The elements of data put together are the elements of its parts. -/
theorem asSequence?_concatenate {d₁ d₂ d : Value} {xs ys : List Value} (h : Template.concatenate d₁ d₂ = .ok d)
    (hxs : d₁.asSequence? = some xs) (hys : d₂.asSequence? = some ys) : d.asSequence? = some (xs ++ ys) := by
  unfold Template.concatenate at h
  -- texts and bytes are no sequences of elements, so that only three of the sums are left
  split at h <;> cases h <;> cases hxs <;> cases hys <;> simp [Value.asSequence?]

theorem ne_rule_of_concatenate {d₁ d₂ d : Value} (h : Template.concatenate d₁ d₂ = .ok d) (r : Rule) :
    d₁ ≠ .rule r ∧ d₂ ≠ .rule r ∧ d ≠ .rule r := by
  unfold Template.concatenate at h
  split at h <;> cases h <;> simp

/-- Data put together of two parts that are read is read as the conditions of both in order. -/
theorem ofData_concatenate {d₁ d₂ d : Value} {r₁ r₂ : Rule} (h₁ : Rule.ofData d₁ = .ok r₁)
    (h₂ : Rule.ofData d₂ = .ok r₂) (h : Template.concatenate d₁ d₂ = .ok d) :
    Rule.ofData d = .ok ⟨r₁.conditions ++ r₂.conditions⟩ := by
  obtain ⟨xs, hxs, hxseven, hxsread⟩ := (ofData_eq_ok_iff fun r => (ne_rule_of_concatenate h r).1).1 h₁
  obtain ⟨ys, hys, hyseven, hysread⟩ := (ofData_eq_ok_iff fun r => (ne_rule_of_concatenate h r).2.1).1 h₂
  refine (ofData_eq_ok_iff fun r => (ne_rule_of_concatenate h r).2.2).2
    ⟨xs ++ ys, asSequence?_concatenate h hxs hys, ?_, ?_⟩
  · rw [List.length_append]
    omega
  · rw [pairs_append hxseven, List.mapM_append, hxsread, ok_bind, hysread, ok_bind, pure_eq_ok]

/-- An evaluation of data put together ends as that of its first part, unless that holds, and then as that of its
second part. -/
theorem result_evaluateRule_concatenate (config : LogicConfig) (bindings : Value) {d₁ d₂ d : Value} {r₁ r₂ : Rule}
    (h₁ : Rule.ofData d₁ = .ok r₁) (h₂ : Rule.ofData d₂ = .ok r₂) (h : Template.concatenate d₁ d₂ = .ok d) :
    (evaluateRule config d bindings).result =
      (evaluateRule config d₁ bindings).result.bind fun b =>
        if b then (evaluateRule config d₂ bindings).result else .ok false := by
  simp only [result_evaluateRule, ofData_concatenate h₁ h₂ h, h₁, h₂]
  exact result_allHold_append config _ 0 _ _

/-- Data without elements is the rule without conditions. -/
theorem ofData_empty {data : Value} (h : data.asSequence? = some []) : Rule.ofData data = .ok ⟨[]⟩ := by
  refine (ofData_eq_ok_iff ?_).2 ⟨[], h, rfl, rfl⟩
  rintro r rfl
  cases h

/-- Evaluation takes data put together to the short-circuit "and" of its parts. Data without elements holds. A rule is
false only where a condition that is reached compares false, and the failure of a condition that is reached is the
failure of the rule. -/
theorem evaluateRule_concatenate (config : LogicConfig) (bindings : Value) :
    (∀ d₁ d₂ d r₁ r₂, Rule.ofData d₁ = .ok r₁ → Rule.ofData d₂ = .ok r₂ → Template.concatenate d₁ d₂ = .ok d →
      ((evaluateRule config d₁ bindings).result = .ok true →
        (evaluateRule config d bindings).result = (evaluateRule config d₂ bindings).result) ∧
      ((evaluateRule config d₁ bindings).result ≠ .ok true →
        (evaluateRule config d bindings).result = (evaluateRule config d₁ bindings).result)) ∧
    (∀ data : Value, data.asSequence? = some [] → (evaluateRule config data bindings).result = .ok true) ∧
    (∀ data r, Rule.ofData data = .ok r → ∀ o, o ≠ .ok true →
      ((evaluateRule config data bindings).result = o ↔
        ∃ before c after, r.conditions = before ++ c :: after ∧
          (∀ b ∈ before, (b.holds config (variablesOrNone bindings)).result = .ok true) ∧
          (c.holds config (variablesOrNone bindings)).result = o)) := by
  refine ⟨fun d₁ d₂ d r₁ r₂ h₁ h₂ h => ?_, fun data hdata => ?_, fun data r hr o ho => ?_⟩
  · rw [result_evaluateRule_concatenate config bindings h₁ h₂ h]
    constructor
    · intro htrue
      rw [htrue]
      rfl
    · intro hother
      cases hresult : (evaluateRule config d₁ bindings).result with
      | error e => rfl
      | ok b =>
        cases b with
        | true => exact absurd hresult hother
        | false => rfl
  · rw [result_evaluateRule, ofData_empty hdata]
    rfl
  · rw [result_evaluateRule, hr]
    exact result_allHold_eq_iff config _ ho

/-- The second part fails on a name that nothing binds. A first part that holds lets the failure through, one that
does not hold hides it. -/
theorem evaluateRule_concatenate_unbound :
    (evaluateRule .standard (.list [.text "a", .text "a", .text "$missing", .text "x"]) (.mapping [])).result =
        (evaluateRule .standard (.list [.text "$missing", .text "x"]) (.mapping [])).result ∧
      (evaluateRule .standard (.list [.text "a", .text "b", .text "$missing", .text "x"]) (.mapping [])).result =
        .ok false := by
  have hread : ∀ f c : Text, Rule.ofData (.list [.text f, .text c]) = .ok ⟨[⟨FieldRef.parse f, .bare c⟩]⟩ := by
    intro f c
    simp [Rule.ofData, Value.asSequence?, parseConditions, scalarText, parseComparison, Value.isCollection]
  have hpart := (evaluateRule_concatenate .standard (.mapping [])).1
  have htrue : (evaluateRule .standard (.list [.text "a", .text "a"]) (.mapping [])).result = .ok true := by
    decide +kernel
  have hfalse : (evaluateRule .standard (.list [.text "a", .text "b"]) (.mapping [])).result = .ok false := by
    decide +kernel
  constructor
  · exact (hpart _ _ _ _ _ (hread "a" "a") (hread "$missing" "x") rfl).1 htrue
  · rw [← hfalse]
    exact (hpart _ _ _ _ _ (hread "a" "b") (hread "$missing" "x") rfl).2 (by rw [hfalse]; simp)

end Rulebook
