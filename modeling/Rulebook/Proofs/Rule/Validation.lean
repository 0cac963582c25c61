import Rulebook.Proofs.Rule.Escape
import Rulebook.Proofs.Rule.Names
import Rulebook.Proofs.Template.Agreement

/-!
# Validation against evaluation

What a validation refuses for its shape, every evaluation refuses before it looks at a variable. What it accepts can
still fail in an evaluation, but not for the shape of the data or for an operator; and for a reference that is not
well formed only if undefined names are refused and preparing the reference for that finds the fault.
-/

namespace Rulebook
open Template

/-! ### Data that cannot be read -/

/-- A validation reports the error that reading the data ends in. -/
theorem validateRule_of_ofData_error {data : Value} {e : LogicError} (h : Rule.ofData data = .error (.logic e)) :
    validateRule data = pure (some ((e.errorClass.label : Text) ++ ": " ++ e.message)) := by
  simp [validateRule, h]

/-- An evaluation ends in the error that reading the data ends in, and reports only that. -/
theorem evaluateRule_of_ofData_error {data : Value} {e : LogicError} (h : Rule.ofData data = .error (.logic e))
    (config : LogicConfig) (bindings : Value) :
    evaluateRule config data bindings =
      ⟨[⟨.evaluator, .error, "rule_evaluation_error",
        [("error_type", .text e.errorClass.label), ("error", .text e.message)]⟩], .error (.logic e)⟩ := by
  rw [evaluateRule, h]
  rfl

/-- A validation that accepts has read the data and the names of the rule. -/
theorem result_validateRule_eq_none_iff {data : Value} :
    (validateRule data).result = .ok none ↔ ∃ r names, Rule.ofData data = .ok r ∧ r.variablesUsed = .ok names := by
  unfold validateRule
  cases hdata : Rule.ofData data with
  | error e => cases e <;> simp
  | ok r =>
    simp only [ok_bind]
    cases hnames : r.variablesUsed with
    | error e => cases e <;> simp [hnames]
    | ok names => simp [hnames, Except.bind]

/-! ### Errors of references -/

/-- The kinds of faults of a template that is not well formed. -/
def syntaxFaults : List FaultKind := [.templateSyntax, .templateAssertion]

theorem mem_syntaxFaults_iff {f : Fault} : f.kind ∈ syntaxFaults ↔ ¬f.AboutValues := by
  rw [Fault.AboutValues, ← not_or, not_not]
  simp [syntaxFaults]

theorem failsOnValues_renderVariables (bindings : Value) : FailsOnValues (renderVariables bindings) := by
  unfold renderVariables
  split <;> simp

theorem failsOnValues_compile (p : Prepared) : FailsOnValues p.compile := by
  refine .forM (fun b => ?_) _
  unfold Body.compile
  split
  · next f hf =>
    obtain ⟨u, -, hu⟩ := List.exists_of_findSome?_eq_some hf
    cases u with
    | arguments names =>
      simp only [Use.offence?] at hu
      split at hu
      · cases hu
      split at hu
      · cases hu
        simp [programFault]
      · obtain ⟨_, -, rfl⟩ := Option.map_eq_some_iff.1 hu
        simp [programFault]
    | parameters names =>
      obtain ⟨_, -, rfl⟩ := Option.map_eq_some_iff.1 hu
      simp [programFault]
    | _ => cases hu
  · split <;> simp [programFault]

/-- A template that is not well formed fails where it is read or prepared, before any variable is looked at. -/
theorem renderTemplate_eq_error {policy : UndefinedPolicy} {source : Text} {bindings : Value} {f : Fault}
    (h : renderTemplate policy source bindings = .error f) (hf : f.kind ∈ syntaxFaults) :
    Template.read source = .error f ∨
      ∃ statements, Template.read source = .ok statements ∧ prepare (policy == .strict) statements = .error f := by
  rw [mem_syntaxFaults_iff] at hf
  simp only [renderTemplate] at h
  rcases bind_eq_error_iff.1 h with h | ⟨statements, hread, h⟩
  · exact .inl h
  rcases bind_eq_error_iff.1 h with h | ⟨p, -, h⟩
  · rw [compile] at h
    rcases bind_eq_error_iff.1 h with h | ⟨p, -, h⟩
    · exact .inr ⟨statements, hread, h⟩
    · exact absurd (failsOnValues_compile p f (bind_pure_eq_error_iff.1 h)) hf
  rcases bind_eq_error_iff.1 h with h | ⟨entries, -, h⟩
  · exact absurd (failsOnValues_renderVariables bindings f h) hf
  · exact absurd (failsOnValues_render _ _ p entries f h) hf

/-- A reference whose names can be read is found not to be well formed only if undefined names are refused, and then
where it is prepared for that. -/
theorem renderTemplate_eq_error_of_variablesUsed {r : Rule} {names : List Text} (hnames : r.variablesUsed = .ok names)
    {token : Text} (htoken : token ∈ r.tokens) (href : isReference token = true) {policy : UndefinedPolicy}
    {bindings : Value} {f : Fault} (h : renderTemplate policy (toTemplate token) bindings = .error f)
    (hf : f.kind ∈ syntaxFaults) :
    policy = .strict ∧ ∃ statements p, Template.read (toTemplate token) = .ok statements ∧
      prepare false statements = .ok p ∧ prepare true statements = .error f := by
  obtain ⟨statements, p, hread, hp, -⟩ := exists_statements_of_variablesUsed hnames htoken href
  rcases renderTemplate_eq_error h hf with h | ⟨_, h, hprepare⟩
  · rw [hread] at h
    cases h
  · obtain rfl := Except.ok.inj (hread.symm.trans h)
    cases policy with
    | empty => exact nomatch hp.symm.trans hprepare
    | strict => exact ⟨rfl, statements, p, hread, hp, hprepare⟩

theorem result_interpolate_eq_logic {policy : UndefinedPolicy} {token : Text} {bindings : Value} {e : LogicError}
    (h : (interpolate policy token bindings).result = .error (.logic e)) :
    isReference token = true ∧ ∃ f, e = .reference token f ∧
      renderTemplate policy (toTemplate token) bindings = .error f := by
  unfold interpolate at h
  split at h
  · next href =>
    cases hrender : renderTemplate policy (toTemplate token) bindings with
    | ok t => simp [hrender] at h
    | error f =>
      rw [hrender] at h
      dsimp only at h
      split at h
      · rcases Traced.result_bind_eq_error_iff.1 h with h | ⟨_, -, h⟩
        · cases h
        · cases h
          exact ⟨href, f, rfl, rfl⟩
      · cases h
  · simp at h

/-! ### Errors of evaluations -/

/-- A condition fails for one of its references, or in its comparison. -/
theorem result_holds_eq_logic {config : LogicConfig} {bindings : Value} {c : Condition} {e : LogicError}
    (h : (c.holds config bindings).result = .error (.logic e)) :
    (∃ token ∈ c.tokens, (interpolate config.undefinedVariables token bindings).result = .error (.logic e)) ∨
      e.AboutComparison := by
  rcases Traced.result_bind_eq_error_iff.1 h with h | ⟨field, -, h⟩
  · exact .inl ⟨c.field.token, by simp [Condition.tokens], h⟩
  rcases Traced.result_bind_eq_error_iff.1 h with h | ⟨value, -, h⟩
  · exact .inl ⟨c.comparison.value, by simp [Condition.tokens], h⟩
  · rcases failsOnly_compareTexts _ _ _ _ _ _ h with ⟨_, ⟨⟩, he⟩ | ⟨f, h⟩
    · exact .inr he
    · cases h

/-- A validation and an evaluation of the same data agree on what is wrong with its shape. An error that reading the
data ends in is the verdict of the validation and the end of every evaluation, which does nothing before. A validation
accepts exactly the data that can be read, with all the names of its references. Such data is evaluated without an
error of its shape and without one of an unknown operator; a reference that is not well formed is reported only if
undefined names are refused, where preparing it for that finds the fault. -/
theorem validateRule_evaluateRule (data : Value) :
    (∀ e, Rule.ofData data = .error (.logic e) →
      validateRule data = pure (some ((e.errorClass.label : Text) ++ ": " ++ e.message)) ∧
      ∀ config bindings, evaluateRule config data bindings =
        ⟨[⟨.evaluator, .error, "rule_evaluation_error",
          [("error_type", .text e.errorClass.label), ("error", .text e.message)]⟩], .error (.logic e)⟩) ∧
    ((validateRule data).result = .ok none ↔ ∃ r names, Rule.ofData data = .ok r ∧ r.variablesUsed = .ok names) ∧
    ((validateRule data).result = .ok none → ∀ config bindings e,
      (evaluateRule config data bindings).result = .error (.logic e) →
        e.errorClass ≠ .config ∧ e.errorClass ≠ .unknownOperator ∧
        ∀ token f, e = .reference token f → f.kind ∈ syntaxFaults →
          config.undefinedVariables = .strict ∧ ∃ statements p, Template.read (toTemplate token) = .ok statements ∧
            prepare false statements = .ok p ∧ prepare true statements = .error f) := by
  refine ⟨fun e h => ⟨validateRule_of_ofData_error h, evaluateRule_of_ofData_error h⟩,
    result_validateRule_eq_none_iff, ?_⟩
  intro hvalid config bindings e he
  obtain ⟨r, names, hr, hnames⟩ := result_validateRule_eq_none_iff.1 hvalid
  rw [result_evaluateRule, hr] at he
  obtain ⟨before, c, after, hconditions, -, hc⟩ := (result_allHold_eq_error_iff _ _).1 he
  rcases result_holds_eq_logic hc with ⟨token, htoken, hinterpolate⟩ | hcomparison
  · obtain ⟨href, f, rfl, hrender⟩ := result_interpolate_eq_logic hinterpolate
    have htokens : token ∈ r.tokens := List.mem_flatMap.2 ⟨c, by simp [hconditions], htoken⟩
    refine ⟨nofun, nofun, ?_⟩
    rintro _ _ ⟨⟩ hkind
    exact renderTemplate_eq_error_of_variablesUsed hnames htokens href hrender hkind
  · refine ⟨hcomparison.errorClass_ne (by simp), hcomparison.errorClass_ne (by simp), ?_⟩
    rintro token f rfl
    exact absurd rfl (hcomparison.errorClass_ne (c := .template) (by simp))

/-- A search under a spelling that is no operator, behind a comparison that does not hold; and a rule that a
validation accepts, whose evaluation fails for an unbound name. -/
theorem validateRule_evaluateRule_refused :
    validateRule (.list [.text "a", .text "b", .text "$x", .mapping [(.text "matches", .text "y")]]) =
        pure (some ("UnknownOperatorError: Unknown op: matches" : Text)) ∧
      (evaluateRule .standard (.list [.text "a", .text "b", .text "$x", .mapping [(.text "matches", .text "y")]])
        (.mapping [])).result = .error (.logic (.unknownOperator "matches")) ∧
      (evaluateRule .standard (.list [.text "$x", .text "y"]) (.mapping [])).result =
        .error (.logic (.reference "$x" ⟨.undefinedValue, "'x' is undefined"⟩)) ∧
      (LogicError.reference "$x" ⟨.undefinedValue, "'x' is undefined"⟩).errorClass ≠ .config := by
  have hrefused : Rule.ofData (.list [.text "a", .text "b", .text "$x", .mapping [(.text "matches", .text "y")]]) =
      .error (.logic (.unknownOperator "matches")) := by decide +kernel
  have hvalid : (validateRule (.list [.text "$x", .text "y"])).result = .ok none := by decide +kernel
  have hunbound : (evaluateRule .standard (.list [.text "$x", .text "y"]) (.mapping [])).result =
      .error (.logic (.reference "$x" ⟨.undefinedValue, "'x' is undefined"⟩)) := by decide +kernel
  obtain ⟨hverdict, hend⟩ := (validateRule_evaluateRule _).1 _ hrefused
  refine ⟨?_, ?_, hunbound, ((validateRule_evaluateRule _).2.2 hvalid .standard (.mapping []) _ hunbound).1⟩
  · rw [hverdict]
    exact congrArg (fun t => pure (some t)) (by decide +kernel)
  · rw [hend]

/-- Folding constants reports an unknown filter only where it is reached: with undefined names allowed an absent
item of a number ends the folding before that. -/
theorem validateRule_unknown_filter :
    ¬∀ (data : Value) (config : LogicConfig) (bindings : Value) (token : Text) (f : Fault),
      (validateRule data).result = .ok none →
        (evaluateRule config data bindings).result = .error (.logic (.reference token f)) → f.kind ∉ syntaxFaults := by
  intro h
  have hvalid : (validateRule (.list [.text "$(x)or(not(1[0])or(2|nofilter))", .text "a"])).result = .ok none := by
    decide +kernel
  have hfails : (evaluateRule .standard (.list [.text "$(x)or(not(1[0])or(2|nofilter))", .text "a"])
      (.mapping [(.text "x", .text "a")])).result =
        .error (.logic (.reference "$(x)or(not(1[0])or(2|nofilter))"
          ⟨.templateAssertion, "No filter named 'nofilter'."⟩)) := by
    decide +kernel
  have hkind := h _ _ _ _ _ hvalid hfails
  simp [syntaxFaults] at hkind

end Rulebook
