import Rulebook.Proofs.Rule.PatternSafety
import Rulebook.Proofs.Template.Interpolation
import Mathlib.Data.List.Infix

/-!
# Single comparisons

A single comparison of two texts and the rule that consists of it come by different ways to the same end. The rule checks
a pattern for inline code where it is read, the single comparison where it searches; both split one mark of a negation
off the field, and both refuse a name that names no operator before they look at the pattern.
-/

namespace Rulebook

variable {config : LogicConfig} {bindings : Value} {f v name : Text}

/-- A rule of one field and one comparand is read as the comparand is. -/
theorem ofData_pair (f : Text) (comparand : Value) :
    Rule.ofData (.list [.text f, comparand]) =
      parseComparison comparand >>= fun c => pure ⟨[⟨FieldRef.parse f, c⟩]⟩ := by
  simp only [Rule.ofData, Value.asSequence?, List.length_cons, List.length_nil, parseConditions, scalarText]
  rw [if_neg (by decide)]
  cases parseComparison comparand <;> rfl

/-- A rule of one condition ends as its comparison does where its tokens are no references. -/
theorem result_evaluateRule_pair {comparand : Value} {c : Comparison} (hc : parseComparison comparand = .ok c)
    (hf : isReference (FieldRef.parse f).token = false) (hv : isReference c.value = false) :
    (evaluateRule config (.list [.text f, comparand]) bindings).result =
      (compareTexts config.maxPatternLength (FieldRef.parse f).token c.value c.operator
        (FieldRef.parse f).negated).result := by
  rw [result_evaluateRule, ofData_pair, hc, ok_bind]
  show (allHold config (variablesOrNone bindings) 0 [_]).result = _
  rw [result_allHold_singleton]
  exact result_holds (interpolate_of_not_isReference _ hf _) (interpolate_of_not_isReference _ hv _)

/-- A rule whose comparand is refused is refused. -/
theorem result_evaluateRule_pair_error {comparand : Value} {e : Failure} (hc : parseComparison comparand = .error e) :
    (evaluateRule config (.list [.text f, comparand]) bindings).result = .error e := by
  rw [result_evaluateRule, ofData_pair, hc]
  rfl

/-- One mark of a negation is split off, and no more. -/
theorem parse_negationMark (g : Text) : FieldRef.parse (negationMark :: g) = ⟨g, true⟩ := by
  rw [FieldRef.parse, if_pos rfl]

theorem result_compareTexts_negated (limit : Int) (f v : Text) (op : Operator) :
    (compareTexts limit f v op true).result = (compareTexts limit f v op false).result.map (!·) := by
  have hnot : ∀ x : Traced Bool, (x >>= fun b => pure (!b)).result = (x >>= fun b => pure b).result.map (!·) := by
    intro x
    rw [Traced.result_bind, Traced.result_bind]
    cases x.result <;> rfl
  unfold compareTexts
  cases op.isRegex
  · exact hnot (relate f v op)
  · exact hnot (searchPattern limit f v)

/-- A pattern with inline code ends every search, as it ends the reading of a rule. -/
theorem result_compareTexts_inlineCode (hcode : inlineCodeMark <:+: v) (limit : Int) (f : Text) (negate : Bool) :
    (compareTexts limit f v .search negate).result = .error (.logic (.inlineCode v)) := by
  have hsafe : ¬SafePattern limit v := fun h => h.1 hcode
  obtain ⟨e, he, -, hresult⟩ := refusesPattern_compareTexts hsafe f negate
  cases he with
  | inlineCode => exact hresult
  | tooLong hnot => exact absurd hcode hnot

/-- A single comparison under a name that names no operator ends in the error about the name. -/
theorem result_evaluateSingle_error {limit : Int} {e : Failure} (hname : parseOperator name = .error e) :
    (evaluateSingle limit f v name).result = .error e := by
  rw [evaluateSingle, Traced.result_bind_error hname]

theorem result_evaluateSingle_ok {limit : Int} {op : Operator} (hname : parseOperator name = .ok op) :
    (evaluateSingle limit f v name).result =
      (compareTexts limit (FieldRef.parse f).token v op (FieldRef.parse f).negated).result := by
  rw [evaluateSingle, Traced.result_bind_ok hname]

/-- The comparand under an operator is read unless it is a pattern with inline code. -/
theorem parseComparison_text {op : Operator} (hname : parseOperator name = .ok op) :
    parseComparison (.mapping [(.text name, .text v)]) =
      if op = .search ∧ inlineCodeMark <:+: v then .error (.logic (.inlineCode v)) else .ok (.under op v) := by
  have hread : parseComparison (.mapping [(.text name, .text v)]) = do
      if op.isRegex then liftLogic (checkPattern v)
      return .under op v := by
    simp only [parseComparison, scalarText, ok_bind, hname]
  rw [hread]
  by_cases hop : op = .search
  · subst hop
    by_cases hcode : inlineCodeMark <:+: v
    · simp [hcode, checkPattern, Text.hasPart_iff, liftLogic, Operator.isRegex]
    · rw [checkPattern_eq_ok_iff.2 hcode]
      simp [hcode, liftLogic, Operator.isRegex]
  · simp [hop, Operator.isRegex]

/-- Where neither token is a reference, a single comparison and the rule that consists of it end in the same truth value
or in the same error. Behind the mark of a negation both end in the reverse of the comparison of what follows it. -/
theorem evaluateSingle_agrees (config : LogicConfig) (bindings : Value) (f v name : Text)
    (hf : isReference (FieldRef.parse f).token = false) (hv : isReference v = false) :
    (evaluateSingle config.maxPatternLength f v name).result =
        (evaluateRule config (.list [.text f, .mapping [(.text name, .text v)]]) bindings).result ∧
      ∀ g op, f = negationMark :: g → Operator.parse name = .ok op →
        (evaluateSingle config.maxPatternLength f v name).result =
          (compareTexts config.maxPatternLength g v op false).result.map (!·) := by
  constructor
  · cases hname : parseOperator name with
    | error e =>
      have hread : parseComparison (.mapping [(.text name, .text v)]) = .error e := by
        simp only [parseComparison, scalarText, ok_bind, hname, error_bind]
      rw [result_evaluateSingle_error hname, result_evaluateRule_pair_error hread]
    | ok op =>
      have hread := parseComparison_text (v := v) hname
      rw [result_evaluateSingle_ok hname]
      split at hread
      · next hcode =>
        obtain ⟨rfl, hcode⟩ := hcode
        rw [result_evaluateRule_pair_error hread, result_compareTexts_inlineCode hcode]
      · rw [result_evaluateRule_pair hread hf hv]
        rfl
  · rintro g op rfl hop
    have hname : parseOperator name = .ok op := by rw [parseOperator, hop]
    rw [result_evaluateSingle_ok hname, parse_negationMark, result_compareTexts_negated]

/-- A mark of a negation that is itself negated: only the first is split off, and the rest is searched as it stands. -/
theorem evaluateSingle_agrees_marks :
    (evaluateSingle 1000 "!!x" "^!" "Like").result =
        (evaluateRule .standard (.list [.text "!!x", .mapping [(.text "Like", .text "^!")]]) (.mapping [])).result ∧
      (evaluateSingle 1000 "!!x" "^!" "Like").result = (compareTexts 1000 "!x" "^!" .search false).result.map (!·) :=
  have h := evaluateSingle_agrees .standard (.mapping []) "!!x" "^!" "Like" (by decide) (by decide)
  ⟨h.1, h.2 "!x" .search rfl (Operator.parse_of_ascii (by decide) (by decide))⟩

end Rulebook
