import Rulebook.Proofs.Comparison.Failure
import Rulebook.Proofs.Pattern.Sequence
import Rulebook.Proofs.Rule.Reached
import Rulebook.Proofs.Rule.Reader

/-!
# What escapes an evaluation

An evaluation should end in a truth value or in an error of rules, and a validation in a verdict. Both can end in a
fault that nobody reports as an error of rules: in an integer of more than 4300 digits among the rule data, in a
fault of a reference of a kind that is not expected there, and in a search pattern whose repetition is too large, whose
flags clash, or that has a count of more than 4300 digits. For references that use only what is offered these are all
the ways.
-/

namespace Rulebook
open Template

/-- The kinds of faults of a reference that become errors of rules. -/
def referenceFaults : List FaultKind :=
  [.templateSyntax, .templateAssertion, .undefinedValue, .sandbox, .templateRuntime, .missingTemplate, .wrongType,
    .badValue, .unencodable, .undecodable]

theorem interpolationEvent?_eq_none_iff {kind : FaultKind} :
    interpolationEvent? kind = none ↔ kind ∉ referenceFaults := by
  cases kind <;> decide

/-- Rendering the reference ends in a fault of a kind that is not expected. -/
def ReferenceEscapes (policy : UndefinedPolicy) (bindings : Value) (token : Text) (f : Fault) : Prop :=
  isReference token = true ∧ renderTemplate policy (toTemplate token) bindings = .error f ∧ f.kind ∉ referenceFaults

/-- Reading the reference ends in a fault of a kind that is not expected. -/
def TokenEscapes (token : Text) (f : Fault) : Prop :=
  isReference token = true ∧ templateNames (toTemplate token) = .error f ∧
    f.kind ∉ [.templateSyntax, .templateAssertion]

/-- The pattern passes the checks on patterns and then has a repetition that is too large or flags that clash. -/
def PatternEscapes (limit : Int) (pattern : Text) (f : Fault) : Prop :=
  checkPattern pattern = .ok () ∧ pattern.length ≤ limit ∧ Pattern.compile pattern = .error f ∧
    (f = Pattern.repetitionTooLarge ∨ f = Pattern.flagsClash ∨ Pattern.IsLongCount f)

/-- The condition ends in a fault: of one of its references, or of the pattern that it searches for. -/
inductive Condition.Escapes (config : LogicConfig) (bindings : Value) (c : Condition) (f : Fault) : Prop
  | field (h : ReferenceEscapes config.undefinedVariables bindings c.field.token f)
  | comparand {field : Text}
      (hfield : (interpolate config.undefinedVariables c.field.token bindings).result = .ok field)
      (h : ReferenceEscapes config.undefinedVariables bindings c.comparison.value f)
  | pattern {field pattern : Text}
      (hfield : (interpolate config.undefinedVariables c.field.token bindings).result = .ok field)
      (hpattern : (interpolate config.undefinedVariables c.comparison.value bindings).result = .ok pattern)
      (hop : c.comparison.operator = .search) (h : PatternEscapes config.maxPatternLength pattern f)

variable {f : Fault}

theorem result_interpolate_eq_fault_iff {policy : UndefinedPolicy} {token : Text} {bindings : Value} :
    (interpolate policy token bindings).result = .error (.fault f) ↔ ReferenceEscapes policy bindings token f := by
  unfold interpolate ReferenceEscapes
  split
  · next href =>
    rw [and_iff_right href]
    cases renderTemplate policy (toTemplate token) bindings with
    | ok t => simp
    | error fault =>
      dsimp only
      cases hevent : interpolationEvent? fault.kind with
      | none =>
        have hkind := interpolationEvent?_eq_none_iff.1 hevent
        simp only [Traced.result_fail, Except.error.injEq, Failure.fault.injEq]
        exact ⟨fun h => ⟨h, h ▸ hkind⟩, And.left⟩
      | some name =>
        have hkind : fault.kind ∈ referenceFaults := by
          by_contra h
          rw [interpolationEvent?_eq_none_iff.2 h] at hevent
          cases hevent
        simp only [Traced.result_bind_eq_error_iff, Traced.result_report, Traced.result_logicError,
          Except.error.injEq]
        refine ⟨fun h => ?_, fun ⟨h, hf⟩ => absurd (h ▸ hkind) hf⟩
        rcases h with h | ⟨_, _, h⟩ <;> cases h
  · next href => simp [href]

theorem tokenVariables_eq_fault_iff {token : Text} :
    tokenVariables token = .error (.fault f) ↔ TokenEscapes token f := by
  unfold tokenVariables TokenEscapes
  split
  · next href =>
    rw [and_iff_right href]
    cases templateNames (toTemplate token) with
    | ok names => simp
    | error fault =>
      dsimp only
      split
      · next hkind =>
        have hkind : fault.kind = .templateSyntax ∨ fault.kind = .templateAssertion := by simpa using hkind
        refine ⟨nofun, fun ⟨h, hf⟩ => ?_⟩
        cases h
        simp [hkind] at hf
      · next hkind =>
        have hkind : fault.kind ∉ [.templateSyntax, .templateAssertion] := by simpa using hkind
        simp only [Except.error.injEq, Failure.fault.injEq]
        exact ⟨fun h => ⟨h, h ▸ hkind⟩, And.left⟩
  · next href => simp [href]

theorem result_searchPattern_eq_fault_iff {limit : Int} {field pattern : Text} :
    (searchPattern limit field pattern).result = .error (.fault f) ↔ PatternEscapes limit pattern f := by
  unfold searchPattern PatternEscapes
  cases hcheck : checkPattern pattern with
  | error e => simp [Except.bind]
  | ok _ =>
    dsimp only
    split
    · next hlong => simp [Except.bind, Int.not_le.2 hlong]
    · next hshort =>
      rw [and_iff_right rfl, and_iff_right (Int.not_lt.1 hshort)]
      cases hcompile : Pattern.compile pattern with
      | ok program => simp [Except.bind]
      | error fault =>
        dsimp only
        split
        · next hkind =>
          have hkind : fault.kind = .patternSyntax := by simpa using hkind
          simp only [Traced.result_bind_eq_error_iff, Traced.result_report, Traced.result_logicError,
            Except.error.injEq]
          refine ⟨fun h => ?_, fun ⟨h, hf⟩ => ?_⟩
          · rcases h with h | ⟨_, _, h⟩ <;> cases h
          · subst h
            rcases hf with rfl | rfl | ⟨_, _, rfl⟩ <;> cases hkind
        · next hkind =>
          have hkind : fault.kind ≠ .patternSyntax := by simpa using hkind
          have hrefusal := (Pattern.compile_error hcompile).resolve_left hkind
          simp only [Traced.result_fail, Except.error.injEq, Failure.fault.injEq]
          exact ⟨fun h => ⟨h, h ▸ hrefusal⟩, And.left⟩

theorem result_relate_ne_fault (field value : Text) (op : Operator) :
    (relate field value op).result ≠ .error (.fault f) := by
  intro h
  obtain ⟨_, h, -⟩ := failsOnly_relate field value op _ h
  cases h

/-- Only a search can end in a fault. -/
theorem result_compareTexts_eq_fault_iff {limit : Int} {field value : Text} {op : Operator} {negate : Bool} :
    (compareTexts limit field value op negate).result = .error (.fault f) ↔
      op = .search ∧ PatternEscapes limit value f := by
  have hsearch : op.isRegex = true ↔ op = .search := by cases op <;> decide
  have hend : ∀ x : Traced Bool, (do let b ← x; return if negate then !b else b).result = .error (.fault f) ↔
      x.result = .error (.fault f) := fun x => by
    rw [Traced.result_bind_eq_error_iff]
    exact or_iff_left fun ⟨_, _, h⟩ => nomatch h
  unfold compareTexts
  rw [← hsearch]
  cases op.isRegex with
  | true => simpa using (hend _).trans result_searchPattern_eq_fault_iff
  | false => simpa using (hend _).not.2 (result_relate_ne_fault field value op)

/-- A condition ends in a fault exactly if one of its references or its pattern does. -/
theorem result_holds_eq_fault_iff {config : LogicConfig} {bindings : Value} {c : Condition} :
    (c.holds config bindings).result = .error (.fault f) ↔ c.Escapes config bindings f := by
  unfold Condition.holds
  simp only [Traced.result_bind_eq_error_iff, result_interpolate_eq_fault_iff, result_compareTexts_eq_fault_iff]
  constructor
  · rintro (h | ⟨field, hfield, h | ⟨pattern, hpattern, hop, h⟩⟩)
    · exact .field h
    · exact .comparand hfield h
    · exact .pattern hfield hpattern hop h
  · rintro (h | ⟨hfield, h⟩ | ⟨hfield, hpattern, hop, h⟩)
    · exact .inl h
    · exact .inr ⟨_, hfield, .inl h⟩
    · exact .inr ⟨_, hfield, .inr ⟨_, hpattern, hop, h⟩⟩

/-- The names of a rule are read up to the first token that fails. -/
theorem variablesUsed_eq_error_iff {r : Rule} {e : Failure} :
    r.variablesUsed = .error e ↔ ∃ before t after, r.tokens = before ++ t :: after ∧
      (∀ b ∈ before, ∃ names, tokenVariables b = .ok names) ∧ tokenVariables t = .error e := by
  unfold Rule.variablesUsed
  rw [bind_pure_eq_error_iff, mapM_eq_error_iff]

/-- A validation fails only in a fault, where its names do. -/
theorem result_validateRule_eq_error_iff {rule : Value} {e : Failure} :
    (validateRule rule).result = .error e ↔
      ∃ f, e = .fault f ∧ (Rule.ofData rule >>= Rule.variablesUsed) = .error (.fault f) := by
  unfold validateRule
  cases (Rule.ofData rule >>= Rule.variablesUsed) with
  | ok names => simp [Except.bind]
  | error e' => cases e' <;> simp [eq_comm]

end Rulebook
