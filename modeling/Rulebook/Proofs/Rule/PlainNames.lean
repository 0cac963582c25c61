import Rulebook.Proofs.Rule.Validation
import Rulebook.Proofs.Rule.Variables
import Rulebook.Proofs.Template.Outside

/-!
# Rules of plain references

Each reference of such a rule is a plain name behind its mark. Its names are then those of its references and no others,
and an evaluation that refuses undefined names can only miss one of them.
-/

namespace Rulebook
open Template

/-! ### The names of a plain reference -/

section token
variable {n m : Text}

theorem toTemplate_plainName (hn : PlainName n) :
    toTemplate (variableToken n) = assemble placeholder [([], n)] [] := by
  rw [toTemplate_variableToken hn.toAsciiName.ne_nil hn.toAsciiName.not_isSpace, ← phrase_nil placeholder,
    phrase_eq_assemble]
  rfl

theorem outlines_name (hn : PlainName n) : Outlines [([], n)] [] :=
  outlines_cons.2 ⟨by simp [Verbatim], hn, outlines_nil.2 (by simp [Verbatim])⟩

/-- What the template of a plain reference takes from outside is its name. -/
theorem mem_namesFromOutside_name (hn : PlainName n) :
    m ∈ namesFromOutside [.output (pieces [([], n)] [])] ↔ m = n := by
  obtain ⟨outside, hbody, houtside⟩ := templateBody_pieces (outlines_name hn)
  have hblocks : blockBodies [.output (pieces [([], n)] [])] = [] := rfl
  simp [namesFromOutside, hbody, hblocks, Body.names, outsideNamesAll, Stmt.outsideNames, houtside]

/-- A plain reference has one name, unless every template knows it. -/
theorem tokenVariables_variableToken (hn : PlainName n) (hunknown : n ∉ globalNames) :
    ∃ names, tokenVariables (variableToken n) = .ok names ∧ ∀ m, m ∈ names ↔ m = n := by
  obtain ⟨outside, hprepare, -⟩ := prepare_pieces false (outlines_name hn)
  have hnames : templateNames (toTemplate (variableToken n)) =
      .ok (undeclaredNames [.output (pieces [([], n)] [])]) := by
    rw [toTemplate_plainName hn]
    exact templateNames_eq_ok_iff.2 ⟨_, _, read_assemble (outlines_name hn), hprepare, rfl⟩
  refine ⟨_, (tokenVariables_eq_ok_iff rfl).2 hnames, fun m => ?_⟩
  rw [mem_undeclaredNames, mem_namesFromOutside_name hn]
  constructor
  · exact And.left
  · rintro rfl
    exact ⟨rfl, hunknown⟩

end token

/-! ### The names of a rule -/

/-- The references of the rule are plain names that not every template knows. -/
def Rule.HasPlainReferences (r : Rule) : Prop :=
  ∀ token ∈ r.tokens, isReference token = true → ∃ n, token = variableToken n ∧ PlainName n ∧ n ∉ globalNames

section rule
variable {r : Rule} (hr : r.HasPlainReferences)
include hr

/-- A token of such a rule has the name that it marks, or none. -/
theorem tokenVariables_of_hasPlainReferences {token : Text} (htoken : token ∈ r.tokens) :
    ∃ names, tokenVariables token = .ok names ∧ ∀ m, m ∈ names ↔ token = variableToken m := by
  cases href : isReference token with
  | true =>
    obtain ⟨n, rfl, hn, hunknown⟩ := hr token htoken href
    obtain ⟨names, hnames, hmem⟩ := tokenVariables_variableToken hn hunknown
    refine ⟨names, hnames, fun m => ?_⟩
    rw [hmem, variableToken, variableToken, List.cons.injEq, and_iff_right rfl, eq_comm]
  | false =>
    refine ⟨[], by simp [tokenVariables, href], fun m => ?_⟩
    rw [iff_false_intro List.not_mem_nil, false_iff]
    rintro rfl
    cases href

/-- The names of such a rule are those of its references, each once, in order. -/
theorem variablesUsed_of_hasPlainReferences :
    ∃ names, r.variablesUsed = .ok names ∧ names.Pairwise (· < ·) ∧ ∀ n, n ∈ names ↔ variableToken n ∈ r.tokens := by
  have hall : ∀ tokens : List Text, (∀ token ∈ tokens, token ∈ r.tokens) →
      ∃ nss, tokens.mapM tokenVariables = .ok nss ∧ ∀ n, n ∈ nss.flatten ↔ variableToken n ∈ tokens := by
    intro tokens htokens
    induction tokens with
    | nil => exact ⟨[], rfl, by simp⟩
    | cons token tokens ih =>
      obtain ⟨htoken, htokens⟩ := List.forall_mem_cons.1 htokens
      obtain ⟨names, hnames, hmem⟩ := tokenVariables_of_hasPlainReferences hr htoken
      obtain ⟨nss, hnss, hmems⟩ := ih htokens
      refine ⟨names :: nss, by simp [hnames, hnss], fun n => ?_⟩
      rw [List.flatten_cons, List.mem_append, hmem, hmems, List.mem_cons, eq_comm]
  obtain ⟨nss, hnss, hmem⟩ := hall r.tokens fun _ h => h
  refine ⟨Text.sorted (Text.distinct nss.flatten), by simp [Rule.variablesUsed, hnss], Text.pairwise_sorted_distinct _,
    fun n => ?_⟩
  rw [Text.mem_sorted, Text.mem_distinct, hmem]

end rule

/-! ### Evaluation -/

theorem variablesOrNone_mapping (entries : List (Value × Value)) : variablesOrNone (.mapping entries) = .mapping entries := by
  cases entries <;> rfl

/-- The fault of a name that is not bound. -/
def unboundFault (n : Text) : Fault := ⟨.undefinedValue, Text.display n ++ " is undefined"⟩

/-- A reference to a name that nothing binds is refused, if undefined names are. -/
theorem result_interpolate_unbound {n : Text} (hn : PlainName n) (hunknown : n ∉ globalNames) {bindings : Value}
    {entries : List (Value × Value)} (hentries : renderVariables bindings = .ok entries)
    (hunbound : Value.lookupText n entries = none) :
    (interpolate .strict (variableToken n) bindings).result =
      .error (.logic (.reference (variableToken n) (unboundFault n))) := by
  have hname : (⟨true, entries, []⟩ : Surroundings).nameText n = .error (unboundFault n) :=
    nameText_of_unknown hn hunbound hunknown
  obtain ⟨m, hm, f, hf, hresult⟩ := interpolate_phrase_error hn fits_nil hentries .strict
    ⟨n, List.mem_cons_self, unboundFault n, hname⟩
  obtain rfl := List.mem_singleton.1 hm
  obtain rfl : unboundFault m = f := Except.error.inj (hname.symm.trans hf)
  rw [phrase_nil] at hresult
  exact hresult rfl

section evaluation
variable {r : Rule} (hr : r.HasPlainReferences) {config : LogicConfig} (hstrict : config.undefinedVariables = .strict)
  {entries : List (Value × Value)} (hkeys : KeyedByTexts entries) (hvalues : ∀ e ∈ entries, ∃ t, e.2 = .text t)
  (hself : Value.lookupText "self" entries = none)
include hr hstrict hkeys hvalues hself

/-- A token is refused exactly if it refers to a name that is not bound. -/
theorem result_interpolate_eq_error_iff {token : Text} (htoken : token ∈ r.tokens) {e : Failure} :
    (interpolate config.undefinedVariables token (.mapping entries)).result = .error e ↔
      ∃ n, token = variableToken n ∧ Value.lookupText n entries = none ∧
        e = .logic (.reference (variableToken n) (unboundFault n)) := by
  have hentries := renderVariables_of_keyedByTexts hkeys hself
  rw [hstrict]
  cases href : isReference token with
  | false =>
    rw [interpolate_of_not_isReference .strict href]
    constructor
    · rintro ⟨⟩
    · rintro ⟨n, rfl, -⟩
      cases href
  | true =>
    obtain ⟨n, rfl, hn, hunknown⟩ := hr token htoken href
    cases hlookup : Value.lookupText n entries with
    | none =>
      rw [result_interpolate_unbound hn hunknown hentries hlookup]
      constructor
      · rintro ⟨⟩
        exact ⟨n, rfl, hlookup, rfl⟩
      · rintro ⟨m, hm, -, rfl⟩
        rw [(List.cons.inj hm).2]
    | some v =>
      obtain ⟨t, ht⟩ := hvalues _ (Value.mem_of_lookupText hlookup)
      have htext : printed v = .ok t := by
        rw [show v = .text t from ht]
        rfl
      rw [variableToken, interpolate_variable .strict hn hentries hlookup htext]
      constructor
      · rintro ⟨⟩
      · rintro ⟨m, hm, hnone, -⟩
        rw [← (List.cons.inj hm).2, hlookup] at hnone
        cases hnone

/-- The error of a reference in which a condition ends is that of a name that is not bound. -/
theorem exists_unbound_of_holds {c : Condition} (hc : c ∈ r.conditions) {e : LogicError}
    (h : (c.holds config (.mapping entries)).result = .error (.logic e)) (hclass : e.errorClass = .template) :
    ∃ n, variableToken n ∈ c.tokens ∧ Value.lookupText n entries = none ∧
      e = .reference (variableToken n) (unboundFault n) := by
  rcases result_holds_eq_logic h with ⟨token, htoken, hinterpolate⟩ | hcomparison
  · have hmem : token ∈ r.tokens := List.mem_flatMap.2 ⟨c, hc, htoken⟩
    obtain ⟨n, rfl, hunbound, he⟩ := (result_interpolate_eq_error_iff hr hstrict hkeys hvalues hself hmem).1 hinterpolate
    exact ⟨n, htoken, hunbound, Failure.logic.inj he⟩
  · exact absurd hclass (hcomparison.errorClass_ne (by simp))

/-- A condition with a reference to a name that is not bound ends in the error of such a reference. -/
theorem exists_result_holds_of_unbound {c : Condition} (hc : c ∈ r.conditions) {n : Text}
    (htoken : variableToken n ∈ c.tokens) (hunbound : Value.lookupText n entries = none) :
    ∃ e, (c.holds config (.mapping entries)).result = .error (.logic e) ∧ e.errorClass = .template := by
  have hrefused : ∀ token ∈ c.tokens, ∀ e, (interpolate config.undefinedVariables token (.mapping entries)).result =
      .error e → ∃ l : LogicError, e = .logic l ∧ l.errorClass = .template := by
    intro token hmem e he
    obtain ⟨m, -, -, rfl⟩ := (result_interpolate_eq_error_iff hr hstrict hkeys hvalues hself
      (List.mem_flatMap.2 ⟨c, hc, hmem⟩)).1 he
    exact ⟨_, rfl, rfl⟩
  have hmiss := (result_interpolate_eq_error_iff hr hstrict hkeys hvalues hself
    (List.mem_flatMap.2 ⟨c, hc, htoken⟩)).2 ⟨n, rfl, hunbound, rfl⟩
  rw [Condition.holds]
  cases hfield : (interpolate config.undefinedVariables c.field.token (.mapping entries)).result with
  | error e =>
    obtain ⟨l, rfl, hl⟩ := hrefused _ List.mem_cons_self e hfield
    exact ⟨l, Traced.result_bind_error hfield, hl⟩
  | ok f =>
    -- the reference is not the field, so it is the comparand
    rcases List.mem_cons.1 htoken with hn | hn
    · rw [hn, hfield] at hmiss
      cases hmiss
    · rw [List.mem_singleton.1 hn] at hmiss
      exact ⟨_, (Traced.result_bind_ok hfield).trans (Traced.result_bind_error hmiss), rfl⟩

end evaluation

/-- **The names of a rule are exact.** The names of a rule of plain references are those of its references, each once, in
order. Over texts, and where undefined names are refused: if each name is bound, an evaluation ends in no error of a
reference; if it ends in one, the reference is to one of the names, which is not bound, in a condition before which all
hold; and such a reference is always found. -/
theorem variablesUsed_exact {data : Value} {r : Rule} (hdata : Rule.ofData data = .ok r) (hr : r.HasPlainReferences) :
    ∃ names, r.variablesUsed = .ok names ∧ names.Pairwise (· < ·) ∧ (∀ n, n ∈ names ↔ variableToken n ∈ r.tokens) ∧
      ∀ (config : LogicConfig) (entries : List (Value × Value)), config.undefinedVariables = .strict →
        KeyedByTexts entries → (∀ e ∈ entries, ∃ t, e.2 = .text t) → Value.lookupText "self" entries = none →
        ((∀ n ∈ names, (Value.lookupText n entries).isSome) → ∀ e,
          (evaluateRule config data (.mapping entries)).result = .error (.logic e) → e.errorClass ≠ .template) ∧
        (∀ e, (evaluateRule config data (.mapping entries)).result = .error (.logic e) → e.errorClass = .template →
          ∃ n ∈ names, e = .reference (variableToken n) (unboundFault n) ∧ Value.lookupText n entries = none ∧
            ∃ before c after, r.conditions = before ++ c :: after ∧ variableToken n ∈ c.tokens ∧
              ∀ b ∈ before, (b.holds config (.mapping entries)).result = .ok true) ∧
        ∀ before c after, r.conditions = before ++ c :: after →
          (∀ b ∈ before, (b.holds config (.mapping entries)).result = .ok true) →
          (∃ n, variableToken n ∈ c.tokens ∧ Value.lookupText n entries = none) →
            ∃ e, (evaluateRule config data (.mapping entries)).result = .error (.logic e) ∧ e.errorClass = .template := by
  obtain ⟨names, hnames, hascending, hmem⟩ := variablesUsed_of_hasPlainReferences hr
  refine ⟨names, hnames, hascending, hmem, fun config entries hstrict hkeys hvalues hself => ?_⟩
  have hevaluate : (evaluateRule config data (.mapping entries)).result =
      (allHold config (.mapping entries) 0 r.conditions).result := by
    rw [result_evaluateRule, hdata, variablesOrNone_mapping]
    rfl
  have hmissed : ∀ e, (evaluateRule config data (.mapping entries)).result = .error (.logic e) → e.errorClass = .template →
      ∃ n ∈ names, e = .reference (variableToken n) (unboundFault n) ∧ Value.lookupText n entries = none ∧
        ∃ before c after, r.conditions = before ++ c :: after ∧ variableToken n ∈ c.tokens ∧
          ∀ b ∈ before, (b.holds config (.mapping entries)).result = .ok true := by
    intro e he hclass
    rw [hevaluate] at he
    obtain ⟨before, c, after, hconditions, hbefore, hc⟩ := (result_allHold_eq_error_iff _ _).1 he
    have hcondition : c ∈ r.conditions := by simp [hconditions]
    obtain ⟨n, htoken, hunbound, rfl⟩ := exists_unbound_of_holds hr hstrict hkeys hvalues hself hcondition hc hclass
    exact ⟨n, (hmem n).2 (List.mem_flatMap.2 ⟨c, hcondition, htoken⟩), rfl, hunbound, before, c, after, hconditions,
      htoken, hbefore⟩
  refine ⟨fun hbound e he hclass => ?_, hmissed, ?_⟩
  · obtain ⟨n, hn, -, hnone, -⟩ := hmissed e he hclass
    have hsome := hbound n hn
    rw [hnone] at hsome
    cases hsome
  · rintro before c after hconditions hbefore ⟨n, htoken, hunbound⟩
    obtain ⟨e, he, hclass⟩ := exists_result_holds_of_unbound hr hstrict hkeys hvalues hself
      (by simp [hconditions]) htoken hunbound
    refine ⟨e, ?_, hclass⟩
    rw [hevaluate]
    exact (result_allHold_eq_error_iff _ _).2 ⟨before, c, after, hconditions, hbefore, he⟩

/-- A rule with a bare text that holds a mark, a negated reference, and a reference that stands twice. -/
def referringTwice : Rule := ⟨[⟨⟨"$y", false⟩, .bare "US$"⟩, ⟨⟨"$x", true⟩, .under .ne "$y"⟩]⟩

theorem hasPlainReferences_referringTwice : referringTwice.HasPlainReferences := by
  intro token htoken href
  have hcases : token = "$y" ∨ token = "US$" ∨ token = "$x" ∨ token = "$y" := by
    simpa [referringTwice, Rule.tokens, Condition.tokens, Comparison.value] using htoken
  have hunknown : ("x" : Text) ∉ globalNames ∧ ("y" : Text) ∉ globalNames := by decide
  rcases hcases with rfl | rfl | rfl | rfl
  · exact ⟨"y", variableToken_y, plainName_y, hunknown.2⟩
  · exact absurd href (by decide)
  · exact ⟨"x", variableToken_x, plainName_x, hunknown.1⟩
  · exact ⟨"y", variableToken_y, plainName_y, hunknown.2⟩

theorem variablesUsed_exact_twice :
    Rule.ofData (.list [.text "$y", .text "US$", .text "!$x", .mapping [(.text "ne", .text "$y")]]) =
        .ok referringTwice ∧
      referringTwice.HasPlainReferences ∧ LogicConfig.standard.undefinedVariables = .strict ∧
      KeyedByTexts [(.text "y", .text "US$")] ∧
      (∀ e ∈ ([(.text "y", .text "US$")] : List (Value × Value)), ∃ t, e.2 = .text t) ∧
      Value.lookupText "self" [(.text "y", .text "US$")] = none ∧
      ∃ names, referringTwice.variablesUsed = .ok names ∧ names.Pairwise (· < ·) ∧
        (∀ n, n ∈ names ↔ variableToken n ∈ referringTwice.tokens) ∧
        ∃ e n, (evaluateRule .standard
            (.list [.text "$y", .text "US$", .text "!$x", .mapping [(.text "ne", .text "$y")]])
            (.mapping [(.text "y", .text "US$")])).result = .error (.logic e) ∧
          n ∈ names ∧ e = .reference (variableToken n) (unboundFault n) := by
  have hdata : Rule.ofData (.list [.text "$y", .text "US$", .text "!$x", .mapping [(.text "ne", .text "$y")]]) =
      .ok referringTwice := by decide +kernel
  have hkeys : KeyedByTexts [(.text "y", .text "US$")] := by simp [KeyedByTexts]
  have hvalues : ∀ e ∈ ([(.text "y", .text "US$")] : List (Value × Value)), ∃ t, e.2 = .text t := by simp
  have hself : Value.lookupText "self" [(.text "y", .text "US$")] = none := by
    simp [Value.lookupText, Value.lookup, Value.equal, not_same_self]
  have hunbound : Value.lookupText "x" [(.text "y", .text "US$")] = none := by
    simp [Value.lookupText, Value.lookup, Value.equal, show Text.same "y" "x" = false by decide]
  have hfirst : ((⟨⟨"$y", false⟩, .bare "US$"⟩ : Condition).holds .standard (.mapping [(.text "y", .text "US$")])).result =
      .ok true := by decide +kernel
  obtain ⟨names, hnames, hascending, hmem, hevaluate⟩ := variablesUsed_exact hdata hasPlainReferences_referringTwice
  obtain ⟨-, hmissed, hfound⟩ := hevaluate .standard _ rfl hkeys hvalues hself
  obtain ⟨e, he, hclass⟩ := hfound [_] _ [] rfl (List.forall_mem_singleton.2 hfirst)
    ⟨"x", by rw [← variableToken_x]; exact List.mem_cons_self, hunbound⟩
  obtain ⟨n, hn, hreference, -⟩ := hmissed e he hclass
  exact ⟨hdata, hasPlainReferences_referringTwice, rfl, hkeys, hvalues, hself, names, hnames, hascending, hmem, e, n, he, hn,
    hreference⟩

end Rulebook
