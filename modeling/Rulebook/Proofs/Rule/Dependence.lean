import Rulebook.Proofs.Rule.Evaluation
import Rulebook.Proofs.Rule.Names
import Rulebook.Proofs.Rule.Reached
import Rulebook.Proofs.Template.Agreement
import Rulebook.Proofs.Template.Interpolation
import Rulebook.Proofs.Template.Outside

/-!
# What an evaluation depends on

An evaluation looks at the variables whose names the rule reports, at variables that bind a name which every template
knows anew if a reference takes that name from outside, and at whether there is a variable `self`, which no reference
can be rendered with. It looks at no other variable.
-/

namespace Rulebook
open Template

/-- The reference takes a name from outside that every template knows. -/
def TakesKnown (token n : Text) : Prop :=
  n ∈ globalNames ∧ ∃ statements, Template.read (toTemplate token) = .ok statements ∧ n ∈ namesFromOutside statements

section agreement
variable {entries others : List (Value × Value)} (hkeys : KeyedByTexts entries) (hothers : KeyedByTexts others)
include hkeys hothers

/-- A template is rendered alike for variables that agree on what it takes from outside, and on whether there is a
variable `self`. -/
theorem renderTemplate_congr (policy : UndefinedPolicy) {source : Text}
    (hself : (Value.lookupText "self" entries).isSome = (Value.lookupText "self" others).isSome)
    (hagree : ∀ statements, Template.read source = .ok statements → ∀ n ∈ namesFromOutside statements,
      Value.lookupText n entries = Value.lookupText n others) :
    renderTemplate policy source (.mapping entries) = renderTemplate policy source (.mapping others) := by
  unfold renderTemplate
  cases hread : Template.read source with
  | error f => rfl
  | ok statements =>
    simp only [ok_bind]
    cases hp : compile (policy == .strict) statements with
    | error f => rfl
    | ok p =>
      rw [ok_bind, ok_bind, renderVariables_eq_of_keyedByTexts hkeys, renderVariables_eq_of_keyedByTexts hothers, hself]
      split
      · rfl
      · refine render_congr (fun b hb n hn => ?_) _ _
        exact hagree statements hread n (names_subset_of_mem_bodies (compile_eq_ok_iff.1 hp).1 hb hn)

/-- A token stands for the same for such variables. -/
theorem interpolate_congr (policy : UndefinedPolicy) {token : Text}
    (hself : isReference token = true →
      (Value.lookupText "self" entries).isSome = (Value.lookupText "self" others).isSome)
    (hagree : isReference token = true → ∀ statements, Template.read (toTemplate token) = .ok statements →
      ∀ n ∈ namesFromOutside statements, Value.lookupText n entries = Value.lookupText n others) :
    interpolate policy token (.mapping entries) = interpolate policy token (.mapping others) := by
  unfold interpolate
  split
  · next href => rw [renderTemplate_congr hkeys hothers policy (hself href) (hagree href)]
  · rfl

end agreement

/-- A condition ends alike, and reports the same on the way, if each of its tokens stands for the same. -/
theorem holds_congr {config : LogicConfig} {bindings others : Value} {c : Condition}
    (h : ∀ token ∈ c.tokens,
      interpolate config.undefinedVariables token bindings = interpolate config.undefinedVariables token others) :
    c.holds config bindings = c.holds config others := by
  simp only [Condition.holds, h c.field.token (by simp [Condition.tokens]),
    h c.comparison.value (by simp [Condition.tokens])]

/-- Conditions end alike together if each of them does. -/
theorem allHold_congr {config : LogicConfig} {bindings others : Value} {conditions : List Condition}
    (h : ∀ c ∈ conditions, c.holds config bindings = c.holds config others) (index : Nat) :
    allHold config bindings index conditions = allHold config others index conditions := by
  induction conditions generalizing index with
  | nil => rfl
  | cons c rest ih =>
    obtain ⟨hc, hrest⟩ := List.forall_mem_cons.1 h
    simp only [allHold, hc, ih hrest]

/-- A rule whose names can be read, and whose evaluation keeps to the offer, is evaluated alike for two environments that
agree on these names, on the names every template knows which its references take from outside, and on whether there
is a variable `self`. The other evaluation keeps to the offer too. -/
theorem evaluateRule_congr_variables (config : LogicConfig) {data : Value} {r : Rule} {names : List Text}
    (hdata : Rule.ofData data = .ok r) (hnames : r.variablesUsed = .ok names) {entries others : List (Value × Value)}
    (hkeys : KeyedByTexts entries) (hothers : KeyedByTexts others) (hoffer : r.KeepsToOffer config (.mapping entries))
    (hagree : ∀ n ∈ names, Value.lookupText n entries = Value.lookupText n others)
    (hknown : ∀ token ∈ r.tokens, isReference token = true → ∀ n, TakesKnown token n →
      Value.lookupText n entries = Value.lookupText n others)
    (hself : (∃ token ∈ r.tokens, isReference token = true) →
      (Value.lookupText "self" entries).isSome = (Value.lookupText "self" others).isSome) :
    evaluateRule config data (.mapping entries) = evaluateRule config data (.mapping others) ∧
      r.KeepsToOffer config (.mapping others) := by
  have hbindings : ∀ es : List (Value × Value), variablesOrNone (.mapping es) = .mapping es := by
    intro es
    cases es <;> rfl
  have htoken : ∀ token ∈ r.tokens, interpolate config.undefinedVariables token (.mapping entries) =
      interpolate config.undefinedVariables token (.mapping others) := by
    intro token ht
    refine interpolate_congr hkeys hothers _ (fun href => hself ⟨token, ht, href⟩) fun href statements hread n hn => ?_
    obtain ⟨statements', p, hread', -, hsubset⟩ := exists_statements_of_variablesUsed hnames ht href
    obtain rfl : statements = statements' := Except.ok.inj (hread.symm.trans hread')
    by_cases hglobal : n ∈ globalNames
    · exact hknown token ht href n ⟨hglobal, statements, hread, hn⟩
    · exact hagree n (hsubset (mem_undeclaredNames.2 ⟨hn, hglobal⟩))
  have hholds : ∀ c ∈ r.conditions, c.holds config (.mapping entries) = c.holds config (.mapping others) := fun c hc =>
    holds_congr fun token ht => htoken token (List.mem_flatMap.2 ⟨c, hc, ht⟩)
  constructor
  · simp only [evaluateRule, hdata, hbindings]
    exact congrArg reportingErrors (allHold_congr hholds 0)
  · rintro c ⟨before, after, hsplit, hbefore⟩
    have hmem : ∀ b ∈ before ++ [c], b ∈ r.conditions := by
      intro b hb
      rw [hsplit, List.append_cons]
      exact List.mem_append_left _ hb
    rw [← hholds c (hmem c (by simp))]
    refine hoffer c ⟨before, after, hsplit, fun b hb => ?_⟩
    rw [hholds b (hmem b (List.mem_append_left _ hb))]
    exact hbefore b hb

/-- Both environments bind what the rule takes from outside, and one of them binds another variable besides. -/
theorem evaluateRule_congr_variables_known :
    Rule.variablesUsed ⟨[⟨⟨"$a", false⟩, .bare "$range"⟩]⟩ = .ok ["a"] ∧
      evaluateRule .standard (.list [.text "$a", .text "$range"])
          (.mapping [(.text "a", .text "1"), (.text "range", .text "1"), (.text "b", .text "2")]) =
        evaluateRule .standard (.list [.text "$a", .text "$range"])
          (.mapping [(.text "a", .text "1"), (.text "range", .text "1")]) := by
  have hdata : Rule.ofData (.list [.text "$a", .text "$range"]) = .ok ⟨[⟨⟨"$a", false⟩, .bare "$range"⟩]⟩ := by
    decide
  have hnames : Rule.variablesUsed ⟨[⟨⟨"$a", false⟩, .bare "$range"⟩]⟩ = .ok ["a"] := by decide +kernel
  have hlookup : ∀ n : Text, n ≠ "b" →
      Value.lookupText n [(.text "a", .text "1"), (.text "range", .text "1"), (.text "b", .text "2")] =
        Value.lookupText n [(.text "a", .text "1"), (.text "range", .text "1")] := by
    intro n hn
    simp [Value.lookupText, Value.lookup, Value.equal, Text.same_iff, Ne.symm hn]
  have hglobal : ∀ n ∈ globalNames, n ≠ "b" := by decide
  have hends : (Condition.holds .standard
      (.mapping [(.text "a", .text "1"), (.text "range", .text "1"), (.text "b", .text "2")])
      ⟨⟨"$a", false⟩, .bare "$range"⟩).result = .ok true := by decide +kernel
  refine ⟨hnames, (evaluateRule_congr_variables .standard hdata hnames ?_ ?_ ?_ ?_ ?_ ?_).1⟩
  · simp [KeyedByTexts]
  · simp [KeyedByTexts]
  · rintro c ⟨before, after, hsplit, -⟩
    have hmem : c ∈ before ++ c :: after := by simp
    rw [← hsplit, List.mem_singleton] at hmem
    subst hmem
    refine ⟨by decide +kernel, fun f hf => ?_⟩
    cases hends.symm.trans hf
  · exact fun n hn => hlookup n (by rw [List.mem_singleton.1 hn]; decide)
  · exact fun token _ _ n hn => hlookup n (hglobal n hn.1)
  · exact fun _ => congrArg Option.isSome (hlookup "self" (by decide))

/-- Agreement on the names that a rule reports is not enough: a variable `self`, which no reference asks for, makes
every reference fail. -/
theorem evaluateRule_self :
    ¬∀ (config : LogicConfig) (r : Rule) (names : List Text) (entries others : List (Value × Value)),
      r.variablesUsed = .ok names → KeyedByTexts entries → KeyedByTexts others →
        (∀ n ∈ names, Value.lookupText n entries = Value.lookupText n others) →
          ∀ b, (evaluateRule config (.rule r) (.mapping entries)).result = .ok b →
            (evaluateRule config (.rule r) (.mapping others)).result = .ok b := by
  intro h
  have hnames : Rule.variablesUsed ⟨[⟨⟨"$a", false⟩, .bare "1"⟩]⟩ = .ok ["a"] := by decide +kernel
  have hholds : (evaluateRule .standard (.rule ⟨[⟨⟨"$a", false⟩, .bare "1"⟩]⟩)
      (.mapping [(.text "a", .text "1")])).result = .ok true := by decide +kernel
  have hfails : (evaluateRule .standard (.rule ⟨[⟨⟨"$a", false⟩, .bare "1"⟩]⟩)
      (.mapping [(.text "a", .text "1"), (.text "self", .text "x")])).result =
        .error (.logic (.reference "$a"
          (Fault.wrongType "Template.render() got multiple values for argument 'self'"))) := by
    decide +kernel
  have hagree : ∀ n ∈ (["a"] : List Text), Value.lookupText n [(.text "a", .text "1")] =
      Value.lookupText n [(.text "a", .text "1"), (.text "self", .text "x")] := by
    intro n hn
    rw [List.mem_singleton.1 hn]
    simp [Value.lookupText, Value.lookup, Value.equal]
  have hself := h .standard _ _ _ _ hnames (by simp [KeyedByTexts]) (by simp [KeyedByTexts]) hagree true hholds
  rw [hfails] at hself
  cases hself

/-- A name that every template knows is read from the variables, and yet it is not reported. -/
example : Rule.variablesUsed ⟨[⟨⟨"$range", false⟩, .bare "x"⟩]⟩ = .ok [] ∧
    (evaluateRule .standard (.list [.text "$range", .text "x"]) (.mapping [])).result = .ok false ∧
    (evaluateRule .standard (.list [.text "$range", .text "x"]) (.mapping [(.text "range", .text "x")])).result =
      .ok true := by
  decide +kernel

end Rulebook
