import Rulebook.Proofs.Comparison.Shown
import Rulebook.Proofs.Rule.Variables

/-!
# Numbers as variables

A rule that compares a variable over a number with another number, in a variable or written in the rule, compares the
numbers exactly, although it is their texts that are compared. One case is left out: the word of an infinity is no
number text, and has no order with the text of a finite number.
-/

namespace Rulebook
open Template

variable (config : LogicConfig) {a b : Value} {x y : ExtendedRational} {name : Text} {op : Operator}

/-- The text of a number tells no address. -/
theorem IsNumeral.printed_eq (h : IsNumeral a x) : printed a = a.plain := by
  cases h <;> rfl

/-- Both forms of a rule over two numbers compare the texts that show them. -/
theorem exists_shows_evaluateRule (ha : IsNumeral a x) (hb : IsNumeral b y) (hname : Operator.parse name = .ok op)
    (hop : op ∈ Operator.numeric) :
    ∃ f v, Shows f a x ∧ Shows v b y ∧
      (evaluateRule config (.list [.text "$x", .mapping [(.text name, .text "$y")]])
          (.mapping [(.text "x", a), (.text "y", b)])).result =
        (compareTexts config.maxPatternLength f v op false).result ∧
      (evaluateRule config (.list [.text "$x", .mapping [(.text name, b)]]) (.mapping [(.text "x", a)])).result =
        (compareTexts config.maxPatternLength f v op false).result := by
  obtain ⟨f, hshowsf, hf, -⟩ := ha.exists_shows
  obtain ⟨v, hshowsv, hv, hscalar⟩ := hb.exists_shows
  have hregex := Operator.not_isRegex_of_numeric hop
  have hprinted := ha.printed_eq.trans hf
  have hbound := result_evaluateRule_x_y config hname hprinted (hb.printed_eq.trans hv) false
  have hwritten := result_evaluateRule_x config hname hregex hprinted (hscalar .comparand) hshowsv.not_isReference
  rw [← show ("$x" : Text) = fieldToken false (variableToken "x") from variableToken_x] at hbound
  exact ⟨f, v, hshowsf, hshowsv, hbound, hwritten⟩

/-- A numeric operator compares two numbers exactly, whether the second is in a variable or written in the rule, unless
it is to order an infinity and a finite number: that is an evaluation error. -/
theorem evaluateRule_numbers (ha : IsNumeral a x) (hb : IsNumeral b y) (hname : Operator.parse name = .ok op)
    (hop : op ∈ Operator.numeric) :
    (¬Unordered a b op →
      (evaluateRule config (.list [.text "$x", .mapping [(.text name, .text "$y")]])
          (.mapping [(.text "x", a), (.text "y", b)])).result = .ok (decide (op.relation.On x y)) ∧
      (evaluateRule config (.list [.text "$x", .mapping [(.text name, b)]]) (.mapping [(.text "x", a)])).result =
        .ok (decide (op.relation.On x y))) ∧
    (Unordered a b op →
      EndsInEvaluationError (evaluateRule config (.list [.text "$x", .mapping [(.text name, .text "$y")]])
          (.mapping [(.text "x", a), (.text "y", b)])) ∧
      EndsInEvaluationError
        (evaluateRule config (.list [.text "$x", .mapping [(.text name, b)]]) (.mapping [(.text "x", a)]))) := by
  obtain ⟨f, v, hf, hv, hbound, hwritten⟩ := exists_shows_evaluateRule config ha hb hname hop
  constructor
  · intro h
    have hresult := result_compareTexts_shown config.maxPatternLength hop hf hv h
    exact ⟨hbound.trans hresult, hwritten.trans hresult⟩
  · intro h
    obtain ⟨error, herror, hclass⟩ := evaluationError_of_unordered config.maxPatternLength hop hf hv h
    exact ⟨⟨error, hbound.trans herror, hclass⟩, ⟨error, hwritten.trans herror, hclass⟩⟩

/-- An integer that no double holds is greater than the double next to it. -/
theorem evaluateRule_numbers_exact :
    IsNumeral (.int 9007199254740993) (.ofRat 9007199254740993) ∧
    IsNumeral (.float (.finite false 4503599627370496 1)) (.ofRat 9007199254740992) ∧
    (evaluateRule .standard (.list [.text "$x", .mapping [(.text ">", .text "$y")]])
        (.mapping [(.text "x", .int 9007199254740993), (.text "y", .float (.finite false 4503599627370496 1))])).result =
      .ok true := by
  have ha : IsNumeral (.int 9007199254740993) (.ofRat 9007199254740993) := by
    have h := IsNumeral.int (n := 9007199254740993) (by decide +kernel)
    norm_num at h
    exact h
  have hb : IsNumeral (.float (.finite false 4503599627370496 1)) (.ofRat 9007199254740992) := by
    have h := IsNumeral.finite false (m := 4503599627370496) (e := 1) ⟨by decide, by decide, by decide, .inr (by decide)⟩
    norm_num [Double.finiteValue] at h
    exact h
  have hname : Operator.parse ">" = .ok .numGt := Operator.parse_of_ascii (by decide) (by decide)
  have hgreater : Operator.numGt.relation.On (ExtendedRational.ofRat 9007199254740993)
      (.ofRat 9007199254740992) := ExtendedRational.ofRat_lt.2 (by norm_num)
  refine ⟨ha, hb, ?_⟩
  rw [((evaluateRule_numbers .standard ha hb hname (by decide)).1 fun h => h.1 rfl).1, decide_eq_true hgreater]

/-- An infinity is greater than one, but the rule that says so ends in an error. -/
theorem evaluateRule_infinity :
    IsNumeral (.float (.infinite false)) ⊤ ∧ IsNumeral (.int 1) (.ofRat 1) ∧
    Operator.parse ">" = .ok .numGt ∧ Operator.numGt.relation.On (⊤ : ExtendedRational) (.ofRat 1) ∧
    EndsInEvaluationError (evaluateRule .standard (.list [.text "$x", .mapping [(.text ">", .text "$y")]])
      (.mapping [(.text "x", .float (.infinite false)), (.text "y", .int 1)])) := by
  have ha : IsNumeral (.float (.infinite false)) ⊤ := .infinite false
  have hb : IsNumeral (.int 1) (.ofRat 1) := by
    have h := IsNumeral.int (n := 1) (by decide +kernel)
    norm_num at h
    exact h
  have hname : Operator.parse ">" = .ok .numGt := Operator.parse_of_ascii (by decide) (by decide)
  have hop : Operator.numGt ∈ Operator.numeric := by decide
  have hgreater : Operator.numGt.relation.On (⊤ : ExtendedRational) (.ofRat 1) :=
    WithBot.coe_lt_coe.2 (WithTop.coe_lt_top 1)
  obtain ⟨f, v, hf, hv, hbound, -⟩ := exists_shows_evaluateRule .standard ha hb hname hop
  obtain ⟨error, herror, hclass⟩ := evaluationError_of_unordered 1000 hop hf hv ⟨nofun, nofun⟩
  exact ⟨ha, hb, hname, hgreater, error, hbound.trans herror, hclass⟩

end Rulebook
