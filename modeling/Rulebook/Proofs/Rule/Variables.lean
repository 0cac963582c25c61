import Rulebook.Proofs.Rule.Evaluation
import Rulebook.Proofs.Template.Interpolation

/-!
# Values of variables

A rule that compares one variable with another compares the texts they are bound to. Neither text is read again:
a mark of a negation or of a variable, a placeholder, a quote or a backslash in it is a sign like any other.
-/

namespace Rulebook
open Template

/-- A field token, with the mark of a negation before it if it is negated. -/
def fieldToken (negate : Bool) (token : Text) : Text := if negate then negationMark :: token else token

theorem parse_fieldToken (negate : Bool) (n : Text) :
    FieldRef.parse (fieldToken negate (variableToken n)) = ⟨variableToken n, negate⟩ := by
  cases negate <;> simp [fieldToken, variableToken, FieldRef.parse, negationMark, variableMark]

theorem Text.hasPart_eq_false {c : CodePoint} (part : Text) {t : Text} (h : c ∉ t) :
    Text.hasPart (c :: part) t = false := by
  induction t with
  | nil => rfl
  | cons d t ih =>
    rw [List.mem_cons, not_or] at h
    simp [Text.hasPart, h.1, ih h.2]

/-- A reference to a plain name holds no inline code. -/
theorem checkPattern_variable {n : Text} (hn : PlainName n) : checkPattern (variableToken n) = .ok () := by
  have hmark : (0x3f : CodePoint) ∉ variableToken n := by
    have hsign : (0x3f : CodePoint) ∉ n := fun h => absurd (hn.sign _ h) (by decide)
    simp [variableToken, variableMark, hsign]
  simp [checkPattern, inlineCodeMark, Text.hasPart_eq_false _ hmark]

/-- A rule of a single comparison under an operator is read as that. -/
theorem ofData_comparison {field name value : Text} {op : Operator} {comparand : Value}
    (hop : Operator.parse name = .ok op) (hcomparand : scalarText .comparand comparand = .ok value)
    (hvalue : op.isRegex = true → checkPattern value = .ok ()) :
    Rule.ofData (.list [.text field, .mapping [(.text name, comparand)]]) =
      .ok ⟨[⟨FieldRef.parse field, .under op value⟩]⟩ := by
  have hcomparison : parseComparison (.mapping [(.text name, comparand)]) = .ok (.under op value) := by
    have hname : scalarText .operator (.text name) = .ok name := rfl
    have hoperator : parseOperator name = .ok op := by simp [parseOperator, hop]
    simp only [parseComparison, hname, hoperator, hcomparand, ok_bind]
    by_cases hregex : op.isRegex = true
    · simp [hregex, hvalue hregex, liftLogic]
    · simp [hregex]
  simp [Rule.ofData, Value.asSequence?, parseConditions, scalarText, hcomparison]

/-- A rule of a single comparison ends as the comparison of what its two sides stand for. -/
theorem result_evaluateRule_comparison (config : LogicConfig) {field name value f v : Text} {op : Operator}
    {comparand bindings : Value} (hop : Operator.parse name = .ok op)
    (hcomparand : scalarText .comparand comparand = .ok value)
    (hvalue : op.isRegex = true → checkPattern value = .ok ()) (htruth : bindings.truth = true)
    (hf : interpolate config.undefinedVariables (FieldRef.parse field).token bindings = pure f)
    (hv : interpolate config.undefinedVariables value bindings = pure v) :
    (evaluateRule config (.list [.text field, .mapping [(.text name, comparand)]]) bindings).result =
      (compareTexts config.maxPatternLength f v op (FieldRef.parse field).negated).result := by
  have hbindings : variablesOrNone bindings = bindings := by simp [variablesOrNone, htruth]
  rw [result_evaluateRule, ofData_comparison hop hcomparand hvalue, hbindings]
  show (allHold config bindings 0 [_]).result = _
  rw [result_allHold_singleton]
  exact result_holds hf hv

/-- A comparison of two variables is the comparison of the texts of the values that they are bound to. -/
theorem result_evaluateRule_variables (config : LogicConfig) {a b f v name : Text} {op : Operator} {x y : Value}
    (ha : PlainName a) (hb : PlainName b) (hop : Operator.parse name = .ok op) (negate : Bool) {bindings : Value}
    {entries : List (Value × Value)} (htruth : bindings.truth = true)
    (hentries : renderVariables bindings = .ok entries) (hx : Value.lookupText a entries = some x)
    (hf : printed x = .ok f) (hy : Value.lookupText b entries = some y) (hv : printed y = .ok v) :
    (evaluateRule config
        (.list [.text (fieldToken negate (variableToken a)), .mapping [(.text name, .text (variableToken b))]])
        bindings).result =
      (compareTexts config.maxPatternLength f v op negate).result := by
  have hfield : interpolate config.undefinedVariables
      (FieldRef.parse (fieldToken negate (variableToken a))).token bindings = pure f := by
    rw [parse_fieldToken]
    exact interpolate_variable config.undefinedVariables ha hentries hx hf
  have hvalue := interpolate_variable config.undefinedVariables hb hentries hy hv
  have hcomparand : scalarText .comparand (.text (variableToken b)) = .ok (variableToken b) := rfl
  have h := result_evaluateRule_comparison config hop hcomparand (fun _ => checkPattern_variable hb) htruth hfield
    hvalue
  rwa [parse_fieldToken] at h

/-! ### Two variables -/

section pair
variable (config : LogicConfig) {name f v : Text} {op : Operator} (hop : Operator.parse name = .ok op) {x y : Value}

theorem variableToken_x : ("$x" : Text) = variableToken "x" := by decide

theorem variableToken_y : ("$y" : Text) = variableToken "y" := by decide

theorem not_same_self : Text.same "x" "self" = false ∧ Text.same "y" "self" = false := by decide

theorem not_same_x_y : Text.same "x" "y" = false := by decide

theorem renderVariables_x : renderVariables (.mapping [(.text "x", x)]) = .ok [(.text "x", x)] := by
  simp [renderVariables, Value.lookupText, Value.lookup, Value.equal, not_same_self]

theorem renderVariables_x_y :
    renderVariables (.mapping [(.text "x", x), (.text "y", y)]) = .ok [(.text "x", x), (.text "y", y)] := by
  simp [renderVariables, Value.lookupText, Value.lookup, Value.equal, not_same_self]

include hop

/-- A comparison of two variables over values that have a text. -/
theorem result_evaluateRule_x_y (hf : printed x = .ok f) (hv : printed y = .ok v) (negate : Bool) :
    (evaluateRule config
        (.list [.text (fieldToken negate (variableToken "x")), .mapping [(.text name, .text "$y")]])
        (.mapping [(.text "x", x), (.text "y", y)])).result =
      (compareTexts config.maxPatternLength f v op negate).result := by
  have hx : Value.lookupText "x" [(.text "x", x), (.text "y", y)] = some x := by
    simp [Value.lookupText, Value.lookup, Value.equal]
  have hy : Value.lookupText "y" [(.text "x", x), (.text "y", y)] = some y := by
    simp [Value.lookupText, Value.lookup, Value.equal, not_same_x_y]
  rw [variableToken_y]
  exact result_evaluateRule_variables config plainName_x plainName_y hop negate rfl renderVariables_x_y hx hf hy hv

/-- A comparison of a variable over a value that has a text with a comparand that refers to no variable. -/
theorem result_evaluateRule_x (hregex : op.isRegex = false) {comparand : Value} (hf : printed x = .ok f)
    (hcomparand : scalarText .comparand comparand = .ok v) (hv : isReference v = false) :
    (evaluateRule config (.list [.text "$x", .mapping [(.text name, comparand)]])
        (.mapping [(.text "x", x)])).result =
      (compareTexts config.maxPatternLength f v op false).result := by
  have hx : Value.lookupText "x" [(.text "x", x)] = some x := by
    simp [Value.lookupText, Value.lookup, Value.equal]
  have hparse : FieldRef.parse "$x" = ⟨variableToken "x", false⟩ := by
    rw [variableToken_x]
    exact parse_fieldToken false "x"
  have hfield : interpolate config.undefinedVariables (FieldRef.parse "$x").token (.mapping [(.text "x", x)]) =
      pure f := by
    rw [hparse]
    exact interpolate_variable config.undefinedVariables plainName_x renderVariables_x hx hf
  have hvalue := interpolate_of_not_isReference config.undefinedVariables hv (.mapping [(.text "x", x)])
  have hpattern : op.isRegex = true → checkPattern v = .ok () := fun h => absurd (hregex.symm.trans h) Bool.false_ne_true
  rw [result_evaluateRule_comparison config hop hcomparand hpattern rfl hfield hvalue, hparse]

end pair

/-- Whatever texts two variables are bound to, a rule that compares them ends exactly as the comparison of the
texts themselves: in the same truth value, or in the same error. -/
theorem evaluateRule_variables (config : LogicConfig) (f v name : Text) (op : Operator)
    (hop : Operator.parse name = .ok op) (negate : Bool) :
    (evaluateRule config
        (.list [.text (if negate then "!$x" else "$x"), .mapping [(.text name, .text "$y")]])
        (.mapping [(.text "x", .text f), (.text "y", .text v)])).result =
      (compareTexts config.maxPatternLength f v op negate).result := by
  have hfield : (if negate then ("!$x" : Text) else "$x") = fieldToken negate (variableToken "x") := by
    cases negate <;> decide
  rw [hfield]
  exact result_evaluateRule_x_y config hop rfl rfl negate

/-- Texts that look like a negated reference and like a placeholder, under a spelling of the search. -/
theorem evaluateRule_variables_marks :
    Operator.parse "LIKE" = .ok .search ∧
      (evaluateRule .standard (.list [.text "!$x", .mapping [(.text "LIKE", .text "$y")]])
          (.mapping [(.text "x", .text "!$y"), (.text "y", .text "\x7b\x7b x \x7d\x7d")])).result =
        (compareTexts 1000 "!$y" "\x7b\x7b x \x7d\x7d" .search true).result :=
  have hop : Operator.parse "LIKE" = .ok .search := Operator.parse_of_ascii (by decide) (by decide)
  ⟨hop, evaluateRule_variables .standard _ _ _ _ hop true⟩

end Rulebook
