import Rulebook.Comparison.Operand
import Rulebook.Expression.Evaluate
import Rulebook.Pattern.Search
import Rulebook.Rule.Reader

/-!
# Comparisons

A comparison of two texts under an operator. Relations are rendered as a literal-only expression, which is
evaluated; the search checks its pattern before it compiles it.
-/

namespace Rulebook

/-- The symbol of a relational operator in expressions. -/
def Operator.symbol : Operator → String
  | .eq => "=="
  | .ne => "!="
  | .lt => "<"
  | .gt => ">"
  | .numEq => "=="
  | .numLt => "<"
  | .numGt => ">"
  | .search => ""

/-- The kinds of faults of an expression that become errors of the comparison: the expression is refused or not well
formed, or its values or their kinds do not fit, or an operator is in no table. -/
def comparisonFaults : List FaultKind :=
  [.featureUnavailable, .operatorUndefined, .expressionInvalid, .literalTooLong, .expressionSyntax,
    .expressionIndentation, .expressionTabs, .wrongType, .badValue, .unencodable, .missingKey]

/-- Evaluates an expression under the policy that allows nothing but comparisons of literals. -/
def evaluatePolicy (expression : Text) : Traced Value :=
  match Expression.evaluate expression with
  | .ok v => pure v
  | .error fault =>
    if comparisonFaults.contains fault.kind then do
      Traced.report .comparator .error "sandbox_evaluation_error"
        [("expression", .text expression), ("error", .text fault.message)]
      Traced.logicError (.comparison expression fault)
    else Traced.fail (.fault fault)

/-- A relation between two texts. -/
def relate (field value : Text) (op : Operator) : Traced Bool := do
  let left ← renderOperand field op
  let right ← renderOperand value op
  let expression := left ++ [0x20] ++ (op.symbol : Text) ++ [0x20] ++ right
  Traced.report .comparator .debug "rule_comparison"
    [("expression", .text expression), ("operator", .text op.spelling)]
  return (← evaluatePolicy expression).truth

/-- The search for a pattern in a text. -/
def searchPattern (maxPatternLength : Int) (field pattern : Text) : Traced Bool :=
  match checkPattern pattern with
  | .error e => do
    Traced.report .comparator .error "unsafe_regex_rejected" [("pattern", .text pattern)]
    Traced.logicError e
  | .ok () =>
    if maxPatternLength < pattern.length then do
      Traced.report .comparator .error "regex_too_long"
        [("pattern_length", .int pattern.length), ("max_pattern_length", .int maxPatternLength)]
      Traced.logicError (.patternTooLong maxPatternLength pattern)
    else
      match Pattern.compile pattern with
      | .error fault =>
        if fault.kind == .patternSyntax then do
          Traced.report .comparator .error "invalid_regex"
            [("pattern", .text pattern), ("error", .text fault.message)]
          Traced.logicError (.invalidPattern pattern fault)
        else Traced.fail (.fault fault)
      | .ok program => do
        Traced.report .comparator .debug "rule_regex_match" [("field", .text field), ("pattern", .text pattern)]
        return program.search field

/-- A comparison of two texts under an operator; the negation reverses its result. -/
def compareTexts (maxPatternLength : Int) (field value : Text) (op : Operator) (negate : Bool) : Traced Bool := do
  let result ← if op.isRegex then searchPattern maxPatternLength field value else relate field value op
  return if negate then !result else result

/-- A comparison of a raw field token, which may be negated, under an operator name. -/
def evaluateSingle (maxPatternLength : Int) (field value name : Text) : Traced Bool := do
  let ref := FieldRef.parse field
  let op ← Traced.lift (parseOperator name)
  compareTexts maxPatternLength ref.token value op ref.negated

end Rulebook
