import Rulebook.Expression.Build

/-!
# Patterns

The phrases of case distinctions.
-/

namespace Rulebook.Expression

open Phrase Item

/-- The alternatives of each of these phrases. -/
def patternRule : Phrase → List Alternative
  | .matchStatement =>
    [⟨[soft "match", matchSubject, ":", newline, indent, atLeastOne caseBlock, dedent], leaf (.statement "Match")⟩,
     ⟨[check faultyMatch], pass⟩]
  | .matchSubject =>
    [⟨[starNamedExpression, ",", optional [[starNamedExpressions]]], pass⟩,
     ⟨[namedExpression], pass⟩]
  | .caseBlock =>
    [⟨[check faultyCase], pass⟩,
     ⟨[soft "case", casePatterns, optional [[caseGuard]], ":", indentedBlock], pass⟩]
  | .caseGuard => [⟨["if", namedExpression], pass⟩]
  | .casePatterns =>
    [⟨[openSequencePattern], pass⟩,
     ⟨[casePattern], pass⟩]
  | .casePattern =>
    [⟨[asPattern], pass⟩,
     ⟨[orPattern], pass⟩]
  | .asPattern =>
    [⟨[orPattern, "as", captureTarget], pass⟩,
     ⟨[check faultyAsPattern], pass⟩]
  | .orPattern => [⟨[separated "|" closedPattern], pass⟩]
  | .closedPattern =>
    [⟨[literalPattern], pass⟩,
     ⟨[capturePattern], pass⟩,
     ⟨[soft "_"], pass⟩,
     ⟨[valuePattern], pass⟩,
     ⟨[groupPattern], pass⟩,
     ⟨[sequencePattern], pass⟩,
     ⟨[mappingPattern], pass⟩,
     ⟨[classPattern], pass⟩]
  | .literalPattern =>
    [⟨[signedNumber, notAhead (oneOf [["+"], ["-"]])], pass⟩,
     ⟨[complexNumber], pass⟩,
     ⟨[quotedLiteral], pass⟩,
     ⟨["None"], pass⟩,
     ⟨["True"], pass⟩,
     ⟨["False"], pass⟩]
  | .complexNumber => [⟨[signedRealNumber, oneOf [["+"], ["-"]], imaginaryNumber], pass⟩]
  | .signedNumber =>
    [⟨[numberToken], pass⟩,
     ⟨["-", numberToken], pass⟩]
  | .signedRealNumber =>
    [⟨[realNumber], pass⟩,
     ⟨["-", realNumber], pass⟩]
  | .realNumber => [⟨[numberToken], real⟩]
  | .imaginaryNumber => [⟨[numberToken], imaginary⟩]
  | .capturePattern => [⟨[captureTarget], pass⟩]
  | .captureTarget =>
    [⟨[notAhead (soft "_"), nameToken, notAhead (oneOf [["."], ["("], ["="]])], pass⟩]
  | .valuePattern => [⟨[dottedValue, notAhead (oneOf [["."], ["("], ["="]])], pass⟩]
  | .dottedValue => [⟨[dottedHead, ".", nameToken], pass⟩]
  | .dottedHead =>
    [⟨[dottedValue], pass⟩,
     ⟨[nameToken], pass⟩]
  | .groupPattern => [⟨["(", casePattern, ")"], pass⟩]
  | .sequencePattern =>
    [⟨["[", optional [[sequenceItems]], "]"], pass⟩,
     ⟨["(", optional [[openSequencePattern]], ")"], pass⟩]
  | .openSequencePattern => [⟨[sequenceItem, ",", optional [[sequenceItems]]], pass⟩]
  | .sequenceItems => [⟨[separated "," sequenceItem, optional [[","]]], pass⟩]
  | .sequenceItem =>
    [⟨[starPattern], pass⟩,
     ⟨[casePattern], pass⟩]
  | .starPattern =>
    [⟨["*", captureTarget], pass⟩,
     ⟨["*", soft "_"], pass⟩]
  | .mappingPattern =>
    [⟨["\x7b", "\x7d"], pass⟩,
     ⟨["\x7b", restPattern, optional [[","]], "\x7d"], pass⟩,
     ⟨["\x7b", separated "," entryPattern, ",", restPattern, optional [[","]], "\x7d"], pass⟩,
     ⟨["\x7b", separated "," entryPattern, optional [[","]], "\x7d"], pass⟩]
  | .entryPattern => [⟨[oneOf [[literalPattern], [dottedValue]], ":", casePattern], pass⟩]
  | .restPattern => [⟨["**", captureTarget], pass⟩]
  | .classPattern =>
    [⟨[dottedHead, "(", ")"], pass⟩,
     ⟨[dottedHead, "(", positionalPatterns, optional [[","]], ")"], pass⟩,
     ⟨[dottedHead, "(", keywordPatterns, optional [[","]], ")"], pass⟩,
     ⟨[dottedHead, "(", positionalPatterns, ",", keywordPatterns, optional [[","]], ")"], pass⟩,
     ⟨[check faultyClassPattern], pass⟩]
  | .positionalPatterns => [⟨[separated "," casePattern], pass⟩]
  | .keywordPatterns => [⟨[separated "," keywordPattern], pass⟩]
  | .keywordPattern => [⟨[nameToken, "=", casePattern], pass⟩]
  | _ => []

end Rulebook.Expression
