import Rulebook.Expression.Build

/-!
# Expressions

The phrases from rows of expressions down to names, numbers and brackets, and the targets of
assignments. Where alternatives begin alike, the longer stands first.
-/

namespace Rulebook.Expression

open Phrase Item

/-- The alternatives of each of these phrases. -/
def expressionRule : Phrase → List Alternative
  | .formattedExpression => [⟨[starExpressions], pass⟩]
  | .expressionRow =>
    [⟨[anyExpression, atLeastOne (oneOf [[",", anyExpression]]), optional [[","]]], collect .tuple⟩,
     ⟨[anyExpression, ","], collect .tuple⟩,
     ⟨[anyExpression], pass⟩]
  | .anyExpression =>
    [⟨[check faultyExpression], pass⟩,
     ⟨[check bracketlessCall], pass⟩,
     ⟨[disjunction, "if", disjunction, "else", anyExpression], collect .conditional⟩,
     ⟨[disjunction], pass⟩,
     ⟨[lambdaForm], pass⟩]
  | .uncheckedExpression =>
    [⟨[disjunction, "if", disjunction, "else", anyExpression], collect .conditional⟩,
     ⟨[disjunction], pass⟩,
     ⟨[lambdaForm], pass⟩]
  | .yieldExpression =>
    [⟨["yield", "from", anyExpression], collect .yieldFrom⟩,
     ⟨["yield", optional [[starExpressions]]], collect .yield⟩]
  | .starExpressions =>
    [⟨[starExpression, atLeastOne (oneOf [[",", starExpression]]), optional [[","]]], collect .tuple⟩,
     ⟨[starExpression, ","], collect .tuple⟩,
     ⟨[starExpression], pass⟩]
  | .starExpression =>
    [⟨["*", bitOr], collect .starred⟩,
     ⟨[anyExpression], pass⟩]
  | .starNamedExpressions => [⟨[separated "," starNamedExpression, optional [[","]]], pass⟩]
  | .starNamedExpression =>
    [⟨["*", bitOr], collect .starred⟩,
     ⟨[namedExpression], pass⟩]
  | .assignmentExpression => [⟨[nameToken, ":=", commit, anyExpression], collect .named⟩]
  | .namedExpression =>
    [⟨[assignmentExpression], pass⟩,
     ⟨[check faultyNamedExpression], pass⟩,
     ⟨[anyExpression, notAhead ":="], pass⟩]
  | .disjunction =>
    [⟨[conjunction, atLeastOne (oneOf [["or", conjunction]])], collect .boolean⟩,
     ⟨[conjunction], pass⟩]
  | .conjunction =>
    [⟨[inversion, atLeastOne (oneOf [["and", inversion]])], collect .boolean⟩,
     ⟨[inversion], pass⟩]
  | .inversion =>
    [⟨["not", inversion], collect (.signed .not)⟩,
     ⟨[comparison], pass⟩]
  | .comparison =>
    [⟨[bitOr, atLeastOne comparisonLink], chain⟩,
     ⟨[bitOr], pass⟩]
  | .comparisonLink =>
    [⟨["==", bitOr], link (.evaluated .equal)⟩,
     ⟨["!=", bitOr], link (.evaluated .notEqual)⟩,
     ⟨["<=", bitOr], link .lessOrEqual⟩,
     ⟨["<", bitOr], link (.evaluated .less)⟩,
     ⟨[">=", bitOr], link .greaterOrEqual⟩,
     ⟨[">", bitOr], link (.evaluated .greater)⟩,
     ⟨["not", "in", bitOr], link .notMember⟩,
     ⟨["in", bitOr], link .member⟩,
     ⟨["is", "not", bitOr], link .notIdentical⟩,
     ⟨["is", bitOr], link .identical⟩]
  | .bitOr =>
    [⟨[bitOr, "|", bitXor], collect .arithmetic⟩,
     ⟨[bitXor], pass⟩]
  | .bitXor =>
    [⟨[bitXor, "^", bitAnd], collect .arithmetic⟩,
     ⟨[bitAnd], pass⟩]
  | .bitAnd =>
    [⟨[bitAnd, "&", shift], collect .arithmetic⟩,
     ⟨[shift], pass⟩]
  | .shift =>
    [⟨[shift, "<<", arithmeticSum], collect .arithmetic⟩,
     ⟨[shift, ">>", arithmeticSum], collect .arithmetic⟩,
     ⟨[arithmeticSum], pass⟩]
  | .arithmeticSum =>
    [⟨[arithmeticSum, "+", arithmeticTerm], collect .arithmetic⟩,
     ⟨[arithmeticSum, "-", arithmeticTerm], collect .arithmetic⟩,
     ⟨[arithmeticTerm], pass⟩]
  | .arithmeticTerm =>
    [⟨[arithmeticTerm, "*", arithmeticFactor], collect .arithmetic⟩,
     ⟨[arithmeticTerm, "/", arithmeticFactor], collect .arithmetic⟩,
     ⟨[arithmeticTerm, "//", arithmeticFactor], collect .arithmetic⟩,
     ⟨[arithmeticTerm, "%", arithmeticFactor], collect .arithmetic⟩,
     ⟨[arithmeticTerm, "@", arithmeticFactor], collect .arithmetic⟩,
     ⟨[arithmeticFactor], pass⟩]
  | .arithmeticFactor =>
    [⟨["+", arithmeticFactor], collect (.signed .plus)⟩,
     ⟨["-", arithmeticFactor], collect (.signed .minus)⟩,
     ⟨["~", arithmeticFactor], collect (.signed .invert)⟩,
     ⟨[arithmeticPower], pass⟩]
  | .arithmeticPower =>
    [⟨[awaitedPrimary, "**", arithmeticFactor], collect .arithmetic⟩,
     ⟨[awaitedPrimary], pass⟩]
  | .awaitedPrimary =>
    [⟨["await", primaryExpression], collect .await⟩,
     ⟨[primaryExpression], pass⟩]
  | .primaryExpression =>
    [⟨[primaryExpression, ".", nameToken], collect .property⟩,
     ⟨[primaryExpression, generator], collect .call⟩,
     ⟨[primaryExpression, "(", optional [[argumentList]], ")"], collect .call⟩,
     ⟨[primaryExpression, "[", sliceRow, "]"], collect .subscript⟩,
     ⟨[atomicExpression], pass⟩]
  | .sliceRow =>
    [⟨[sliceForm, notAhead ","], pass⟩,
     ⟨[separated "," (oneOf [[sliceForm], [starredExpression]]), optional [[","]]], collect .tuple⟩]
  | .sliceForm =>
    [⟨[optional [[anyExpression]], ":", optional [[anyExpression]], optional [[":", optional [[anyExpression]]]]],
       leaf (.statement "Slice")⟩,
     ⟨[namedExpression], pass⟩]
  | .atomicExpression =>
    [⟨[nameToken], pass⟩,
     ⟨["True"], leaf (.constant (.bool true))⟩,
     ⟨["False"], leaf (.constant (.bool false))⟩,
     ⟨["None"], leaf (.constant .null)⟩,
     ⟨[ahead stringToken, quotedLiteral], pass⟩,
     ⟨[numberToken], pass⟩,
     ⟨[ahead "(", oneOf [[tupleDisplay], [bracketedExpression], [generator]]], pass⟩,
     ⟨[ahead "[", oneOf [[listDisplay], [listComprehension]]], pass⟩,
     ⟨[ahead "\x7b", oneOf [[dictDisplay], [setDisplay], [dictComprehension], [setComprehension]]], pass⟩,
     ⟨["..."], leaf (.constant .ellipsis)⟩]
  | .quotedLiteral => [⟨[stringTokens], pass⟩]
  | .bracketedExpression =>
    [⟨["(", oneOf [[yieldExpression], [namedExpression]], ")"], pick 1⟩,
     ⟨[check faultyGroup], pass⟩]
  | .lambdaForm =>
    [⟨["lambda", optional [[lambdaParameterList]], ":", anyExpression], leaf .lambda⟩]
  | .lambdaParameterList =>
    [⟨[check faultyLambdaParameters], pass⟩,
     ⟨[lambdaParameters], pass⟩]
  | .lambdaParameters =>
    [⟨[lambdaSlashPlain, many lambdaPlainParameter, many lambdaDefaultedParameter,
       optional [[lambdaStarParameters]]], pass⟩,
     ⟨[lambdaSlashDefaulted, many lambdaDefaultedParameter, optional [[lambdaStarParameters]]], pass⟩,
     ⟨[atLeastOne lambdaPlainParameter, many lambdaDefaultedParameter, optional [[lambdaStarParameters]]], pass⟩,
     ⟨[atLeastOne lambdaDefaultedParameter, optional [[lambdaStarParameters]]], pass⟩,
     ⟨[lambdaStarParameters], pass⟩]
  | .lambdaSlashPlain =>
    [⟨[atLeastOne lambdaPlainParameter, "/", ","], pass⟩,
     ⟨[atLeastOne lambdaPlainParameter, "/", ahead ":"], pass⟩]
  | .lambdaSlashDefaulted =>
    [⟨[many lambdaPlainParameter, atLeastOne lambdaDefaultedParameter, "/", ","], pass⟩,
     ⟨[many lambdaPlainParameter, atLeastOne lambdaDefaultedParameter, "/", ahead ":"], pass⟩]
  | .lambdaStarParameters =>
    [⟨[check faultyLambdaStarParameters], pass⟩,
     ⟨["*", lambdaPlainParameter, many lambdaParameter, optional [[lambdaMappingParameter]]], pass⟩,
     ⟨["*", ",", atLeastOne lambdaParameter, optional [[lambdaMappingParameter]]], pass⟩,
     ⟨[lambdaMappingParameter], pass⟩]
  | .lambdaMappingParameter =>
    [⟨[check faultyLambdaMappingParameter], pass⟩,
     ⟨["**", lambdaPlainParameter], pass⟩]
  | .lambdaPlainParameter =>
    [⟨[nameToken, ","], pick 0⟩,
     ⟨[nameToken, ahead ":"], pass⟩]
  | .lambdaDefaultedParameter =>
    [⟨[nameToken, defaultValue, ","], pass⟩,
     ⟨[nameToken, defaultValue, ahead ":"], pass⟩]
  | .lambdaParameter =>
    [⟨[nameToken, optional [[defaultValue]], ","], pass⟩,
     ⟨[nameToken, optional [[defaultValue]], ahead ":"], pass⟩]
  | .listDisplay => [⟨["[", optional [[starNamedExpressions]], "]"], collect .list⟩]
  | .tupleDisplay =>
    [⟨["(", optional [[starNamedExpression, ",", optional [[starNamedExpressions]]]], ")"], collect .tuple⟩]
  | .setDisplay => [⟨["\x7b", starNamedExpressions, "\x7d"], collect .set⟩]
  | .dictDisplay =>
    [⟨["\x7b", optional [[entries]], "\x7d"], leaf .dict⟩,
     ⟨["\x7b", faultyEntries, "\x7d"], pass⟩]
  | .entries => [⟨[separated "," entry, optional [[","]]], pass⟩]
  | .entry =>
    [⟨["**", bitOr], pass⟩,
     ⟨[keyedValue], pass⟩]
  | .keyedValue => [⟨[anyExpression, ":", anyExpression], pass⟩]
  | .loopClauses => [⟨[atLeastOne loopClause], pass⟩]
  | .loopClause =>
    [⟨["async", "for", starTargets, "in", commit, disjunction, many (oneOf [["if", disjunction]])], pass⟩,
     ⟨["for", starTargets, "in", commit, disjunction, many (oneOf [["if", disjunction]])], pass⟩,
     ⟨[check faultyForTarget], pass⟩]
  | .listComprehension =>
    [⟨["[", namedExpression, loopClauses, "]"], leaf .listOf⟩,
     ⟨[check faultyComprehension], pass⟩]
  | .setComprehension =>
    [⟨["\x7b", namedExpression, loopClauses, "\x7d"], leaf .setOf⟩,
     ⟨[check faultyComprehension], pass⟩]
  | .generator =>
    [⟨["(", oneOf [[assignmentExpression], [anyExpression, notAhead ":="]], loopClauses, ")"], leaf .generator⟩,
     ⟨[check faultyComprehension], pass⟩]
  | .dictComprehension =>
    [⟨["\x7b", keyedValue, loopClauses, "\x7d"], leaf .dictOf⟩,
     ⟨[check faultyDictComprehension], pass⟩]
  | .argumentList =>
    [⟨[argumentRow, optional [[","]], ahead ")"], pick 0⟩,
     ⟨[check faultyArguments], pass⟩]
  | .argumentRow =>
    [⟨[separated "," (oneOf [[starredExpression], [oneOf [[assignmentExpression], [anyExpression, notAhead ":="]],
       notAhead "="]]), optional [[",", keywordArguments]]], argumentRowOf⟩,
     ⟨[keywordArguments], argumentRowOf⟩]
  | .keywordArguments =>
    [⟨[separated "," keywordOrStarred, ",", separated "," keywordOrMapping], pass⟩,
     ⟨[separated "," keywordOrStarred], pass⟩,
     ⟨[separated "," keywordOrMapping], pass⟩]
  | .starredExpression => [⟨["*", anyExpression], collect .starred⟩]
  | .keywordOrStarred =>
    [⟨[check faultyKeywordArgument], pass⟩,
     ⟨[nameToken, "=", anyExpression], leaf .keyword⟩,
     ⟨[starredExpression], pass⟩]
  | .keywordOrMapping =>
    [⟨[check faultyKeywordArgument], pass⟩,
     ⟨[nameToken, "=", anyExpression], leaf .keyword⟩,
     ⟨["**", anyExpression], leaf .unpacked⟩]
  | .starTargets =>
    [⟨[starTarget, notAhead ","], pass⟩,
     ⟨[starTarget, many (oneOf [[",", starTarget]]), optional [[","]]], collect .tuple⟩]
  | .listTargets => [⟨[separated "," starTarget, optional [[","]]], pass⟩]
  | .tupleTargets =>
    [⟨[starTarget, atLeastOne (oneOf [[",", starTarget]]), optional [[","]]], pass⟩,
     ⟨[starTarget, ","], pass⟩]
  | .starTarget =>
    [⟨["*", oneOf [[notAhead "*", starTarget]]], collect .starred⟩,
     ⟨[pathTarget], pass⟩]
  | .pathTarget =>
    [⟨[targetPrimary, ".", nameToken, notAhead targetContinuation], collect .property⟩,
     ⟨[targetPrimary, "[", sliceRow, "]", notAhead targetContinuation], collect .subscript⟩,
     ⟨[targetAtom], pass⟩]
  | .targetAtom =>
    [⟨[nameToken], pass⟩,
     ⟨["(", pathTarget, ")"], pick 1⟩,
     ⟨["(", optional [[tupleTargets]], ")"], collect .tuple⟩,
     ⟨["[", optional [[listTargets]], "]"], collect .list⟩]
  | .singleTarget =>
    [⟨[singlePathTarget], pass⟩,
     ⟨[nameToken], pass⟩,
     ⟨["(", singleTarget, ")"], pick 1⟩]
  | .singlePathTarget =>
    [⟨[targetPrimary, ".", nameToken, notAhead targetContinuation], collect .property⟩,
     ⟨[targetPrimary, "[", sliceRow, "]", notAhead targetContinuation], collect .subscript⟩]
  | .targetPrimary =>
    [⟨[targetPrimary, ".", nameToken, ahead targetContinuation], collect .property⟩,
     ⟨[targetPrimary, "[", sliceRow, "]", ahead targetContinuation], collect .subscript⟩,
     ⟨[targetPrimary, generator, ahead targetContinuation], collect .call⟩,
     ⟨[targetPrimary, "(", optional [[argumentList]], ")", ahead targetContinuation], collect .call⟩,
     ⟨[atomicExpression, ahead targetContinuation], pass⟩]
  | .targetContinuation =>
    [⟨["("], pass⟩,
     ⟨["["], pass⟩,
     ⟨["."], pass⟩]
  | .deletedTargets => [⟨[separated "," deletedTarget, optional [[","]]], pass⟩]
  | .deletedTarget =>
    [⟨[targetPrimary, ".", nameToken, notAhead targetContinuation], collect .property⟩,
     ⟨[targetPrimary, "[", sliceRow, "]", notAhead targetContinuation], collect .subscript⟩,
     ⟨[deletedAtom], pass⟩]
  | .deletedAtom =>
    [⟨[nameToken], pass⟩,
     ⟨["(", deletedTarget, ")"], pick 1⟩,
     ⟨["(", optional [[deletedTargets]], ")"], collect .tuple⟩,
     ⟨["[", optional [[deletedTargets]], "]"], collect .list⟩]
  | _ => []

end Rulebook.Expression
