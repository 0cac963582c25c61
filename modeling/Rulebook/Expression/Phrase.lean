/-!
# Phrases

The phrases of the grammar of expressions: expressions, statements, patterns, and forms that are recognised only
to say what is wrong with them.
-/

namespace Rulebook.Expression

/-- The phrases of the grammar. Those whose names begin with `faulty` or `unindented`, and a few beside them, stand
for texts that are refused. -/
inductive Phrase where
  | formattedExpression | expressionRow | anyExpression | uncheckedExpression | yieldExpression
  | starExpressions | starExpression | starNamedExpressions | starNamedExpression | assignmentExpression
  | namedExpression | disjunction | conjunction | inversion | comparison | comparisonLink | bitOr | bitXor
  | bitAnd | shift | arithmeticSum | arithmeticTerm | arithmeticFactor | arithmeticPower | awaitedPrimary
  | primaryExpression | sliceRow | sliceForm | atomicExpression | quotedLiteral | bracketedExpression
  | lambdaForm | lambdaParameterList | lambdaParameters | lambdaSlashPlain | lambdaSlashDefaulted
  | lambdaStarParameters | lambdaMappingParameter | lambdaPlainParameter | lambdaDefaultedParameter
  | lambdaParameter | listDisplay | tupleDisplay | setDisplay | dictDisplay | entries | entry | keyedValue
  | loopClauses | loopClause | listComprehension | setComprehension | generator | dictComprehension
  | argumentList | argumentRow | keywordArguments | starredExpression | keywordOrStarred | keywordOrMapping
  | starTargets | listTargets | tupleTargets | starTarget | pathTarget | targetAtom | singleTarget
  | singlePathTarget | targetPrimary | targetContinuation | deletedTargets | deletedTarget | deletedAtom
  | matchStatement | matchSubject | caseBlock | caseGuard | casePatterns | casePattern | asPattern | orPattern
  | closedPattern | literalPattern | complexNumber | signedNumber | signedRealNumber | realNumber
  | imaginaryNumber | capturePattern | captureTarget | valuePattern | dottedValue | dottedHead | groupPattern
  | sequencePattern | openSequencePattern | sequenceItems | sequenceItem | starPattern | mappingPattern
  | entryPattern | restPattern | classPattern | positionalPatterns | keywordPatterns | keywordPattern
  | wholeText | statementRow | anyStatement | simpleLine | simpleStatement | compoundStatement
  | assignmentStatement | assignedValue | augmentation | returnStatement | raiseStatement | globalStatement
  | nonlocalStatement | deletionStatement | yieldStatement | assertStatement | importStatement | importNames
  | importFrom | importedTargets | importedNames | importedName | importedPaths | importedPath | dottedName
  | indentedBlock | decorators | classDefinition | plainClass | functionDefinition | plainFunction
  | parameterList | parameters | slashPlain | slashDefaulted | starParameters | mappingParameter
  | plainParameter | starAnnotatedParameter | defaultedParameter | anyParameter | parameter | starAnnotated
  | parameterType | defaultValue | ifStatement | elifStatement | elseBlock | whileStatement | forStatement
  | withStatement | withItem | tryStatement | exceptBlock | exceptGroupBlock | finallyBlock
  | faultyArguments | faultyKeywordArgument | faultyExpression | bracketlessCall | faultyNamedExpression
  | faultyAssignment | annotatedDisplay | faultyDeletion | faultyBlock | faultyComprehension
  | faultyDictComprehension | faultyParameters | defaultedParameters | faultyDefault | faultyStarParameters
  | faultyMappingParameter | faultyLambdaParameters | defaultedLambdaParameters | faultyLambdaStarParameters
  | faultyLambdaMappingParameter | faultyWithItem | faultyForTarget | faultyGroup | faultyImportFromTargets
  | faultyWith | unindentedWith | faultyTry | faultyExcept | faultyFinally | unindentedExcept
  | unindentedExceptGroup | faultyMatch | faultyCase | faultyAsPattern | faultyClassPattern | misplacedPatterns
  | faultyIf | faultyElif | faultyElse | faultyWhile | faultyFor | faultyFunction | faultyClass | faultyEntries
  | faultyEntry
  deriving Repr, DecidableEq, Hashable, Inhabited

/-- How the reader goes about a phrase. -/
inductive Phrase.Mode where
  | plain
  /-- What was read at a place is remembered. -/
  | remembered
  /-- The phrase may begin with itself; it is read as long as it grows. -/
  | growing
  /-- Faults are not looked for inside. -/
  | unchecked
  deriving Repr, DecidableEq, Inhabited

namespace Phrase

/-- How the reader goes about each phrase. -/
def mode : Phrase → Mode
  | .anyExpression | .starExpression | .disjunction | .conjunction | .inversion | .arithmeticFactor
  | .awaitedPrimary | .quotedLiteral | .argumentList | .starTarget | .pathTarget | .deletedTarget
  | .closedPattern | .starPattern | .simpleStatement | .indentedBlock | .faultyNamedExpression => .remembered
  | .bitOr | .bitXor | .bitAnd | .shift | .arithmeticSum | .arithmeticTerm | .primaryExpression
  | .targetPrimary | .dottedValue | .dottedName => .growing
  | .uncheckedExpression => .unchecked
  | _ => .plain

end Phrase

end Rulebook.Expression
