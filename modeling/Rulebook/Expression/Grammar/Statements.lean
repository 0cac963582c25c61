import Rulebook.Expression.Build

/-!
# Statements

The phrases of whole texts. A statement that is no expression is never evaluated; it is read because a text
with one is well formed.
-/

namespace Rulebook.Expression

open Phrase Item

/-- The alternatives of each of these phrases. -/
def statementRule : Phrase → List Alternative
  | .wholeText => [⟨[optional [[statementRow]], finish], pick 0⟩]
  | .statementRow => [⟨[atLeastOne anyStatement], pass⟩]
  | .anyStatement =>
    [⟨[compoundStatement], pass⟩,
     ⟨[simpleLine], pass⟩]
  | .simpleLine =>
    [⟨[simpleStatement, notAhead ";", newline], pick 0⟩,
     ⟨[separated ";" simpleStatement, optional [[";"]], newline], pick 0⟩]
  | .simpleStatement =>
    [⟨[assignmentStatement], pass⟩,
     ⟨[starExpressions], collect (.statement "Expr")⟩,
     ⟨[ahead "return", returnStatement], pass⟩,
     ⟨[ahead (oneOf [["import"], ["from"]]), importStatement], pass⟩,
     ⟨[ahead "raise", raiseStatement], pass⟩,
     ⟨["pass"], leaf (.statement "Pass")⟩,
     ⟨[ahead "del", deletionStatement], pass⟩,
     ⟨[ahead "yield", yieldStatement], pass⟩,
     ⟨[ahead "assert", assertStatement], pass⟩,
     ⟨["break"], leaf (.statement "Break")⟩,
     ⟨["continue"], leaf (.statement "Continue")⟩,
     ⟨[ahead "global", globalStatement], pass⟩,
     ⟨[ahead "nonlocal", nonlocalStatement], pass⟩]
  | .compoundStatement =>
    [⟨[ahead (oneOf [["def"], ["@"], ["async"]]), functionDefinition], pass⟩,
     ⟨[ahead "if", ifStatement], pass⟩,
     ⟨[ahead (oneOf [["class"], ["@"]]), classDefinition], pass⟩,
     ⟨[ahead (oneOf [["with"], ["async"]]), withStatement], pass⟩,
     ⟨[ahead (oneOf [["for"], ["async"]]), forStatement], pass⟩,
     ⟨[ahead "try", tryStatement], pass⟩,
     ⟨[ahead "while", whileStatement], pass⟩,
     ⟨[matchStatement], pass⟩]
  | .assignmentStatement =>
    [⟨[nameToken, ":", anyExpression, optional [["=", assignedValue]]], leaf (.statement "AnnAssign")⟩,
     ⟨[oneOf [["(", singleTarget, ")"], [singlePathTarget]], ":", anyExpression, optional [["=", assignedValue]]],
       leaf (.statement "AnnAssign")⟩,
     ⟨[atLeastOne (oneOf [[starTargets, "="]]), oneOf [[yieldExpression], [starExpressions]], notAhead "="],
       leaf (.statement "Assign")⟩,
     ⟨[singleTarget, augmentation, commit, oneOf [[yieldExpression], [starExpressions]]],
       leaf (.statement "AugAssign")⟩,
     ⟨[check faultyAssignment], pass⟩]
  | .assignedValue =>
    [⟨[yieldExpression], pass⟩,
     ⟨[starExpressions], pass⟩]
  | .augmentation =>
    [⟨["+="], pass⟩,
     ⟨["-="], pass⟩,
     ⟨["*="], pass⟩,
     ⟨["@="], pass⟩,
     ⟨["/="], pass⟩,
     ⟨["%="], pass⟩,
     ⟨["&="], pass⟩,
     ⟨["|="], pass⟩,
     ⟨["^="], pass⟩,
     ⟨["<<="], pass⟩,
     ⟨[">>="], pass⟩,
     ⟨["**="], pass⟩,
     ⟨["//="], pass⟩]
  | .returnStatement => [⟨["return", optional [[starExpressions]]], leaf (.statement "Return")⟩]
  | .raiseStatement =>
    [⟨["raise", anyExpression, optional [["from", anyExpression]]], leaf (.statement "Raise")⟩,
     ⟨["raise"], leaf (.statement "Raise")⟩]
  | .globalStatement => [⟨["global", separated "," nameToken], leaf (.statement "Global")⟩]
  | .nonlocalStatement => [⟨["nonlocal", separated "," nameToken], leaf (.statement "Nonlocal")⟩]
  | .deletionStatement =>
    [⟨["del", deletedTargets, ahead (oneOf [[";"], [newline]])], leaf (.statement "Delete")⟩,
     ⟨[check faultyDeletion], pass⟩]
  | .yieldStatement => [⟨[yieldExpression], collect (.statement "Expr")⟩]
  | .assertStatement =>
    [⟨["assert", anyExpression, optional [[",", anyExpression]]], leaf (.statement "Assert")⟩]
  | .importStatement =>
    [⟨[importNames], pass⟩,
     ⟨[importFrom], pass⟩]
  | .importNames => [⟨["import", importedPaths], leaf (.statement "Import")⟩]
  | .importFrom =>
    [⟨["from", many (oneOf [["."], ["..."]]), dottedName, "import", importedTargets],
       leaf (.statement "ImportFrom")⟩,
     ⟨["from", atLeastOne (oneOf [["."], ["..."]]), "import", importedTargets], leaf (.statement "ImportFrom")⟩]
  | .importedTargets =>
    [⟨["(", importedNames, optional [[","]], ")"], pass⟩,
     ⟨[importedNames, notAhead ","], pass⟩,
     ⟨["*"], pass⟩,
     ⟨[check faultyImportFromTargets], pass⟩]
  | .importedNames => [⟨[separated "," importedName], pass⟩]
  | .importedName => [⟨[nameToken, optional [["as", nameToken]]], pass⟩]
  | .importedPaths => [⟨[separated "," importedPath], pass⟩]
  | .importedPath => [⟨[dottedName, optional [["as", nameToken]]], pass⟩]
  | .dottedName =>
    [⟨[dottedName, ".", nameToken], pass⟩,
     ⟨[nameToken], pass⟩]
  | .indentedBlock =>
    [⟨[newline, indent, statementRow, dedent], pass⟩,
     ⟨[simpleLine], pass⟩,
     ⟨[check faultyBlock], pass⟩]
  | .decorators => [⟨[atLeastOne (oneOf [["@", namedExpression, newline]])], pass⟩]
  | .classDefinition =>
    [⟨[decorators, plainClass], pick 1⟩,
     ⟨[plainClass], pass⟩]
  | .plainClass =>
    [⟨[check faultyClass], pass⟩,
     ⟨["class", nameToken, optional [["(", optional [[argumentList]], ")"]], ":", indentedBlock],
       leaf (.statement "ClassDef")⟩]
  | .functionDefinition =>
    [⟨[decorators, plainFunction], pick 1⟩,
     ⟨[plainFunction], pass⟩]
  | .plainFunction =>
    [⟨[check faultyFunction], pass⟩,
     ⟨["def", nameToken, forced "(", optional [[parameterList]], ")", optional [["->", anyExpression]], forced ":",
       indentedBlock], leaf (.statement "FunctionDef")⟩,
     ⟨["async", "def", nameToken, forced "(", optional [[parameterList]], ")", optional [["->", anyExpression]],
       forced ":", indentedBlock], leaf (.statement "AsyncFunctionDef")⟩]
  | .parameterList =>
    [⟨[check faultyParameters], pass⟩,
     ⟨[parameters], pass⟩]
  | .parameters =>
    [⟨[slashPlain, many plainParameter, many defaultedParameter, optional [[starParameters]]], pass⟩,
     ⟨[slashDefaulted, many defaultedParameter, optional [[starParameters]]], pass⟩,
     ⟨[atLeastOne plainParameter, many defaultedParameter, optional [[starParameters]]], pass⟩,
     ⟨[atLeastOne defaultedParameter, optional [[starParameters]]], pass⟩,
     ⟨[starParameters], pass⟩]
  | .slashPlain =>
    [⟨[atLeastOne plainParameter, "/", ","], pass⟩,
     ⟨[atLeastOne plainParameter, "/", ahead ")"], pass⟩]
  | .slashDefaulted =>
    [⟨[many plainParameter, atLeastOne defaultedParameter, "/", ","], pass⟩,
     ⟨[many plainParameter, atLeastOne defaultedParameter, "/", ahead ")"], pass⟩]
  | .starParameters =>
    [⟨[check faultyStarParameters], pass⟩,
     ⟨["*", plainParameter, many anyParameter, optional [[mappingParameter]]], pass⟩,
     ⟨["*", starAnnotatedParameter, many anyParameter, optional [[mappingParameter]]], pass⟩,
     ⟨["*", ",", atLeastOne anyParameter, optional [[mappingParameter]]], pass⟩,
     ⟨[mappingParameter], pass⟩]
  | .mappingParameter =>
    [⟨[check faultyMappingParameter], pass⟩,
     ⟨["**", plainParameter], pass⟩]
  | .plainParameter =>
    [⟨[parameter, ","], pick 0⟩,
     ⟨[parameter, ahead ")"], pass⟩]
  | .starAnnotatedParameter =>
    [⟨[starAnnotated, ","], pass⟩,
     ⟨[starAnnotated, ahead ")"], pass⟩]
  | .defaultedParameter =>
    [⟨[parameter, defaultValue, ","], pass⟩,
     ⟨[parameter, defaultValue, ahead ")"], pass⟩]
  | .anyParameter =>
    [⟨[parameter, optional [[defaultValue]], ","], pass⟩,
     ⟨[parameter, optional [[defaultValue]], ahead ")"], pass⟩]
  | .parameter => [⟨[nameToken, optional [[parameterType]]], pass⟩]
  | .starAnnotated => [⟨[nameToken, ":", starExpression], pass⟩]
  | .parameterType => [⟨[":", anyExpression], pass⟩]
  | .defaultValue =>
    [⟨["=", anyExpression], pass⟩,
     ⟨[check faultyDefault], pass⟩]
  | .ifStatement =>
    [⟨[check faultyIf], pass⟩,
     ⟨["if", namedExpression, ":", indentedBlock, elifStatement], leaf (.statement "If")⟩,
     ⟨["if", namedExpression, ":", indentedBlock, optional [[elseBlock]]], leaf (.statement "If")⟩]
  | .elifStatement =>
    [⟨[check faultyElif], pass⟩,
     ⟨["elif", namedExpression, ":", indentedBlock, elifStatement], pass⟩,
     ⟨["elif", namedExpression, ":", indentedBlock, optional [[elseBlock]]], pass⟩]
  | .elseBlock =>
    [⟨[check faultyElse], pass⟩,
     ⟨["else", forced ":", indentedBlock], pass⟩]
  | .whileStatement =>
    [⟨[check faultyWhile], pass⟩,
     ⟨["while", namedExpression, ":", indentedBlock, optional [[elseBlock]]], leaf (.statement "While")⟩]
  | .forStatement =>
    [⟨[check faultyFor], pass⟩,
     ⟨["for", starTargets, "in", commit, starExpressions, forced ":", indentedBlock, optional [[elseBlock]]],
       leaf (.statement "For")⟩,
     ⟨["async", "for", starTargets, "in", commit, starExpressions, forced ":", indentedBlock,
       optional [[elseBlock]]], leaf (.statement "AsyncFor")⟩,
     ⟨[check faultyForTarget], pass⟩]
  | .withStatement =>
    [⟨[check unindentedWith], pass⟩,
     ⟨["with", "(", separated "," withItem, optional [[","]], ")", ":", indentedBlock], leaf (.statement "With")⟩,
     ⟨["with", separated "," withItem, ":", indentedBlock], leaf (.statement "With")⟩,
     ⟨["async", "with", "(", separated "," withItem, optional [[","]], ")", ":", indentedBlock],
       leaf (.statement "AsyncWith")⟩,
     ⟨["async", "with", separated "," withItem, ":", indentedBlock], leaf (.statement "AsyncWith")⟩,
     ⟨[check faultyWith], pass⟩]
  | .withItem =>
    [⟨[anyExpression, "as", starTarget, ahead (oneOf [[","], [")"], [":"]])], pass⟩,
     ⟨[check faultyWithItem], pass⟩,
     ⟨[anyExpression], pass⟩]
  | .tryStatement =>
    [⟨[check faultyTry], pass⟩,
     ⟨["try", forced ":", indentedBlock, finallyBlock], leaf (.statement "Try")⟩,
     ⟨["try", forced ":", indentedBlock, atLeastOne exceptBlock, optional [[elseBlock]], optional [[finallyBlock]]],
       leaf (.statement "Try")⟩,
     ⟨["try", forced ":", indentedBlock, atLeastOne exceptGroupBlock, optional [[elseBlock]],
       optional [[finallyBlock]]], leaf (.statement "TryStar")⟩]
  | .exceptBlock =>
    [⟨[check unindentedExcept], pass⟩,
     ⟨["except", anyExpression, optional [["as", nameToken]], ":", indentedBlock], pass⟩,
     ⟨["except", ":", indentedBlock], pass⟩,
     ⟨[check faultyExcept], pass⟩]
  | .exceptGroupBlock =>
    [⟨[check unindentedExceptGroup], pass⟩,
     ⟨["except", "*", anyExpression, optional [["as", nameToken]], ":", indentedBlock], pass⟩,
     ⟨[check faultyExcept], pass⟩]
  | .finallyBlock =>
    [⟨[check faultyFinally], pass⟩,
     ⟨["finally", forced ":", indentedBlock], pass⟩]
  | _ => []

end Rulebook.Expression
