import Rulebook.Expression.Build

/-!
# Faulty texts

The phrases that are read a second time round to say what is wrong with a text.
-/

namespace Rulebook.Expression

open Phrase Item

/-- The alternatives of each of these phrases. -/
def faultRule : Phrase → List Alternative
  | .faultyArguments =>
    [⟨[argumentRow, ",", "*"], refuseAt 0 "iterable argument unpacking follows keyword argument unpacking"⟩,
     ⟨[anyExpression, loopClauses, ",", optional [[argumentRow], [anyExpression, loopClauses]]],
       refuseAt 0 "Generator expression must be parenthesized"⟩,
     ⟨[nameToken, "=", anyExpression, loopClauses],
       refuseAt 0 "invalid syntax. Maybe you meant '==' or ':=' instead of '='?"⟩,
     ⟨[argumentRow, loopClauses], looseGenerator⟩,
     ⟨[argumentRow, ",", anyExpression, loopClauses], refuseAt 2 "Generator expression must be parenthesized"⟩,
     ⟨[argumentRow, ",", argumentRow], misplacedArgument⟩]
  | .faultyKeywordArgument =>
    [⟨[oneOf [["True"], ["False"], ["None"]], "="], refuseWord "cannot assign to "⟩,
     ⟨[nameToken, "=", anyExpression, loopClauses],
       refuseAt 0 "invalid syntax. Maybe you meant '==' or ':=' instead of '='?"⟩,
     ⟨[notAhead (oneOf [[nameToken, "="]]), anyExpression, "="],
       refuseAt 0 "expression cannot contain assignment, perhaps you meant \"==\"?"⟩]
  | .faultyExpression =>
    [⟨[notAhead (oneOf [[nameToken, stringToken], [softKeyword]]), disjunction, uncheckedExpression],
       forgottenComma⟩,
     ⟨[disjunction, "if", disjunction, notAhead (oneOf [["else"], [":"]])],
       refuseAt 0 "expected 'else' after 'if' expression"⟩]
  | .bracketlessCall => [⟨[nameToken, notAhead "(", starExpressions], missingBrackets⟩]
  | .faultyNamedExpression =>
    [⟨[anyExpression, ":=", anyExpression], refuseNoun 0 "cannot use assignment expressions with " ""⟩,
     ⟨[nameToken, "=", bitOr, notAhead (oneOf [["="], [":="]])],
       refuseAt 0 "invalid syntax. Maybe you meant '==' or ':=' instead of '='?"⟩,
     ⟨[notAhead (oneOf [[listDisplay], [tupleDisplay], [generator], ["True"], ["None"], ["False"]]), bitOr, "=",
       bitOr, notAhead (oneOf [["="], [":="]])],
       refuseNoun 0 "cannot assign to " " here. Maybe you meant '==' instead of '='?"⟩]
  | .faultyAssignment =>
    [⟨[annotatedDisplay, ":", anyExpression], refuseNoun 0 "only single target (not " ") can be annotated"⟩,
     ⟨[starNamedExpression, ",", many starNamedExpressions, ":", anyExpression],
       refuseAt 0 "only single target (not tuple) can be annotated"⟩,
     ⟨[anyExpression, ":", anyExpression], refuseAt 0 "illegal target for annotation"⟩,
     ⟨[many (oneOf [[starTargets, "="]]), starExpressions, "="], refuseTarget 1 .assigned⟩,
     ⟨[many (oneOf [[starTargets, "="]]), yieldExpression, "="],
       refuseAt 1 "assignment to yield expression not possible"⟩,
     ⟨[starExpressions, augmentation, oneOf [[yieldExpression], [starExpressions]]],
       refuseNoun 0 "'" "' is an illegal expression for augmented assignment"⟩]
  | .annotatedDisplay =>
    [⟨[listDisplay], pass⟩,
     ⟨[tupleDisplay], pass⟩,
     ⟨["(", annotatedDisplay, ")"], pick 1⟩]
  | .faultyDeletion => [⟨["del", starExpressions], refuseTarget 1 .deleted⟩]
  | .faultyBlock => [⟨[newline, notAhead indent], refuseIndent "expected an indented block"⟩]
  | .faultyComprehension =>
    [⟨[oneOf [["["], ["("], ["\x7b"]], starredExpression, loopClauses],
       refuseAt 1 "iterable unpacking cannot be used in comprehension"⟩,
     ⟨[oneOf [["["], ["\x7b"]], starNamedExpression, ",", starNamedExpressions, loopClauses],
       refuseAt 1 "did you forget parentheses around the comprehension target?"⟩,
     ⟨[oneOf [["["], ["\x7b"]], starNamedExpression, ",", loopClauses],
       refuseAt 1 "did you forget parentheses around the comprehension target?"⟩]
  | .faultyDictComprehension =>
    [⟨["\x7b", "**", bitOr, loopClauses, "\x7d"], refuseAt 1 "dict unpacking cannot be used in dict comprehension"⟩]
  | .faultyParameters =>
    [⟨[many plainParameter, defaultedParameters, plainParameter],
       refuseAt 2 "non-default argument follows default argument"⟩,
     ⟨[many plainParameter, "(", atLeastOne plainParameter, optional [[","]], ")"],
       refuseAt 1 "Function parameters cannot be parenthesized"⟩,
     ⟨["/", ","], refuseAt 0 "at least one argument must precede /"⟩,
     ⟨[oneOf [[slashPlain], [slashDefaulted]], many anyParameter, "/"], refuseAt 2 "/ may appear only once"⟩,
     ⟨[optional [[slashPlain], [slashDefaulted]], many anyParameter, "*", oneOf [[","], [plainParameter]],
       many anyParameter, "/"], refuseAt 5 "/ must be ahead of *"⟩,
     ⟨[atLeastOne anyParameter, "/", "*"], refuseAt 2 "expected comma between / and *"⟩]
  | .defaultedParameters =>
    [⟨[slashDefaulted], pass⟩,
     ⟨[atLeastOne defaultedParameter], pass⟩]
  | .faultyDefault =>
    [⟨["=", ahead (oneOf [[")"], [","]])], refuseAt 0 "expected default value expression"⟩]
  | .faultyStarParameters =>
    [⟨["*", oneOf [[")"], [",", oneOf [[")"], ["**"]]]]], refuseAt 0 "named arguments must follow bare *"⟩,
     ⟨["*", parameter, "="], refuseAt 2 "var-positional argument cannot have default value"⟩,
     ⟨["*", oneOf [[plainParameter], [","]], many anyParameter, "*", oneOf [[plainParameter], [","]]],
       refuseAt 3 "* argument may appear only once"⟩]
  | .faultyMappingParameter =>
    [⟨["**", parameter, "="], refuseAt 2 "var-keyword argument cannot have default value"⟩,
     ⟨["**", parameter, ",", parameter], refuseAt 3 "arguments cannot follow var-keyword argument"⟩,
     ⟨["**", parameter, ",", oneOf [["*"], ["**"], ["/"]]],
       refuseAt 3 "arguments cannot follow var-keyword argument"⟩]
  | .faultyLambdaParameters =>
    [⟨[many lambdaPlainParameter, defaultedLambdaParameters, lambdaPlainParameter],
       refuseAt 2 "non-default argument follows default argument"⟩,
     ⟨[many lambdaPlainParameter, "(", separated "," nameToken, optional [[","]], ")"],
       refuseAt 1 "Lambda expression parameters cannot be parenthesized"⟩,
     ⟨["/", ","], refuseAt 0 "at least one argument must precede /"⟩,
     ⟨[oneOf [[lambdaSlashPlain], [lambdaSlashDefaulted]], many lambdaParameter, "/"],
       refuseAt 2 "/ may appear only once"⟩,
     ⟨[optional [[lambdaSlashPlain], [lambdaSlashDefaulted]], many lambdaParameter, "*", oneOf [[","],
       [lambdaPlainParameter]], many lambdaParameter, "/"], refuseAt 5 "/ must be ahead of *"⟩,
     ⟨[atLeastOne lambdaParameter, "/", "*"], refuseAt 2 "expected comma between / and *"⟩]
  | .defaultedLambdaParameters =>
    [⟨[lambdaSlashDefaulted], pass⟩,
     ⟨[atLeastOne lambdaDefaultedParameter], pass⟩]
  | .faultyLambdaStarParameters =>
    [⟨["*", oneOf [[":"], [",", oneOf [[":"], ["**"]]]]], refuse "named arguments must follow bare *"⟩,
     ⟨["*", nameToken, "="], refuseAt 2 "var-positional argument cannot have default value"⟩,
     ⟨["*", oneOf [[lambdaPlainParameter], [","]], many lambdaParameter, "*", oneOf [[lambdaPlainParameter],
       [","]]], refuseAt 3 "* argument may appear only once"⟩]
  | .faultyLambdaMappingParameter =>
    [⟨["**", nameToken, "="], refuseAt 2 "var-keyword argument cannot have default value"⟩,
     ⟨["**", nameToken, ",", nameToken], refuseAt 3 "arguments cannot follow var-keyword argument"⟩,
     ⟨["**", nameToken, ",", oneOf [["*"], ["**"], ["/"]]],
       refuseAt 3 "arguments cannot follow var-keyword argument"⟩]
  | .faultyWithItem =>
    [⟨[anyExpression, "as", anyExpression, ahead (oneOf [[","], [")"], [":"]])], refuseTarget 2 .assigned⟩]
  | .faultyForTarget => [⟨[optional [["async"]], "for", starExpressions], refuseTarget 2 .looped⟩]
  | .faultyGroup =>
    [⟨["(", starredExpression, ")"], refuseAt 1 "cannot use starred expression here"⟩,
     ⟨["(", "**", anyExpression, ")"], refuseAt 1 "cannot use double starred expression here"⟩]
  | .faultyImportFromTargets =>
    [⟨[importedNames, ",", newline], refuse "trailing comma not allowed without surrounding parentheses"⟩]
  | .faultyWith =>
    [⟨[optional [["async"]], "with", separated "," (oneOf [[anyExpression, optional [["as", starTarget]]]]),
       newline], refuse "expected ':'"⟩,
     ⟨[optional [["async"]], "with", "(", separated "," (oneOf [[expressionRow, optional [["as", starTarget]]]]),
       optional [[","]], ")", newline], refuse "expected ':'"⟩]
  | .unindentedWith =>
    [⟨[optional [["async"]], "with", separated "," (oneOf [[anyExpression, optional [["as", starTarget]]]]), ":",
       newline, notAhead indent], refuseBlock 1 "'with' statement"⟩,
     ⟨[optional [["async"]], "with", "(", separated "," (oneOf [[expressionRow, optional [["as", starTarget]]]]),
       optional [[","]], ")", ":", newline, notAhead indent], refuseBlock 1 "'with' statement"⟩]
  | .faultyTry =>
    [⟨["try", ":", newline, notAhead indent], refuseBlock 0 "'try' statement"⟩,
     ⟨["try", ":", indentedBlock, notAhead (oneOf [["except"], ["finally"]])],
       refuse "expected 'except' or 'finally' block"⟩,
     ⟨["try", ":", many indentedBlock, oneOf [[oneOf [[atLeastOne exceptBlock, exceptGroupBlock]]],
       [oneOf [[atLeastOne exceptGroupBlock, exceptBlock]]]], many indentedBlock],
       refuse "cannot have both 'except' and 'except*' on the same 'try'"⟩]
  | .faultyExcept =>
    [⟨["except", optional [["*"]], anyExpression, ",", expressionRow, optional [["as", nameToken]], ":"],
       refuseAt 2 "multiple exception types must be parenthesized"⟩,
     ⟨["except", optional [["*"]], anyExpression, optional [["as", nameToken]], newline], refuse "expected ':'"⟩,
     ⟨["except", newline], refuse "expected ':'"⟩,
     ⟨["except", "*", oneOf [[newline], [":"]]], refuse "expected one or more exception types"⟩]
  | .faultyFinally =>
    [⟨["finally", ":", newline, notAhead indent], refuseBlock 0 "'finally' statement"⟩]
  | .unindentedExcept =>
    [⟨["except", anyExpression, optional [["as", nameToken]], ":", newline, notAhead indent],
       refuseBlock 0 "'except' statement"⟩,
     ⟨["except", ":", newline, notAhead indent], refuseBlock 0 "'except' statement"⟩]
  | .unindentedExceptGroup =>
    [⟨["except", "*", anyExpression, optional [["as", nameToken]], ":", newline, notAhead indent],
       refuseBlock 0 "'except*' statement"⟩]
  | .faultyMatch =>
    [⟨[soft "match", matchSubject, newline], refuse "expected ':'"⟩,
     ⟨[soft "match", matchSubject, ":", newline, notAhead indent], refuseBlock 0 "'match' statement"⟩]
  | .faultyCase =>
    [⟨[soft "case", casePatterns, optional [[caseGuard]], newline], refuse "expected ':'"⟩,
     ⟨[soft "case", casePatterns, optional [[caseGuard]], ":", newline, notAhead indent],
       refuseBlock 0 "'case' statement"⟩]
  | .faultyAsPattern =>
    [⟨[orPattern, "as", soft "_"], refuseAt 2 "cannot use '_' as a target"⟩,
     ⟨[orPattern, "as", notAhead nameToken, anyExpression], refuseAt 2 "invalid pattern target"⟩]
  | .faultyClassPattern =>
    [⟨[dottedHead, "(", misplacedPatterns], refuseAt 2 "positional patterns follow keyword patterns"⟩]
  | .misplacedPatterns =>
    [⟨[optional [[positionalPatterns, ","]], keywordPatterns, ",", positionalPatterns], pick 3⟩]
  | .faultyIf =>
    [⟨["if", namedExpression, newline], refuse "expected ':'"⟩,
     ⟨["if", namedExpression, ":", newline, notAhead indent], refuseBlock 0 "'if' statement"⟩]
  | .faultyElif =>
    [⟨["elif", namedExpression, newline], refuse "expected ':'"⟩,
     ⟨["elif", namedExpression, ":", newline, notAhead indent], refuseBlock 0 "'elif' statement"⟩]
  | .faultyElse => [⟨["else", ":", newline, notAhead indent], refuseBlock 0 "'else' statement"⟩]
  | .faultyWhile =>
    [⟨["while", namedExpression, newline], refuse "expected ':'"⟩,
     ⟨["while", namedExpression, ":", newline, notAhead indent], refuseBlock 0 "'while' statement"⟩]
  | .faultyFor =>
    [⟨[optional [["async"]], "for", starTargets, "in", starExpressions, ":", newline, notAhead indent],
       refuseBlock 1 "'for' statement"⟩]
  | .faultyFunction =>
    [⟨[optional [["async"]], "def", nameToken, "(", optional [[parameterList]], ")", optional [["->",
       anyExpression]], ":", newline, notAhead indent], refuseBlock 1 "function definition"⟩]
  | .faultyClass =>
    [⟨["class", nameToken, optional [["(", optional [[argumentList]], ")"]], newline], refuse "expected ':'"⟩,
     ⟨["class", nameToken, optional [["(", optional [[argumentList]], ")"]], ":", newline, notAhead indent],
       refuseBlock 0 "class definition"⟩]
  | .faultyEntries =>
    [⟨[separated "," entry, ",", faultyEntry], pass⟩,
     ⟨[anyExpression, ":", "*", bitOr], refuseAt 2 "cannot use a starred expression in a dictionary value"⟩,
     ⟨[anyExpression, ":", ahead (oneOf [["\x7d"], [","]])],
       refuseAt 1 "expression expected after dictionary key and ':'"⟩]
  | .faultyEntry =>
    [⟨[anyExpression, notAhead ":"], refuseAt 0 "':' expected after dictionary key"⟩,
     ⟨[anyExpression, ":", "*", bitOr], refuseAt 2 "cannot use a starred expression in a dictionary value"⟩,
     ⟨[anyExpression, ":", ahead (oneOf [["\x7d"], [","]])],
       refuseAt 1 "expression expected after dictionary key and ':'"⟩]
  | _ => []

end Rulebook.Expression
