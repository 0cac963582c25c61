import Rulebook.Config.Model
import Rulebook.Log.Traced
import Rulebook.Template.Names
import Rulebook.Template.Placeholder
import Rulebook.Template.Program
import Rulebook.Template.Reader
import Rulebook.Template.Render

/-!
# Interpolation

A token that starts with the mark of a variable is rendered with the variables; any other token stands for
itself. What goes wrong becomes an error about the reference.
-/

namespace Rulebook

/-- The variables that a template is rendered with, from the value given for them. -/
def renderVariables (bindings : Value) : Except Fault (List (Value × Value)) :=
  match bindings with
  | .mapping entries =>
    if entries.any fun (k, _) => match k with | .text _ => false | _ => true then
      .error (Fault.wrongType "keywords must be strings")
    else if (Value.lookupText "self" entries).isSome then
      .error (Fault.wrongType "Template.render() got multiple values for argument 'self'")
    else .ok entries
  | v =>
    .error (Fault.wrongType ("jinja2.environment.Template.render() argument after ** must be a mapping, not " ++
      v.operandName))

/-- The text of a template with variables. -/
def renderTemplate (policy : UndefinedPolicy) (source : Text) (bindings : Value) : Except Fault Text := do
  let strict := policy == .strict
  let template ← Template.compile strict (← Template.read source)
  Template.render strict (4000 + 4 * source.length) template (← renderVariables bindings)

/-- The event that reports a fault of a reference, for the faults that become errors of the reference. -/
def interpolationEvent? (kind : FaultKind) : Option String :=
  match kind with
  | .templateSyntax => some "interpolation_syntax_error"
  | .templateAssertion => some "interpolation_syntax_error"
  | .undefinedValue => some "interpolation_undefined_variable"
  | .sandbox => some "interpolation_failed"
  | .templateRuntime => some "interpolation_failed"
  | .missingTemplate => some "interpolation_failed"
  | .wrongType => some "interpolation_failed"
  | .badValue => some "interpolation_failed"
  | .unencodable => some "interpolation_failed"
  | .undecodable => some "interpolation_failed"
  | _ => none

/-- The text that a token stands for. -/
def interpolate (policy : UndefinedPolicy) (token : Text) (bindings : Value) : Traced Text :=
  if isReference token then
    match renderTemplate policy (toTemplate token) bindings with
    | .ok t => pure t
    | .error fault =>
      match interpolationEvent? fault.kind with
      | some name => do
        Traced.report .interpolation .error name [("reference", .text token), ("error", .text fault.message)]
        Traced.logicError (.reference token fault)
      | none => Traced.fail (.fault fault)
  else pure token

/-- The names from outside of a template that is well formed. -/
def templateNames (source : Text) : Except Fault (List Text) := do
  let body ← Template.read source
  let _ ← Template.prepare false body
  return Template.undeclaredNames body

/-- The names of the variables that a token refers to. -/
def tokenVariables (token : Text) : Except Failure (List Text) :=
  if isReference token then
    match templateNames (toTemplate token) with
    | .ok names => .ok names
    | .error fault =>
      if fault.kind == .templateSyntax || fault.kind == .templateAssertion then
        .error (.logic (.reference token fault))
      else .error (.fault fault)
  else .ok []

/-- The names of the variables that a rule refers to, in order. -/
def Rule.variablesUsed (r : Rule) : Except Failure (List Text) := do
  let names ← r.tokens.mapM tokenVariables
  return Text.sorted (Text.distinct names.flatten)

end Rulebook
