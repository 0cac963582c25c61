import Rulebook.Value.Printer

/-!
# Errors of rules

Every failure of a rule by its cause. The wording of a cause is `LogicError.message`.
-/

namespace Rulebook

/-- The places of a rule where a scalar stands. -/
inductive Role where
  | field
  | operator
  | comparand
  deriving Repr, DecidableEq, Inhabited

/-- The word for a place. -/
def Role.label : Role → String
  | field => "field"
  | operator => "operator"
  | comparand => "comparand"

/-- How rule data can have the wrong shape. -/
inductive ShapeError where
  /-- The data is not a sequence; its displayed text. -/
  | notASequence (shown : Text)
  /-- The elements do not pair up. -/
  | oddLength (length : Nat)
  /-- An operator mapping without exactly one entry; their number and the displayed mapping. -/
  | entryCount (count : Nat) (shown : Text)
  /-- A scalar that could be meant in two ways. -/
  | ambiguousScalar (role : Role) (shown : Text)
  /-- A value where a scalar is needed. -/
  | notAScalar (role : Role) (typeName : Text)
  /-- A collection where a comparison is needed. -/
  | notAComparison (typeName : Text)
  deriving Repr, DecidableEq, Inhabited

/-- A failure of a rule. -/
inductive LogicError where
  /-- The rule data has the wrong shape. -/
  | shape (cause : ShapeError)
  /-- An operator that is not supported, by its normalized name. -/
  | unknownOperator (name : Text)
  /-- A pattern that could run code. -/
  | inlineCode (pattern : Text)
  /-- A pattern beyond the limit on lengths. -/
  | patternTooLong (limit : Int) (pattern : Text)
  /-- A reference that cannot be resolved. -/
  | reference (token : Text) (cause : Fault)
  /-- A comparison that cannot be performed. -/
  | comparison (expression : Text) (cause : Fault)
  /-- A numeric operand that is no number that can be held. -/
  | operand (text : Text) (cause : Fault)
  /-- A pattern that is not well formed. -/
  | invalidPattern (pattern : Text) (cause : Fault)
  deriving Repr, DecidableEq, Inhabited

/-- The classes of rule errors that reports tell apart. -/
inductive ErrorClass where
  | config
  | unknownOperator
  | security
  | template
  | evaluation
  deriving Repr, DecidableEq, Inhabited

/-- The name of a class in reports. -/
def ErrorClass.label : ErrorClass → String
  | config => "ConfigError"
  | unknownOperator => "UnknownOperatorError"
  | security => "SecurityError"
  | template => "TemplateError"
  | evaluation => "EvaluationError"

/-- The text whose presence makes a pattern unsafe. -/
def inlineCodeMark : Text := [0x3f, 0x7b]

/-- The wording of a wrong shape. -/
def ShapeError.message : ShapeError → Text
  | notASequence shown => "Unknown type: " ++ shown
  | oddLength n =>
    "Rule has an odd number of elements (" ++ Text.ofNat n ++ "); expected field/comparison pairs"
  | entryCount n shown =>
    "Operator mapping must have exactly one entry, got " ++ Text.ofNat n ++ ": " ++ shown
  | ambiguousScalar role shown => "Unsupported " ++ (role.label : Text) ++ " value: " ++ shown
  | notAScalar role typeName => "Unsupported " ++ (role.label : Text) ++ " type: " ++ typeName
  | notAComparison typeName => "Unsupported comparison type: " ++ typeName

namespace LogicError

/-- The class of an error. -/
def errorClass : LogicError → ErrorClass
  | shape _ => .config
  | unknownOperator _ => .unknownOperator
  | inlineCode _ => .security
  | patternTooLong .. => .security
  | reference .. => .template
  | comparison .. => .evaluation
  | operand .. => .evaluation
  | invalidPattern .. => .evaluation

/-- The opening words about a reference that cannot be resolved. -/
def referenceLead (kind : FaultKind) (token : Text) : Text :=
  match kind with
  | .templateSyntax => "Invalid variable reference '" ++ token ++ "': "
  | .templateAssertion => "Invalid variable reference '" ++ token ++ "': "
  | .undefinedValue => "Missing variable in '" ++ token ++ "': "
  | _ => "Cannot interpolate '" ++ token ++ "': "

/-- The wording of an error. -/
def message : LogicError → Text
  | shape cause => cause.message
  | unknownOperator name => "Unknown op: " ++ name
  | inlineCode pattern =>
    "Trapped unsafe regex construct '" ++ inlineCodeMark ++ "' in: " ++ pattern
  | patternTooLong limit pattern =>
    "Regex of length " ++ Text.ofNat pattern.length ++ " exceeds limit of " ++ Text.ofInt limit
  | reference token cause => referenceLead cause.kind token ++ cause.message
  | comparison expression cause => "Comparison '" ++ expression ++ "' failed: " ++ cause.message
  | operand _ cause => "Cannot convert operand to a number: " ++ cause.message
  | invalidPattern pattern cause => "Invalid regex '" ++ pattern ++ "': " ++ cause.message

/-- The fault behind an error, if there is one. -/
def cause? : LogicError → Option Fault
  | reference _ cause => some cause
  | comparison _ cause => some cause
  | operand _ cause => some cause
  | invalidPattern _ cause => some cause
  | _ => none

end LogicError

/-- Why something about rules ends without an answer: an error of the rule, or a fault that is none. -/
inductive Failure where
  | logic (error : LogicError)
  | fault (fault : Fault)
  deriving Repr, DecidableEq, Inhabited

instance : Coe LogicError Failure := ⟨.logic⟩

instance : Coe Fault Failure := ⟨.fault⟩

end Rulebook
