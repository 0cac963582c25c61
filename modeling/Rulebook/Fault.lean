import Rulebook.Text.Basic

/-!
# Faults

What can go wrong below the level of rules: a kind, which decides who reports it, and a message.
-/

namespace Rulebook

/-- The kinds of faults. -/
inductive FaultKind where
  /-- A value of the wrong type. -/
  | wrongType
  /-- A value of the right type that cannot be used. -/
  | badValue
  /-- A key that a mapping does not have. -/
  | missingKey
  /-- A place outside a sequence. -/
  | outOfRange
  /-- A property that a value does not have. -/
  | missingAttribute
  /-- A name that nothing binds. -/
  | unboundName
  | divisionByZero
  /-- A number beyond what its type can hold. -/
  | overflow
  /-- Something that is left out here: no outcome is known. -/
  | unsupported
  /-- A text that its encoding cannot carry. -/
  | unencodable
  /-- Bytes that are not a text. -/
  | undecodable
  | missingFile
  /-- A directory where a file is needed. -/
  | directoryInstead
  /-- A file where a directory is needed. -/
  | fileInstead
  /-- A configuration file that is not well formed. -/
  | configSyntax
  /-- A setting whose source cannot be read. -/
  | settingSource
  /-- A search pattern that is not well formed. -/
  | patternSyntax
  /-- A template that is not well formed. -/
  | templateSyntax
  /-- A template that uses a filter or test that does not exist. -/
  | templateAssertion
  /-- A template that names no other that could be found. -/
  | missingTemplate
  /-- A template that fails while it is rendered. -/
  | templateRuntime
  /-- A use of a value that is undefined. -/
  | undefinedValue
  /-- A use of a value that the sandbox forbids. -/
  | sandbox
  /-- An expression that is not well formed, or a program that does not compile. -/
  | expressionSyntax
  /-- An expression whose lines are not indented as blocks. -/
  | expressionIndentation
  /-- An expression whose indentation mixes tabs and spaces. -/
  | expressionTabs
  /-- An expression of a form that is not evaluated. -/
  | featureUnavailable
  /-- An expression with an operator that is not evaluated. -/
  | operatorUndefined
  /-- An expression that is empty. -/
  | expressionInvalid
  /-- A literal beyond the limit on lengths. -/
  | literalTooLong
  /-- Nesting or repetition beyond what can be followed. -/
  | tooDeep
  | outOfMemory
  deriving Repr, DecidableEq, Inhabited

/-- A fault: its kind and what is said about it. -/
structure Fault where
  kind : FaultKind
  message : Text
  deriving Repr, DecidableEq, Inhabited

namespace Fault

/-- A value of the wrong type. -/
def wrongType (message : Text) : Fault := ⟨.wrongType, message⟩

/-- A value that cannot be used. -/
def badValue (message : Text) : Fault := ⟨.badValue, message⟩

/-- A number with more digits than are written out. -/
def tooManyDigits : Fault :=
  badValue "Exceeds the limit (4300 digits) for integer string conversion; use sys.set_int_max_str_digits() to increase the limit"

/-- A number with more digits than are read. -/
def longNumber (digits : Nat) : Fault :=
  badValue ("Exceeds the limit (4300 digits) for integer string conversion: value has " ++ Text.ofNat digits ++
    " digits; use sys.set_int_max_str_digits() to increase the limit")

end Fault

end Rulebook
