import Rulebook.Text.Basic

/-!
# Offences of configuration values

What can be wrong with a value for a field, and where the field is.
-/

namespace Rulebook

/-- What is wrong with a value for a field. -/
inductive Offence where
  | notText
  /-- A text or bytes that no encoding carries. -/
  | brokenText
  | notBool
  | unreadableBool
  | notInteger
  | unreadableInteger
  | fractionalInteger
  | notFinite
  | overlongInteger
  | tooSmall (bound : Int)
  | notOneOf (options : List String)
  /-- No mapping where a section of this name is needed. -/
  | notSection (name : String)
  deriving Repr, DecidableEq, Inhabited

namespace Offence

/-- The short name of an offence. -/
def code : Offence → String
  | notText => "string_type"
  | brokenText => "string_unicode"
  | notBool => "bool_type"
  | unreadableBool => "bool_parsing"
  | notInteger => "int_type"
  | unreadableInteger => "int_parsing"
  | fractionalInteger => "int_from_float"
  | notFinite => "finite_number"
  | overlongInteger => "int_parsing_size"
  | tooSmall _ => "greater_than_equal"
  | notOneOf _ => "literal_error"
  | notSection _ => "model_type"

/-- Words between single quotes, with "or" before the last. -/
def choices : List String → Text
  | [] => []
  | [a] => "'" ++ (a : Text) ++ "'"
  | [a, b] => "'" ++ (a : Text) ++ "' or '" ++ (b : Text) ++ "'"
  | a :: rest => "'" ++ (a : Text) ++ "', " ++ choices rest

/-- The wording of an offence. -/
def message : Offence → Text
  | notText => "Input should be a valid string"
  | brokenText => "Input should be a valid string, unable to parse raw data as a unicode string"
  | notBool => "Input should be a valid boolean"
  | unreadableBool => "Input should be a valid boolean, unable to interpret input"
  | notInteger => "Input should be a valid integer"
  | unreadableInteger => "Input should be a valid integer, unable to parse string as an integer"
  | fractionalInteger => "Input should be a valid integer, got a number with a fractional part"
  | notFinite => "Input should be a finite number"
  | overlongInteger => "Unable to parse input string as an integer, exceeded maximum size"
  | tooSmall bound => "Input should be greater than or equal to " ++ Text.ofInt bound
  | notOneOf options => "Input should be " ++ choices options
  | notSection name => "Input should be a valid dictionary or instance of " ++ (name : Text)

end Offence

/-- An offence of the field at the end of a path. -/
structure FieldError where
  path : List String
  offence : Offence
  deriving Repr, DecidableEq, Inhabited

end Rulebook
