import Rulebook.Log.Event

/-!
# Configuration

What can be configured: how rules are evaluated, how events are logged, and the whole of both. Each part has
standard values.
-/

namespace Rulebook

/-- What a reference to something undefined does: it fails, or it stands for an empty text. -/
inductive UndefinedPolicy where
  | strict
  | empty
  deriving Repr, DecidableEq, Inhabited

/-- The spelling of a policy. -/
def UndefinedPolicy.spelling : UndefinedPolicy → String
  | strict => "strict"
  | empty => "empty"

/-- How rules are evaluated: what undefined references do, and the greatest length of a search pattern. -/
structure LogicConfig where
  undefinedVariables : UndefinedPolicy
  maxPatternLength : Int
  deriving Repr, DecidableEq, Inhabited

/-- The spelling of a level in configurations. -/
def Level.setting : Level → String
  | debug => "DEBUG"
  | info => "INFO"
  | warning => "WARNING"
  | error => "ERROR"
  | critical => "CRITICAL"

/-- The form of log lines. -/
inductive LogFormat where
  | json
  | console
  deriving Repr, DecidableEq, Inhabited

/-- The spelling of a form. -/
def LogFormat.spelling : LogFormat → String
  | json => "json"
  | console => "console"

/-- How events are logged. -/
structure LoggingConfig where
  level : Level
  format : LogFormat
  redactSensitive : Bool
  deriving Repr, DecidableEq, Inhabited

/-- All settings. -/
structure Settings where
  appName : Text
  debug : Bool
  logic : LogicConfig
  logging : LoggingConfig
  deriving Repr, DecidableEq, Inhabited

/-- Undefined references fail, and a pattern may have a thousand code points. -/
def LogicConfig.standard : LogicConfig := ⟨.strict, 1000⟩

/-- Whole lines of data from the level of information on, without secrets. -/
def LoggingConfig.standard : LoggingConfig := ⟨.info, .json, true⟩

/-- The settings where nothing else is said. -/
def Settings.standard : Settings := ⟨"conflogic", false, .standard, .standard⟩

/-- A mapping of names to values. -/
def namedValues (fields : List (String × Value)) : Value := .mapping (fields.map fun (k, v) => (.text k, v))

/-- The configuration as a value. -/
def LogicConfig.toValue (c : LogicConfig) : Value :=
  namedValues [("undefined_variables", .text c.undefinedVariables.spelling), ("max_pattern_length", .int c.maxPatternLength)]

/-- The configuration as a value. -/
def LoggingConfig.toValue (c : LoggingConfig) : Value :=
  namedValues [("level", .text c.level.setting), ("format", .text c.format.spelling),
    ("redact_sensitive", .bool c.redactSensitive)]

/-- The settings as a value. -/
def Settings.toValue (s : Settings) : Value :=
  namedValues [("app_name", .text s.appName), ("debug", .bool s.debug), ("logic", s.logic.toValue),
    ("observability", namedValues [("logging", s.logging.toValue)])]

end Rulebook
