import Rulebook.Config.Model
import Rulebook.Config.Offence
import Rulebook.Text.Utf8
import Rulebook.Value.Equality

/-!
# Fields of configurations

How the value for a field is read: texts for texts, numbers and truth values also in words, choices by their
exact spelling. A section collects the errors of its fields in their order.
-/

namespace Rulebook.Config

/-- A value that was read, or the errors of its fields. -/
abbrev Checked (α : Type) := Except (List FieldError) α

/-- A field is refused. -/
def refuse {α : Type} (offence : Offence) : Checked α := .error [⟨[], offence⟩]

/-- The value of a field, or its errors under the field's name. -/
def Checked.under {α : Type} (name : String) (x : Checked α) : Checked α :=
  x.mapError fun errors => errors.map fun e => { e with path := name :: e.path }

/-- Two values, or the errors of both in order. -/
def Checked.both {α β : Type} (x : Checked α) (y : Checked β) : Checked (α × β) :=
  match x, y with
  | .ok a, .ok b => .ok (a, b)
  | .error e, .ok _ => .error e
  | .ok _, .error f => .error f
  | .error e, .error f => .error (e ++ f)

/-- White space at the ends of numbers. -/
def isBlank (c : CodePoint) : Bool := Text.isSpace c && !(28 ≤ c && c ≤ 31)

/-- The text that stands for a number or truth value, if the value is a text or bytes. -/
def wording? (unreadable : Offence) : Value → Option (Checked Text)
  | .text t => some (if t.any Text.isSurrogate then refuse .brokenText else .ok t)
  | .bytes d => some (match Text.Utf8.decode d with | .ok t => .ok t | .error _ => refuse unreadable)
  | _ => none

/-- A text field. -/
def readText : Value → Checked Text
  | .text t => .ok t
  | .bytes d => match Text.Utf8.decode d with | .ok t => .ok t | .error _ => refuse .brokenText
  | .byteArray d => match Text.Utf8.decode d with | .ok t => .ok t | .error _ => refuse .brokenText
  | _ => refuse .notText

/-- The words for falsehood. -/
def falseWords : List Text := ["0", "off", "f", "false", "n", "no"]

/-- The words for truth. -/
def trueWords : List Text := ["1", "on", "t", "true", "y", "yes"]

/-- The truth value of a word. -/
def boolOfWord (t : Text) : Checked Bool :=
  let word := Text.asciiLower t
  if falseWords.any (Text.same word) then .ok false
  else if trueWords.any (Text.same word) then .ok true
  else refuse .unreadableBool

/-- An integer of 64 bits with a sign. -/
def isWord (n : Int) : Bool := -9223372036854775808 ≤ n && n < 9223372036854775808

/-- The truth value of zero and one. -/
def boolOfInteger (n : Int) : Checked Bool :=
  if n = 0 then .ok false else if n = 1 then .ok true else if isWord n then refuse .unreadableBool else refuse .notBool

/-- A field for a truth value. -/
def readBool (v : Value) : Checked Bool :=
  match wording? .unreadableBool v with
  | some (.ok t) => boolOfWord t
  | some (.error e) => .error e
  | none =>
    match v with
    | .bool b => .ok b
    | .int n => boolOfInteger n
    | .float x =>
      match x.isIntegral, x.truncate? with
      | true, some n => boolOfInteger n
      | _, _ => refuse .notBool
    | _ => refuse .notBool

/-- Digits with single low lines between them. -/
def plainDigits? : Bool → Text → Text → Option Text
  | afterDigit, done, [] => if afterDigit then some done.reverse else none
  | afterDigit, done, c :: rest =>
    if c = 0x5f then (if afterDigit then plainDigits? false done rest else none)
    else if Text.isAsciiDigit c then plainDigits? true (c :: done) rest
    else none

/-- A text without a point that only zeros follow. -/
def dropZeroFraction (t : Text) : Text :=
  let whole := t.takeWhile (· != 0x2e)
  if ((t.dropWhile (· != 0x2e)).drop 1).all (· == 0x30) then whole else t

/-- The integer of a text: a sign, digits, and a point with zeros. -/
def integerOfText (t : Text) : Checked Int :=
  let body := Text.stripBy isBlank t
  let (negative, digits) :=
    match body with
    | 0x2d :: rest => (true, rest)
    | 0x2b :: rest => (false, rest)
    | _ => (false, body)
  match plainDigits? false [] (dropZeroFraction digits) with
  | none => refuse .unreadableInteger
  | some ds =>
    if maxIntegerDigits < ds.length then refuse .overlongInteger
    else
      let n : Int := Text.digitsValue ds
      .ok (if negative then -n else n)

/-- A field for an integer. -/
def readInteger (v : Value) : Checked Int :=
  match wording? .unreadableInteger v with
  | some (.ok t) => integerOfText t
  | some (.error e) => .error e
  | none =>
    match v with
    | .bool b => .ok (if b then 1 else 0)
    | .int n => .ok n
    | .float x =>
      match x.isIntegral, x.truncate? with
      | true, some n => if isWord n then .ok n else refuse .overlongInteger
      | false, some _ => refuse .fractionalInteger
      | _, none => refuse .notFinite
    | _ => refuse .notInteger

/-- A field for an integer from a bound on. -/
def readAtLeast (bound : Int) (v : Value) : Checked Int := do
  let n ← readInteger v
  if n < bound then refuse (.tooSmall bound) else return n

/-- A field for one of some spellings. -/
def readChoice {α : Type} (options : List (String × α)) (v : Value) : Checked α :=
  match v with
  | .text t =>
    if t.any Text.isSurrogate then refuse .brokenText
    else
      match options.find? fun o => Text.same (Text.ofString o.1) t with
      | some o => .ok o.2
      | none => refuse (.notOneOf (options.map (·.1)))
  | _ => refuse (.notOneOf (options.map (·.1)))

/-- The value of a field of a section, where it is given. -/
def field {α : Type} (entries : List (Value × Value)) (name : String) (standard : α) (read : Value → Checked α) :
    Checked α :=
  match Value.lookupText name entries with
  | some v => (read v).under name
  | none => .ok standard

/-- The entries of a section. -/
def readSection {α : Type} (name : String) (read : List (Value × Value) → Checked α) (v : Value) : Checked α :=
  match v with
  | .mapping entries => read entries
  | _ => refuse (.notSection name)

/-- The configuration of rules from its fields. -/
def readLogic (entries : List (Value × Value)) : Checked LogicConfig := do
  let (policy, limit) ←
    (field entries "undefined_variables" LogicConfig.standard.undefinedVariables
      (readChoice [("strict", .strict), ("empty", .empty)])).both
    (field entries "max_pattern_length" LogicConfig.standard.maxPatternLength (readAtLeast 1))
  return ⟨policy, limit⟩

/-- The levels by their spelling. -/
def levels : List (String × Level) :=
  [Level.debug, .info, .warning, .error, .critical].map fun l => (l.setting, l)

/-- The configuration of logging from its fields. -/
def readLogging (entries : List (Value × Value)) : Checked LoggingConfig := do
  let (level, format, redact) ←
    (field entries "level" LoggingConfig.standard.level (readChoice levels)).both
    ((field entries "format" LoggingConfig.standard.format
        (readChoice [("json", .json), ("console", .console)])).both
      (field entries "redact_sensitive" LoggingConfig.standard.redactSensitive readBool))
  return ⟨level, format, redact⟩

/-- All settings from their fields. -/
def readSettings (entries : List (Value × Value)) : Checked Settings := do
  let observability :=
    readSection "ObservabilityConfig" fun es =>
      field es "logging" LoggingConfig.standard (readSection "LoggingConfig" readLogging)
  let (appName, debug, logic, logging) ←
    (field entries "app_name" Settings.standard.appName readText).both
    ((field entries "debug" Settings.standard.debug readBool).both
      ((field entries "logic" LogicConfig.standard (readSection "LogicConfig" readLogic)).both
        (field entries "observability" LoggingConfig.standard observability)))
  return ⟨appName, debug, logic, logging⟩

end Rulebook.Config
