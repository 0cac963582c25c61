import Rulebook.Value.Basic
import Rulebook.Text.Printable

/-!
# Texts of values

A value has two texts: the plain one, which is what a template renders, and the displayed one, which
messages and the members of collections use. They differ for texts, dates and rules. An integer of more
than 4300 digits has neither.
-/

namespace Rulebook

/-- The number of digits up to which integers are written and read. -/
def maxIntegerDigits : Nat := 4300

/-- An integer in decimal, if it is not too long. -/
def integerText (n : Int) : Except Fault Text :=
  let t := Text.ofInt n
  -- a number below 2 ^ 14000 is short enough
  if n.natAbs.log2 < 14000 then .ok t
  else if (Text.ofNat n.natAbs).length ≤ maxIntegerDigits then .ok t
  else .error Fault.tooManyDigits

namespace Text

/-- A code point that is not shown as it is, by its number. -/
def shownByNumber (c : CodePoint) : Text :=
  if c ≤ 0xff then cp '\\' :: cp 'x' :: hex 2 c
  else if c ≤ 0xffff then cp '\\' :: cp 'u' :: hex 4 c
  else cp '\\' :: cp 'U' :: hex 8 c

/-- One code point of a displayed text between the quotes `q`. -/
def shownCodePoint (q c : CodePoint) : Text :=
  if c = q ∨ c = cp '\\' then [cp '\\', c]
  else if c = 9 then "\\t"
  else if c = 10 then "\\n"
  else if c = 13 then "\\r"
  else if isPrintable c then [c]
  else shownByNumber c

/-- The quote around a displayed text: the single one, unless only that one occurs in it. -/
def displayQuote (t : Text) : CodePoint :=
  if t.contains (cp '\'') && !t.contains (cp '"') then cp '"' else cp '\''

/-- A text as messages show it. -/
def display (t : Text) : Text :=
  let q := displayQuote t
  q :: t.flatMap (shownCodePoint q) ++ [q]

/-- One byte of displayed bytes between the quotes `q`. -/
def shownByte (q b : Nat) : Text :=
  if b = q ∨ b = cp '\\' then [cp '\\', b]
  else if b = 9 then "\\t"
  else if b = 10 then "\\n"
  else if b = 13 then "\\r"
  else if 32 ≤ b ∧ b < 127 then [b]
  else cp '\\' :: cp 'x' :: hex 2 b

/-- Bytes as messages show them. -/
def displayBytes (data : List Nat) : Text :=
  let q := displayQuote data
  cp 'b' :: q :: data.flatMap (shownByte q) ++ [q]

/-- A number with zeros in front up to a width. -/
def padded (width n : Nat) : Text :=
  let digits := ofNat n
  List.replicate (width - digits.length) (cp '0') ++ digits

end Text

/-- The sign, hours and minutes of a number of seconds. -/
def Offset.text : Offset → Text
  | .utc => "+00:00"
  | .seconds s =>
    let n := s.natAbs
    (if s < 0 then "-" else "+" : Text) ++ Text.padded 2 (n / 3600) ++ ":" ++ Text.padded 2 (n / 60 % 60)

/-- Year, month and day. -/
def Date.text (d : Date) : Text :=
  Text.padded 4 d.year ++ "-" ++ Text.padded 2 d.month ++ "-" ++ Text.padded 2 d.day

/-- Hour, minute and second, and the microseconds if there are any. -/
def Time.text (t : Time) : Text :=
  Text.padded 2 t.hour ++ ":" ++ Text.padded 2 t.minute ++ ":" ++ Text.padded 2 t.second ++
    (if t.microsecond = 0 then [] else "." ++ Text.padded 6 t.microsecond : Text)

/-- The date, a separator, the time and the offset. -/
def dateTimeText (separator : Text) (d : Date) (t : Time) (offset : Option Offset) : Text :=
  d.text ++ separator ++ t.text ++ (match offset with | none => [] | some o => o.text)

/-- Numbers between commas. -/
def numberList (ns : List Nat) : Text := Text.join ", " (ns.map Text.ofNat)

/-- The numbers of a time of day, without zeros at the end after the minutes. -/
def Time.displayParts (t : Time) : List Nat :=
  if t.microsecond ≠ 0 then [t.hour, t.minute, t.second, t.microsecond]
  else if t.second ≠ 0 then [t.hour, t.minute, t.second]
  else [t.hour, t.minute]

/-- The offset as messages show it. -/
def Offset.display : Offset → Text
  | .utc => "datetime.timezone.utc"
  | .seconds s =>
    if 0 ≤ s then "datetime.timezone(datetime.timedelta(seconds=" ++ Text.ofInt s ++ "))"
    else "datetime.timezone(datetime.timedelta(days=-1, seconds=" ++ Text.ofInt (86400 + s) ++ "))"

/-- The name under which an operator is listed. -/
def Operator.label : Operator → String
  | .eq => "EQ"
  | .ne => "NE"
  | .lt => "LT"
  | .gt => "GT"
  | .numLt => "NUM_LT"
  | .numGt => "NUM_GT"
  | .numEq => "NUM_EQ"
  | .search => "MATCH"

/-- A truth value as texts show it. -/
def boolText (b : Bool) : Text := if b then "True" else "False"

/-- A condition as messages show it. -/
def Condition.display (c : Condition) : Text :=
  let right : Text :=
    match c.comparison with
    | .bare v => "LiteralComparison(kind='literal', value=" ++ Text.display v ++ ")"
    | .under op v =>
      "OperatorComparison(kind='operator', operator=<Operator." ++ (op.label : Text) ++ ": '" ++
        (op.spelling : Text) ++ "'>, value=" ++ Text.display v ++ ")"
  "Condition(field=FieldRef(token=" ++ Text.display c.field.token ++ ", negated=" ++ boolText c.field.negated ++
    "), comparison=" ++ right ++ ")"

/-- The plain text of a rule. -/
def Rule.text (r : Rule) : Text :=
  let parts := r.conditions.map Condition.display
  "conditions=(" ++ Text.join ", " parts ++ (if parts.length = 1 then ",)" else ")")

/-- The members of a tuple between parentheses; a single one is followed by a comma. -/
def tupleText (parts : List Text) : Text :=
  match parts with
  | [one] => "(" ++ one ++ ",)"
  | _ => "(" ++ Text.join ", " parts ++ ")"

/-- The fault of using something undefined. -/
def Undefined.fault (u : Undefined) : Fault := ⟨if u.forbidden then .sandbox else .undefinedValue, u.message⟩

/-- The name of a view. -/
def ViewKind.label : ViewKind → String
  | .keys => "dict_keys"
  | .values => "dict_values"
  | .items => "dict_items"

/-- A double as a part of a complex number: without a point that only a zero follows. -/
def Double.partText (x : Double) : Text :=
  let t := x.text
  if Text.endsWith t ".0" then t.take (t.length - 2) else t

/-- A complex number: the imaginary part alone if the real part is the positive zero, else both in brackets. -/
def complexText (re im : Double) : Text :=
  if re.isZero && !re.isNegative then im.partText ++ "j"
  else
    let sign : Text := if im.isNegative then [] else "+"
    "(" ++ re.partText ++ sign ++ im.partText ++ "j)"

namespace Value

/-- The name of a value's type. -/
def typeName : Value → Text
  | null => "NoneType"
  | bool _ => "bool"
  | int _ => "int"
  | float _ => "float"
  | complex .. => "complex"
  | ellipsis => "ellipsis"
  | text _ => "str"
  | bytes _ => "bytes"
  | byteArray _ => "bytearray"
  | list _ => "list"
  | tuple _ => "tuple"
  | set _ => "set"
  | frozenSet _ => "frozenset"
  | mapping _ => "dict"
  | range .. => "range"
  | date _ => "date"
  | time _ => "time"
  | dateTime .. => "datetime"
  | rule _ => "Rule"
  | undefined u => if u.strict then "StrictUndefined" else "Undefined"
  | view k _ => k.label
  | method .. => "builtin_function_or_method"
  | function _ t _ => t
  | templateFunction .. => "Macro"
  | record t _ _ => t

/-- The name of a value's type with its family, as faults about operands give it. -/
def operandName : Value → Text
  | date _ => "datetime.date"
  | time _ => "datetime.time"
  | dateTime .. => "datetime.datetime"
  | v => v.typeName

mutual

/-- The displayed text of a value. -/
def display : Value → Except Fault Text
  | null => .ok "None"
  | bool b => .ok (boolText b)
  | int n => integerText n
  | float x => .ok x.text
  | complex re im => .ok (complexText re im)
  | ellipsis => .ok "Ellipsis"
  | text t => .ok (Text.display t)
  | bytes data => .ok (Text.displayBytes data)
  | byteArray data => .ok ("bytearray(" ++ Text.displayBytes data ++ ")")
  | list items => do return "[" ++ Text.join ", " (← displayAll items []) ++ "]"
  | tuple items => do return tupleText (← displayAll items [])
  | set items => do
    let parts ← displayAll items []
    return if parts.isEmpty then "set()" else "\x7b" ++ Text.join ", " parts ++ "\x7d"
  | frozenSet items => do
    let parts ← displayAll items []
    return if parts.isEmpty then "frozenset()" else "frozenset(\x7b" ++ Text.join ", " parts ++ "\x7d)"
  | mapping entries => do return "\x7b" ++ Text.join ", " (← displayEntries entries []) ++ "\x7d"
  | range a b s =>
    .ok ("range(" ++ Text.ofInt a ++ ", " ++ Text.ofInt b ++ (if s = 1 then [] else ", " ++ Text.ofInt s : Text) ++ ")")
  | date d => .ok ("datetime.date(" ++ numberList [d.year, d.month, d.day] ++ ")")
  | time t => .ok ("datetime.time(" ++ numberList t.displayParts ++ ")")
  | dateTime d t offset =>
    .ok ("datetime.datetime(" ++ numberList ([d.year, d.month, d.day] ++ t.displayParts) ++
      (match offset with | none => [] | some o => ", tzinfo=" ++ o.display) ++ ")")
  | rule r => .ok ("Rule(" ++ r.text ++ ")")
  | undefined _ => .ok "Undefined"
  | view k items => do return (k.label : Text) ++ "([" ++ Text.join ", " (← displayAll items []) ++ "])"
  | method receiver name => .ok ("<built-in method " ++ name ++ " of " ++ receiver.typeName ++ " object>")
  | function _ _ shown => .ok shown
  | templateFunction _ name => .ok ("<Macro " ++ Text.display name ++ ">")
  | record _ shown _ => .ok shown

/-- The displayed texts of values, after those in `done`, which is reversed. -/
def displayAll : List Value → List Text → Except Fault (List Text)
  | [], done => .ok done.reverse
  | v :: rest, done =>
    match v.display with
    | .ok t => displayAll rest (t :: done)
    | .error e => .error e

/-- The displayed texts of entries, after those in `done`, which is reversed. -/
def displayEntries : List (Value × Value) → List Text → Except Fault (List Text)
  | [], done => .ok done.reverse
  | (k, v) :: rest, done =>
    match k.display with
    | .error e => .error e
    | .ok a =>
      match v.display with
      | .error e => .error e
      | .ok b => displayEntries rest ((a ++ ": " ++ b) :: done)

end

/-- The plain text of a value. -/
def plain : Value → Except Fault Text
  | text t => .ok t
  | date d => .ok d.text
  | time t => .ok t.text
  | dateTime d t offset => .ok (dateTimeText " " d t offset)
  | rule r => .ok r.text
  | undefined u => if u.strict then .error u.fault else .ok []
  | v => v.display

end Value

end Rulebook
