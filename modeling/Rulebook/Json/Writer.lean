import Rulebook.Value.Equality

/-!
# Writing JSON

A value as one line of JSON in ASCII, with a space after each comma and colon. Tuples are written as
arrays; a value without a JSON form is written as its displayed text.
-/

namespace Rulebook.Json

/-- One code point of a string. -/
def escaped (c : CodePoint) : Text :=
  if c = 0x22 then "\\\"" else if c = 0x5c then "\\\\"
  else if c = 10 then "\\n" else if c = 13 then "\\r" else if c = 9 then "\\t"
  else if c = 8 then "\\b" else if c = 12 then "\\f"
  else if 32 ≤ c ∧ c ≤ 0x7e then [c]
  else if c ≤ 0xffff then "\\u" ++ Text.hex 4 c
  else "\\u" ++ Text.hex 4 (0xd800 + (c - 0x10000) / 0x400) ++ "\\u" ++ Text.hex 4 (0xdc00 + (c - 0x10000) % 0x400)

/-- A text as a JSON string. -/
def string (t : Text) : Text := 0x22 :: t.flatMap escaped ++ [0x22]

/-- A double: its text, and words for those that are not finite. -/
def number : Double → Text
  | .nan => "NaN"
  | .infinite s => if s then "-Infinity" else "Infinity"
  | x => x.text

/-- The name of an object's member: numbers, truth values and null stand as their JSON texts. -/
def memberName : Value → Except Fault Text
  | .text t => .ok t
  | .null => .ok "null"
  | .bool b => .ok (if b then "true" else "false")
  | .int n => integerText n
  | .float x => .ok (number x)
  | v => .error (Fault.wrongType ("keys must be str, int, float, bool or None, not " ++ v.typeName))

mutual

/-- A value as JSON. -/
def write : Value → Except Fault Text
  | .null => .ok "null"
  | .bool b => .ok (if b then "true" else "false")
  | .int n => integerText n
  | .float x => .ok (number x)
  | .text t => .ok (string t)
  | .list items => do return "[" ++ Text.join ", " (← writeAll items []) ++ "]"
  | .tuple items => do return "[" ++ Text.join ", " (← writeAll items []) ++ "]"
  | .mapping entries => do return "\x7b" ++ Text.join ", " (← writeEntries entries []) ++ "\x7d"
  | v => do return string (← v.display)

/-- The members of an array, after those in `done`, which is reversed. -/
def writeAll : List Value → List Text → Except Fault (List Text)
  | [], done => .ok done.reverse
  | v :: rest, done =>
    match write v with
    | .ok t => writeAll rest (t :: done)
    | .error e => .error e

/-- The members of an object, after those in `done`, which is reversed. -/
def writeEntries : List (Value × Value) → List Text → Except Fault (List Text)
  | [], done => .ok done.reverse
  | (k, v) :: rest, done =>
    match memberName k with
    | .error e => .error e
    | .ok name =>
      match write v with
      | .error e => .error e
      | .ok t => writeEntries rest ((string name ++ ": " ++ t) :: done)

end

end Rulebook.Json
