import Rulebook.Value.Equality

/-!
# Reading JSON

A JSON text as a value: objects become mappings in the given order, numbers without fraction and exponent
become integers, all others doubles. Escaped surrogates join to one code point where they form a pair and
stay alone where they do not. The reader keeps its open arrays and objects on a stack of its own.
-/

namespace Rulebook.Json

/-- White space between tokens. -/
def isBlank (c : CodePoint) : Bool := c == 32 || c == 9 || c == 10 || c == 13

/-- Four hexadecimal digits and the rest. -/
def readHex4 : Text → Option (Nat × Text)
  | a :: b :: c :: d :: rest => do
    let a ← Text.hexValue? a
    let b ← Text.hexValue? b
    let c ← Text.hexValue? c
    let d ← Text.hexValue? d
    return (((a * 16 + b) * 16 + c) * 16 + d, rest)
  | _ => none

/-- The code point of a one-letter escape. -/
def simpleEscape? (c : CodePoint) : Option CodePoint :=
  if c = 0x22 ∨ c = 0x5c ∨ c = 0x2f then some c
  else if c = Text.cp 'b' then some 8
  else if c = Text.cp 'f' then some 12
  else if c = Text.cp 'n' then some 10
  else if c = Text.cp 'r' then some 13
  else if c = Text.cp 't' then some 9
  else none

/-- The body of a string after its opening quote, with the code points read so far in reverse. -/
def readString : Nat → Text → Text → Option (Text × Text)
  | 0, _, _ => none
  | _ + 1, _, [] => none
  | fuel + 1, done, c :: rest =>
    if c = 0x22 then some (done.reverse, rest)
    else if c < 32 then none
    else if c ≠ 0x5c then readString fuel (c :: done) rest
    else
      match rest with
      | [] => none
      | e :: rest =>
        if e ≠ Text.cp 'u' then
          match simpleEscape? e with
          | some c => readString fuel (c :: done) rest
          | none => none
        else
          match readHex4 rest with
          | none => none
          | some (high, rest) =>
            let single := readString fuel (high :: done) rest
            if 0xd800 ≤ high ∧ high ≤ 0xdbff then
              match rest with
              | 0x5c :: 0x75 :: more =>
                match readHex4 more with
                | some (low, more) =>
                  if 0xdc00 ≤ low ∧ low ≤ 0xdfff then
                    readString fuel ((0x10000 + (high - 0xd800) * 0x400 + (low - 0xdc00)) :: done) more
                  else single
                | none => none
              | _ => single
            else single

/-- An exponent mark with its digits, if one follows. -/
def readExponent (t : Text) : Option (Int × Text) :=
  match t with
  | e :: rest =>
    if e = Text.cp 'e' ∨ e = Text.cp 'E' then
      let (negative, rest) :=
        match rest with
        | s :: more => if s = Text.cp '-' then (true, more) else if s = Text.cp '+' then (false, more) else (false, rest)
        | [] => (false, rest)
      let (digits, rest) := Text.spanDigits rest
      if digits.isEmpty then none
      else some (if negative then -(Text.digitsValue digits : Int) else Text.digitsValue digits, rest)
    else none
  | [] => none

/-- A number after its sign. With a limit, an integer of more digits is refused. -/
def readNumber (limit : Option Nat) (negative : Bool) (t : Text) : Option (Value × Text) :=
  let (digits, rest) := Text.spanDigits t
  match digits with
  | [] => none
  | first :: more =>
    -- a leading zero stands alone
    let (digits, rest) := if first = 0x30 ∧ !more.isEmpty then ([first], more ++ rest) else (digits, rest)
    let (fraction, rest) :=
      match rest with
      | 0x2e :: after =>
        let (fraction, tail) := Text.spanDigits after
        if fraction.isEmpty then ([], rest) else (fraction, tail)
      | _ => ([], rest)
    match readExponent rest with
    | some (e, rest) =>
      let d : Decimal := ⟨Text.digitsValue (digits ++ fraction), e - fraction.length⟩
      some (.float (d.toDouble negative), rest)
    | none =>
      if fraction.isEmpty then
        if limit.any (· < digits.length) then none
        else
          let n : Int := Text.digitsValue digits
          some (.int (if negative then -n else n), rest)
      else
        let d : Decimal := ⟨Text.digitsValue (digits ++ fraction), -(fraction.length : Int)⟩
        some (.float (d.toDouble negative), rest)

/-- The literal words. -/
def words : List (Text × Value) :=
  [("null", .null), ("true", .bool true), ("false", .bool false), ("NaN", .float .nan),
   ("Infinity", .float (.infinite false)), ("-Infinity", .float (.infinite true))]

/-- A literal word. -/
def readWord (t : Text) : Option (Value × Text) :=
  words.findSome? fun (w, v) => (Text.after? w t).map fun rest => (v, rest)

/-- An array or object that is still open, with its members so far in reverse. -/
inductive Frame where
  | array (done : List Value)
  | object (done : List (Value × Value)) (key : Text)

/-- What the reader looks for next. -/
inductive Expect where
  /-- A value. -/
  | value
  /-- The first value of an array, or its end. -/
  | firstItem
  /-- The first key of an object, or its end. -/
  | firstKey (done : List (Value × Value))
  /-- A key of an object. -/
  | key (done : List (Value × Value))
  /-- What follows a finished value. -/
  | after (v : Value)

/-- A key with its colon. -/
def readKey (t : Text) : Option (Text × Text) :=
  match t with
  | 0x22 :: rest => do
    let (key, rest) ← readString (rest.length + 1) [] rest
    match rest.dropWhile isBlank with
    | 0x3a :: rest => return (key, rest)
    | _ => none
  | _ => none

/-- One token after the other, with the open arrays and objects, innermost first. -/
def readLoop (limit : Option Nat) : Nat → List Frame → Expect → Text → Option (Value × Text)
  | 0, _, _, _ => none
  | fuel + 1, stack, expect, t =>
    match expect with
    | .value =>
      match t.dropWhile isBlank with
      | [] => none
      | 0x22 :: rest =>
        match readString (rest.length + 1) [] rest with
        | some (s, rest) => readLoop limit fuel stack (.after (.text s)) rest
        | none => none
      | 0x5b :: rest => readLoop limit fuel stack .firstItem rest
      | 0x7b :: rest => readLoop limit fuel stack (.firstKey []) rest
      | u =>
        match readWord u with
        | some (v, rest) => readLoop limit fuel stack (.after v) rest
        | none =>
          let number := match u with
            | 0x2d :: rest => readNumber limit true rest
            | _ => readNumber limit false u
          match number with
          | some (v, rest) => readLoop limit fuel stack (.after v) rest
          | none => none
    | .firstItem =>
      match t.dropWhile isBlank with
      | 0x5d :: rest => readLoop limit fuel stack (.after (.list [])) rest
      | u => readLoop limit fuel (.array [] :: stack) .value u
    | .firstKey done =>
      match t.dropWhile isBlank with
      | 0x7d :: rest => readLoop limit fuel stack (.after (.mapping [])) rest
      | u => readLoop limit fuel stack (.key done) u
    | .key done =>
      match readKey (t.dropWhile isBlank) with
      | some (key, rest) => readLoop limit fuel (.object done key :: stack) .value rest
      | none => none
    | .after v =>
      match stack with
      | [] => some (v, t)
      | .array done :: below =>
        match t.dropWhile isBlank with
        | 0x2c :: rest => readLoop limit fuel (.array (v :: done) :: below) .value rest
        | 0x5d :: rest => readLoop limit fuel below (.after (.list (v :: done).reverse)) rest
        | _ => none
      | .object done key :: below =>
        let done := (.text key, v) :: done
        match t.dropWhile isBlank with
        | 0x2c :: rest => readLoop limit fuel below (.key done) rest
        | 0x7d :: rest => readLoop limit fuel below (.after (.mapping (Value.entriesOf done.reverse))) rest
        | _ => none

/-- A JSON text as a value, with at most `limit` digits to an integer. -/
def read (limit : Option Nat) (t : Text) : Option Value :=
  match readLoop limit (4 * t.length + 4) [] .value t with
  | some (v, rest) => if (rest.dropWhile isBlank).isEmpty then some v else none
  | none => none

end Rulebook.Json
