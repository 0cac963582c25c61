import Rulebook.Number.Places
import Rulebook.Template.Number

/-!
# Texts of values and format texts

The text of a method tells where its owner is kept; such texts are left out. Format texts have places for values. A
place begins with a percent sign; flags, a width and a precision may stand before the letter that says how the value is
written.
-/

namespace Rulebook.Template

/-- Something that is left out. -/
def leftOut (what : Text) : Fault := ⟨.unsupported, what ++ " is not offered"⟩

/-! ### Texts of values -/

mutual

/-- The text of the value tells an address: the value is a method, or has one among its parts. -/
def showsAddress : Value → Bool
  | .method .. => true
  | .list items => anyShowsAddress items
  | .tuple items => anyShowsAddress items
  | .set items => anyShowsAddress items
  | .frozenSet items => anyShowsAddress items
  | .view _ items => anyShowsAddress items
  | .mapping entries => anyEntryShowsAddress entries
  | _ => false

/-- The text of one of the values tells an address. -/
def anyShowsAddress : List Value → Bool
  | [] => false
  | v :: vs => showsAddress v || anyShowsAddress vs

/-- The text of one of the entries tells an address. -/
def anyEntryShowsAddress : List (Value × Value) → Bool
  | [] => false
  | (k, v) :: entries => showsAddress k || showsAddress v || anyEntryShowsAddress entries

end

/-- The plain text of a value, unless it tells an address. -/
def printed (v : Value) : Except Fault Text := if showsAddress v then .error (leftOut "an address") else v.plain

/-- The displayed text of a value, unless it tells an address. -/
def displayed (v : Value) : Except Fault Text := if showsAddress v then .error (leftOut "an address") else v.display

namespace Format

/-- How a place is filled: to the left, with a sign or a blank before positive numbers, in the other form, with
zeros; how wide it is at least; and the precision. -/
structure Style where
  left : Bool
  signed : Bool
  blank : Bool
  other : Bool
  zeros : Bool
  width : Nat
  precision : Option Nat

/-- A style without anything. -/
def Style.plain : Style := ⟨false, false, false, false, false, 0, none⟩

/-- The values for the places that are left. -/
inductive Supply where
  /-- The values of a row. -/
  | row (vs : List Value)
  /-- A single value; whether it may be left over. -/
  | single (v : Value) (mayRemain : Bool)
  /-- The single value has been used. -/
  | used

/-- The next value, and those behind it. -/
def Supply.next : Supply → Except Fault (Value × Supply)
  | row (v :: vs) => .ok (v, row vs)
  | single v _ => .ok (v, used)
  | _ => .error (Fault.wrongType "not enough arguments for format string")

/-- The values are used up as far as they have to be. -/
def Supply.finished : Supply → Bool
  | row vs => vs.isEmpty
  | single _ mayRemain => mayRemain
  | used => true

/-- The style with a flag. -/
def Style.flag? (s : Style) (c : CodePoint) : Option Style :=
  if c = 0x2d then some { s with left := true }
  else if c = 0x2b then some { s with signed := true }
  else if c = 0x20 then some { s with blank := true }
  else if c = 0x23 then some { s with other := true }
  else if c = 0x30 then some { s with zeros := true }
  else none

/-- The flags at the start of a text. -/
def readFlags (s : Style) : Text → Style × Text
  | [] => (s, [])
  | c :: rest =>
    match s.flag? c with
    | some s => readFlags s rest
    | none => (s, c :: rest)

/-- A number that a place may name: what messages call it, the greatest one, and the type that holds it. -/
structure Measure where
  label : Text
  most : Nat
  type : Text

/-- The width of a place. -/
def Measure.width : Measure := ⟨"width", maxSize, "ssize_t"⟩

/-- The precision of a place. -/
def Measure.precision : Measure := ⟨"precision", 2147483647, "int"⟩

/-- A number of digits or, for a star, the next value. -/
def readSize (m : Measure) (supply : Supply) (t : Text) : Except Fault (Option Int × Supply × Text) := do
  match t with
  | 0x2a :: rest =>
    let (v, supply) ← supply.next
    match v.asInteger? with
    | some n => if isWithin m.most n then return (some n, supply, rest) else throw (beyondRange m.type)
    | none => throw (Fault.wrongType "* wants int")
  | _ =>
    let (digits, rest) := Text.spanDigits t
    if digits.isEmpty then return (none, supply, t)
    else if m.most < Text.digitsValue digits then throw (Fault.badValue (m.label ++ " too big"))
    else return (some (Text.digitsValue digits), supply, rest)

/-- A text filled up to the width of a style. A number has its sign and mark kept apart from its digits. -/
def fill (s : Style) (isNumber : Bool) (sign mark body : Text) : Text :=
  let missing := s.width - (sign.length + mark.length + body.length)
  let zeros := isNumber && s.zeros
  if s.left then sign ++ mark ++ body ++ List.replicate missing 0x20
  else if zeros then sign ++ mark ++ List.replicate missing 0x30 ++ body
  else List.replicate missing 0x20 ++ sign ++ mark ++ body

/-- The sign of a number. -/
def signOf (s : Style) (negative : Bool) : Text :=
  if negative then "-" else if s.signed then "+" else if s.blank then " " else []

/-- The digits of a number in base eight. -/
def octal (n : Nat) : Text := Text.ofString (String.ofList (Nat.toDigits 8 n))

/-- The digits of a number in base sixteen. -/
def hexadecimal (n : Nat) : Text := Text.ofString (String.ofList (Nat.toDigits 16 n))

/-- The integer of a number that is written without a fraction. -/
def wholeNumber (c : CodePoint) (v : Value) : Except Fault Int :=
  let refused (kind : Text) : Except Fault Int :=
    .error (Fault.wrongType ("%" ++ [c] ++ " format: " ++ kind ++ " is required, not " ++ v.operandName))
  if c = Text.cp 'o' ∨ c = Text.cp 'x' ∨ c = Text.cp 'X' then
    match v.asInteger? with
    | some n => .ok n
    | none => refused "an integer"
  else
    match v with
    | .undefined u => .error u.fault
    | v =>
      match asNumber? v with
      | some n => n.truncated
      | none => refused "a real number"

/-- A number without a fraction. -/
def whole (s : Style) (c : CodePoint) (v : Value) : Except Fault Text := do
  let n ← wholeNumber c v
  let based := c = Text.cp 'o' ∨ c = Text.cp 'x' ∨ c = Text.cp 'X'
  let digits : Text ←
    if c = Text.cp 'o' then pure (octal n.natAbs)
    else if c = Text.cp 'x' then pure (hexadecimal n.natAbs)
    else if c = Text.cp 'X' then pure (Text.asciiUpper (hexadecimal n.natAbs))
    else integerText n.natAbs
  let digits := List.replicate (s.precision.getD 0 - digits.length) 0x30 ++ digits
  return fill s true (signOf s (n < 0)) (if based && s.other then [0x30, c] else []) digits

/-- A number with a fraction. -/
def real (s : Style) (c : CodePoint) (v : Value) : Except Fault Text := do
  let x ←
    match v with
    | .undefined u => throw u.fault
    | v =>
      match asNumber? v with
      | some n => n.toDouble?
      | none => throw (Fault.wrongType ("must be real number, not " ++ v.operandName))
  let places := s.precision.getD 6
  let small := if c < 0x61 then c + 32 else c
  let body : Text :=
    match x.abs.toFraction? with
    | some (a, b) =>
      if small = Text.cp 'f' then Double.fixedText s.other places a.natAbs b
      else if small = Text.cp 'e' then Double.exponentText s.other places a.natAbs b
      else Double.generalText s.other places a.natAbs b
    | none => if x.isNaN then "nan" else "inf"
  return fill s true (signOf s (x.isNegative && !x.isNaN)) [] (if c < 0x61 then Text.asciiUpper body else body)

/-- A single character. -/
def character (v : Value) : Except Fault Text :=
  match v with
  | .text [c] => .ok [c]
  | v =>
    match v.asInteger? with
    | some n =>
      if 0 ≤ n ∧ n < 0x110000 then .ok [n.toNat] else .error ⟨.overflow, "%c arg not in range(0x110000)"⟩
    | none => .error (Fault.wrongType "%c requires int or char")

/-- A text in ASCII, with every other character escaped. -/
def asciiOnly (t : Text) : Text :=
  t.flatMap fun c =>
    if c < 128 then [c]
    else if c < 0x100 then 0x5c :: 0x78 :: Text.hex 2 c
    else if c < 0x10000 then 0x5c :: 0x75 :: Text.hex 4 c
    else 0x5c :: 0x55 :: Text.hex 8 c

/-- A value written by a letter; `index` is the place of the letter. -/
def written (s : Style) (index : Nat) (c : CodePoint) (v : Value) : Except Fault Text :=
  let cut (t : Text) : Text :=
    match s.precision with
    | some n => t.take n
    | none => t
  let isOneOf (letters : String) : Bool := letters.toList.any fun l => Text.cp l == c
  if isOneOf "sra" then do
    let t ← if c = Text.cp 's' then printed v else displayed v
    return fill s false [] [] (cut (if c = Text.cp 'a' then asciiOnly t else t))
  else if isOneOf "diuoxX" then whole s c v
  else if isOneOf "eEfFgG" then real s c v
  else if c = Text.cp 'c' then do return fill s false [] [] (← character v)
  else
    let shown := if 31 ≤ c ∧ c < 126 then c else 0x3f
    .error (Fault.badValue ("unsupported format character '" ++ [shown] ++ "' (0x" ++ hexadecimal c ++ ") at index " ++
      Text.ofNat index))

/-- The key of a place and the text behind it, from behind its opening bracket on. -/
def readKey : Nat → Text → Text → Option (Text × Text)
  | _, _, [] => none
  | depth, done, c :: rest =>
    if c = 0x29 then
      match depth with
      | 0 => some (done.reverse, rest)
      | depth + 1 => readKey depth (c :: done) rest
    else readKey (if c = 0x28 then depth + 1 else depth) (c :: done) rest

/-- The value under the key of a place. -/
def keyed (mapping : Option Value) (key : Text) : Except Fault Value :=
  match mapping with
  | some (.mapping entries) =>
    match Value.lookupText key entries with
    | some v => .ok v
    | none => .error ⟨.missingKey, Text.display key⟩
  | some (.undefined u) => .error u.fault
  | some (.record kind _ _) => .error (leftOut ("the parts of " ++ kind))
  | some v => .error (Fault.wrongType (v.typeName ++ " indices must be integers or slices, not str"))
  | none => .error (Fault.wrongType "format requires a mapping")

/-- The values for a place that names a key, and the text behind the key. -/
def readKeyed (mapping : Option Value) (supply : Supply) (t : Text) : Except Fault (Supply × Text) :=
  match t with
  | 0x28 :: behind =>
    if mapping.isNone then .error (Fault.wrongType "format requires a mapping")
    else
      match readKey 0 [] behind with
      | none => .error (Fault.badValue "incomplete format key")
      | some (key, rest) => do return (Supply.single (← keyed mapping key) true, rest)
  | _ => .ok (supply, t)

/-- The style with a width; a negative one is a width to the left. -/
def Style.wide (s : Style) (width : Option Int) : Style :=
  match width with
  | some n => { s with width := n.natAbs, left := s.left || n < 0 }
  | none => s

/-- The style with the precision at the start of a text. -/
def readPrecision (s : Style) (supply : Supply) (t : Text) : Except Fault (Style × Supply × Text) :=
  match t with
  | 0x2e :: rest => do
    let (precision, supply, rest) ← readSize .precision supply rest
    return ({ s with precision := some (precision.getD 0).toNat }, supply, rest)
  | _ => .ok (s, supply, t)

/-- The text behind a letter for the size of a number, which means nothing. -/
def skipLength : Text → Text
  | [] => []
  | l :: rest => if l = Text.cp 'h' ∨ l = Text.cp 'l' ∨ l = Text.cp 'L' then rest else l :: rest

/-- The style of a place, up to its letter. -/
def readPlace (mapping : Option Value) (supply : Supply) (t : Text) : Except Fault (Style × Supply × Text) := do
  let (supply, rest) ← readKeyed mapping supply t
  let (style, rest) := readFlags Style.plain rest
  let (width, supply, rest) ← readSize .width supply rest
  let (style, supply, rest) ← readPrecision (style.wide width) supply rest
  return (style, supply, skipLength rest)

/-- The text with values in its places, after `done`, which is reversed; `size` is the length of all of it. -/
def loop (size : Nat) (mapping : Option Value) : Nat → Supply → Text → Text → Except Fault Text
  | 0, _, done, _ => .ok done.reverse
  | _ + 1, supply, done, [] =>
    if supply.finished then .ok done.reverse
    else .error (Fault.wrongType "not all arguments converted during string formatting")
  | fuel + 1, supply, done, c :: rest =>
    if c != 0x25 then loop size mapping fuel supply (c :: done) rest
    else
      match rest with
      | 0x25 :: rest => loop size mapping fuel supply (0x25 :: done) rest
      | _ => do
        let (style, supply, rest) ← readPlace mapping supply rest
        match rest with
        | [] => throw (Fault.badValue "incomplete format")
        | 0x25 :: rest => loop size mapping fuel supply (0x25 :: done) rest
        | letter :: rest =>
          let (v, supply) ← supply.next
          let t ← written style (size - rest.length - 1) letter v
          loop size mapping fuel supply (t.reverse ++ done) rest

/-- The value can be asked for keys. -/
def takesKeys : Value → Bool
  | .mapping _ => true
  | .list _ => true
  | .bytes _ => true
  | .byteArray _ => true
  | .range _ _ _ => true
  | .undefined _ => true
  | .record kind _ _ => Text.same kind "TemplateReference"
  | _ => false

/-- The text with values in its places: those of a tuple one by one, any other value alone. -/
def apply (t : Text) (v : Value) : Except Fault Text :=
  match v with
  | .tuple items => loop t.length none (t.length + 1) (.row items) [] t
  | v =>
    let mapping := if takesKeys v then some v else none
    loop t.length mapping (t.length + 1) (.single v mapping.isSome) [] t

end Format

end Rulebook.Template
