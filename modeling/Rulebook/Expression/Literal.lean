import Rulebook.Expression.Node
import Rulebook.Text.Escape

/-!
# Literals of expressions

The values of number tokens and of runs of quoted texts. Quoted texts that stand side by side are one literal.
-/

namespace Rulebook.Expression

/-- Where an offence is: on a line, or where the reader looked last. -/
inductive Spot where
  | line (n : Nat)
  | latest
  deriving Repr, DecidableEq, Inhabited

/-- What is wrong with a text, before the place is known. -/
structure Complaint where
  kind : OffenceKind
  message : Text
  spot : Spot
  deriving Repr, Inhabited

/-- A complaint about the form at the place where the reader looked last. -/
def complain (message : Text) : Complaint := ⟨.form, message, .latest⟩

/-- A complaint about the form on a line. -/
def complainAt (line : Nat) (message : Text) : Complaint := ⟨.form, message, .line line⟩

/-- A decimal number with a point or an exponent. -/
def pointedNumber (t : Text) : Double :=
  let isMark (c : CodePoint) : Bool := c == 0x65 || c == 0x45
  let mantissa := t.takeWhile fun c => !isMark c
  let exponent := (t.dropWhile fun c => !isMark c).drop 1
  let whole := mantissa.takeWhile (· != 0x2e)
  let fraction := (mantissa.dropWhile (· != 0x2e)).drop 1
  let e : Int :=
    match exponent with
    | 0x2d :: ds => -(Text.digitsValue ds : Int)
    | 0x2b :: ds => Text.digitsValue ds
    | ds => Text.digitsValue ds
  Decimal.toDouble ⟨Text.digitsValue (whole ++ fraction), e - fraction.length⟩ false

/-- The value of a number token. -/
def numberValue (line : Nat) (text : Text) : Except Complaint Value :=
  let t := text.filter (· != 0x5f)
  let based? : Option Nat :=
    match t with
    | 0x30 :: c :: digits =>
      if c = 0x78 ∨ c = 0x58 then some (Text.valueInBase 16 digits)
      else if c = 0x6f ∨ c = 0x4f then some (Text.valueInBase 8 digits)
      else if c = 0x62 ∨ c = 0x42 then some (Text.valueInBase 2 digits)
      else none
    | _ => none
  match based?, t.getLast? with
  | some n, _ => .ok (.int n)
  | none, some 0x6a => .ok (.complex (.zero false) (pointedNumber t.dropLast))
  | none, some 0x4a => .ok (.complex (.zero false) (pointedNumber t.dropLast))
  | none, _ =>
    if t.all Text.isAsciiDigit then
      if 4300 < t.length then
        .error (complainAt line ("Exceeds the limit (4300 digits) for integer string conversion: value has " ++
          Text.ofNat t.length ++ " digits; use sys.set_int_max_str_digits() to increase the limit" ++
          " - Consider hexadecimal for huge integer literals to avoid decimal conversion limits."))
      else .ok (.int (Text.digitsValue t))
    else .ok (.float (pointedNumber t))

/-- The parts of a quoted text: its marks, and the text between the quotes. -/
structure Quotation where
  raw : Bool
  bytes : Bool
  formatted : Bool
  body : Text
  line : Nat

/-- The parts of a quoted token. -/
def Quotation.ofToken (line : Nat) (text : Text) : Quotation :=
  let letters := Text.asciiLower (text.takeWhile Text.isAsciiLetter)
  let quoted := text.drop letters.length
  let width := match quoted with | a :: b :: c :: _ => if a = b ∧ b = c ∧ 6 ≤ quoted.length then 3 else 1 | _ => 1
  let body := (quoted.drop width).take (quoted.length - 2 * width)
  ⟨letters.contains 0x72, letters.contains 0x62, letters.contains 0x66, body, line⟩

/-- A text in ASCII that means the same under escapes. -/
def toAscii : Text → Text → Text
  | done, [] => done.reverse
  | done, 0x5c :: d :: rest =>
    if d < 128 then toAscii (d :: 0x5c :: done) rest
    else toAscii ((Text.hex 8 d).reverse ++ 0x55 :: 0x5c :: ("\\u005c" : Text).reverse ++ done) rest
  | done, c :: rest =>
    if c < 128 then toAscii (c :: done) rest else toAscii ((Text.hex 8 c).reverse ++ 0x55 :: 0x5c :: done) rest

/-- The text of a literal with its escapes decoded. -/
def decodeText (raw : Bool) (body : Text) : Except Complaint Text :=
  if raw || !body.contains 0x5c then .ok body
  else
    match Text.decodeEscapes (toAscii [] body) with
    | .ok t => .ok t
    | .error f =>
      let place : Text :=
        if f.stop = f.start + 1 then "byte 0x5c in position " ++ Text.ofNat f.start
        else "bytes in position " ++ Text.ofNat f.start ++ "-" ++ Text.ofNat (f.stop - 1)
      .error (complain ("(unicode error) 'unicodeescape' codec can't decode " ++ place ++ ": " ++ f.reason))

/-- The bytes of a literal with their escapes decoded. -/
def decodeBytes (q : Quotation) : Except Complaint (List Nat) :=
  if q.body.any (128 ≤ ·) then
    .error (complainAt q.line "bytes can only contain ASCII literal characters")
  else if q.raw then .ok q.body
  else
    match Text.decodeByteEscapes q.body with
    | .ok t => .ok t
    | .error f => .error (complain ("(value error) invalid \\x escape at position " ++ Text.ofNat f.start))

namespace Formatted

/-- Reads an expression inside a formatted text that starts on a line. -/
abbrev Inner := Nat → Text → Except Offence Unit

/-- Why a formatted text cannot be read: by its own form, or by an expression inside. -/
inductive Trouble where
  | own (c : Complaint)
  | inner (o : Offence)

/-- Trouble of the form of a formatted text. -/
def trouble {α : Type} (message : Text) : Except Trouble α := .error (.own (complain message))

/-- The literal part up to a brace. The flag tells that a doubled brace ends it. -/
def literalPart (raw : Bool) (level : Nat) : Nat → Text → Text → Except Trouble (Text × Bool × Text)
  | 0, done, t => .ok (done.reverse, false, t)
  | fuel + 1, done, t =>
    match t with
    | [] => .ok (done.reverse, false, [])
    | 0x5c :: d :: rest =>
      if raw then literalPart raw level fuel (0x5c :: done) (d :: rest)
      else if d = 0x4e then
        match rest with
        | 0x7b :: more =>
          let name := more.takeWhile (· != 0x7d)
          let behind := more.drop (name.length + 1)
          let close := (more.drop name.length).take 1
          literalPart raw level fuel (close ++ name.reverse ++ 0x7b :: 0x4e :: 0x5c :: done) behind
        | c :: more => literalPart raw level fuel (c :: 0x4e :: 0x5c :: done) more
        | [] => .ok ((0x4e :: 0x5c :: done).reverse, false, [])
      else if d = 0x7b ∨ d = 0x7d then literalPart raw level fuel (0x5c :: done) (d :: rest)
      else literalPart raw level fuel (d :: 0x5c :: done) rest
    | c :: rest =>
      if c = 0x7b ∨ c = 0x7d then
        if level = 0 then
          match rest with
          | d :: more =>
            if d = c then .ok ((c :: done).reverse, true, more)
            else if c = 0x7d then trouble "f-string: single '\x7d' is not allowed"
            else .ok (done.reverse, false, t)
          | [] => if c = 0x7d then trouble "f-string: single '\x7d' is not allowed" else .ok (done.reverse, false, t)
        else .ok (done.reverse, false, t)
      else literalPart raw level fuel (c :: done) rest

/-- Ends an expression where no bracket is open. -/
def endsExpression (c : CodePoint) : Bool := c == 0x21 || c == 0x3a || c == 0x7d || c == 0x3d

/-- The expression after a brace, and the rest from the sign on that ends it. -/
def expressionPart : Nat → Option (CodePoint × Bool) → List CodePoint → Text → Text → Except Trouble (Text × Text)
  | 0, _, _, done, t => .ok (done.reverse, t)
  | _ + 1, some _, _, _, [] => trouble "f-string: unterminated string"
  | _ + 1, none, b :: _, _, [] => trouble ("f-string: unmatched '" ++ b :: "'")
  | _ + 1, none, [], _, [] => trouble "f-string: expecting '\x7d'"
  | fuel + 1, quote, opened, done, c :: rest =>
    if c = 0x5c then trouble "f-string expression part cannot include a backslash"
    else
      match quote with
      | some (q, triple) =>
        if c = q then
          if triple then
            match rest with
            | a :: b :: more =>
              if a = q ∧ b = q then expressionPart fuel none opened (b :: a :: c :: done) more
              else expressionPart fuel quote opened (c :: done) rest
            | _ => expressionPart fuel quote opened (c :: done) rest
          else expressionPart fuel none opened (c :: done) rest
        else expressionPart fuel quote opened (c :: done) rest
      | none =>
        if c = 0x22 ∨ c = 0x27 then
          match rest with
          | a :: b :: more =>
            if a = c ∧ b = c then expressionPart fuel (some (c, true)) opened (b :: a :: c :: done) more
            else expressionPart fuel (some (c, false)) opened (c :: done) rest
          | _ => expressionPart fuel (some (c, false)) opened (c :: done) rest
        else if c = 0x5b ∨ c = 0x7b ∨ c = 0x28 then
          if 200 ≤ opened.length then trouble "f-string: too many nested parenthesis"
          else expressionPart fuel none (c :: opened) (c :: done) rest
        else if c = 0x23 then trouble "f-string expression part cannot include '#'"
        else
          let paired := (c = 0x21 ∨ c = 0x3d ∨ c = 0x3c ∨ c = 0x3e) ∧ rest.head? = some 0x3d
          if opened.isEmpty ∧ paired then expressionPart fuel none opened (0x3d :: c :: done) (rest.drop 1)
          else if opened.isEmpty ∧ endsExpression c then .ok (done.reverse, c :: rest)
          else if c = 0x5d ∨ c = 0x7d ∨ c = 0x29 then
            match opened with
            | [] => trouble ("f-string: unmatched '" ++ c :: "'")
            | b :: more =>
              let opening := if c = 0x29 then 0x28 else if c = 0x5d then 0x5b else 0x7b
              if b = opening then expressionPart fuel none more (c :: done) rest
              else
                trouble ("f-string: closing parenthesis '" ++ c :: "' does not match opening parenthesis '" ++ b :: "'")
          else expressionPart fuel none opened (c :: done) rest

/-- White space that does not make an expression. -/
def isGap (c : CodePoint) : Bool := c == 0x20 || c == 9 || c == 10 || c == 12

/-- The rest behind a conversion mark, if there is one. -/
def conversionPart (t : Text) : Except Trouble Text :=
  match t with
  | 0x21 :: rest =>
    match rest with
    | c :: more =>
      if c = 0x73 ∨ c = 0x72 ∨ c = 0x61 then .ok more
      else trouble "f-string: invalid conversion character: expected 's', 'r', or 'a'"
    | [] => trouble "f-string: expecting '\x7d'"
  | _ => .ok t

/-- The number of line ends in a text. -/
def lineEnds (t : Text) : Nat := (t.filter (· == 10)).length

/-- Reads a formatted text up to its end, or inside a format up to the brace behind it; `total` is the length of
the text that starts on the line. -/
def readParts (inner : Inner) (raw : Bool) : Nat → Nat → Nat → Text → Except Trouble (Text × Nat)
  | 0, _, line, t => .ok (t, line)
  | fuel + 1, level, line, t => do
    let (literal, again, rest) ← literalPart raw level (t.length + 1) [] t
    match decodeText raw literal with
    | .error c => throw (.own c)
    | .ok _ =>
      let line := line + lineEnds (t.take (t.length - rest.length))
      if again then readParts inner raw fuel level line rest
      else
        match rest with
        | 0x7b :: body =>
          if 2 ≤ level then throw (.own (complain "f-string: expressions nested too deeply"))
          let (expression, behind) ← expressionPart (body.length + 1) none [] [] body
          if expression.all isGap then throw (.own (complain "f-string: empty expression not allowed"))
          match inner line (0x28 :: expression ++ [0x29]) with
          | .error o => throw (.inner o)
          | .ok () =>
            let line := line + lineEnds expression
            let behind := match behind with | 0x3d :: more => more.dropWhile isGap | _ => behind
            let behind ← conversionPart behind
            match behind with
            | 0x3a :: spec =>
              let (behind, line) ← readParts inner raw fuel (level + 1) line spec
              match behind with
              | 0x7d :: more => readParts inner raw fuel level line more
              | _ => trouble "f-string: expecting '\x7d'"
            | 0x7d :: more => readParts inner raw fuel level line more
            | _ => trouble "f-string: expecting '\x7d'"
        | _ => return (rest, line)

/-- Reads a formatted text. -/
def read (inner : Inner) (q : Quotation) : Except Trouble Unit := do
  let _ ← readParts inner q.raw (2 * q.body.length + 2) 0 q.line q.body

end Formatted

/-- Bytes beside text. -/
def mixedOffence : Complaint := complain "cannot mix bytes and nonbytes literals"

/-- The tree of quoted tokens side by side, each with its line. -/
def readStrings (inner : Formatted.Inner) (tokens : List (Nat × Text)) : Except Formatted.Trouble Node := do
  let quotations := tokens.map fun (line, t) => Quotation.ofToken line t
  let line := (quotations.head?.map Quotation.line).getD 0
  let isBytes := (quotations.head?.map Quotation.bytes).getD false
  let pieces ← quotations.mapM fun q => do
    let mixed := q.bytes != isBytes
    if q.formatted then
      if mixed then throw (.own mixedOffence)
      Formatted.read inner q
      return []
    else
      let piece ← (if q.bytes then decodeBytes q else decodeText q.raw q.body).mapError .own
      if mixed then throw (.own mixedOffence)
      return piece
  if quotations.any Quotation.formatted then return .mk .joined line []
  else if isBytes then return .mk (.constant (.bytes pieces.flatten)) line []
  else return .mk (.constant (.text pieces.flatten)) line []

end Rulebook.Expression
