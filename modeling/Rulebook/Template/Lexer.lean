import Rulebook.Template.Token
import Rulebook.Text.Digit
import Rulebook.Text.Escape
import Rulebook.Text.Identifier
import Rulebook.Text.Word

/-!
# Lexing templates

Line ends are unified and one line feed at the end is dropped. Outside of tags everything is data; a minus
sign on the inside of a tag takes away the white space on its other side. Inside a tag the closing mark is
looked for only where all brackets are closed.
-/

namespace Rulebook.Template

/-- The text with each kind of line end as one line feed, behind the reversed result so far. -/
def unifyLinesLoop : Text → Text → Text
  | done, [] => done.reverse
  | done, 13 :: 10 :: rest => unifyLinesLoop (10 :: done) rest
  | done, c :: rest => unifyLinesLoop ((if c = 13 then 10 else c) :: done) rest

/-- The text with each kind of line end as one line feed. -/
def unifyLines (t : Text) : Text := unifyLinesLoop [] t

/-- The text without one line feed at its end. -/
def dropLastLineFeed (t : Text) : Text :=
  match t.reverse with
  | 10 :: rest => rest.reverse
  | _ => t

/-- The number of line feeds. -/
def countLines (t : Text) : Nat := t.foldl (fun n c => if c = 10 then n + 1 else n) 0

/-- The rest behind white space. -/
def skipSpace (t : Text) : Text := t.dropWhile Text.isSpace

/-- A sign on the inside of a tag. -/
inductive Trim where
  | none
  | keep
  | strip
  deriving Repr, DecidableEq, Inhabited

/-- A sign after the opening of a tag, and the rest. -/
def readTrim : Text → Trim × Text
  | 0x2d :: rest => (.strip, rest)
  | 0x2b :: rest => (.keep, rest)
  | t => (.none, t)

/-- The rest behind the end of a statement tag. -/
def afterBlockEnd? : Text → Option Text
  | 0x2b :: 0x25 :: 0x7d :: rest => some rest
  | 0x2d :: 0x25 :: 0x7d :: rest => some (skipSpace rest)
  | 0x25 :: 0x7d :: rest => some rest
  | _ => none

/-- The rest behind the end of a placeholder. -/
def afterVariableEnd? : Text → Option Text
  | 0x2d :: 0x7d :: 0x7d :: rest => some (skipSpace rest)
  | 0x7d :: 0x7d :: rest => some rest
  | _ => none

/-- The rest behind the end of a comment. -/
def afterCommentEnd? : Text → Option Text
  | 0x2b :: 0x23 :: 0x7d :: rest => some rest
  | 0x2d :: 0x23 :: 0x7d :: rest => some (skipSpace rest)
  | 0x23 :: 0x7d :: rest => some rest
  | _ => none

/-- The end of an opening tag of raw data, which takes no plus sign. -/
def afterRawTag? (t : Text) : Option (Trim × Text) :=
  let (trim, rest) := readTrim t
  match Text.after? "raw" (skipSpace rest) with
  | none => none
  | some rest =>
    match skipSpace rest with
    | 0x2d :: 0x25 :: 0x7d :: rest => some (trim, skipSpace rest)
    | 0x25 :: 0x7d :: rest => some (trim, rest)
    | _ => none

/-- The closing tag of raw data. -/
def afterEndRaw? : Text → Option (Trim × Text)
  | 0x7b :: 0x25 :: rest =>
    let (trim, rest) := readTrim rest
    match Text.after? "endraw" (skipSpace rest) with
    | none => none
    | some rest => (afterBlockEnd? (skipSpace rest)).map fun rest => (trim, rest)
  | _ => none

/-- What opens after data. -/
inductive Opening where
  | variable
  | block
  | comment
  | raw
  deriving Repr, DecidableEq, Inhabited

/-- The opening at the beginning of a text, with its sign and the rest. -/
def opening? : Text → Option (Opening × Trim × Text)
  | 0x7b :: 0x7b :: rest =>
    let (trim, rest) := readTrim rest
    some (.variable, trim, rest)
  | 0x7b :: 0x23 :: rest =>
    let (trim, rest) := readTrim rest
    some (.comment, trim, rest)
  | 0x7b :: 0x25 :: rest =>
    match afterRawTag? rest with
    | some (trim, rest) => some (.raw, trim, rest)
    | none =>
      let (trim, rest) := readTrim rest
      some (.block, trim, rest)
  | _ => none

/-- The data before the first opening, and that opening. -/
def splitOpening : Text → Text → Text × Option (Opening × Trim × Text)
  | done, [] => (done.reverse, none)
  | done, c :: rest =>
    match opening? (c :: rest) with
    | some o => (done.reverse, some o)
    | none => splitOpening (c :: done) rest

/-- The text before the first place where `stop?` succeeds, and its result there. -/
def splitWhere {α : Type} (stop? : Text → Option α) : Text → Text → Option (Text × α)
  | done, [] => (stop? []).map fun a => (done.reverse, a)
  | done, c :: rest =>
    match stop? (c :: rest) with
    | some a => some (done.reverse, a)
    | none => splitWhere stop? (c :: done) rest

/-- A code point of a name, which may still be no identifier. -/
def isNamePart (c : CodePoint) : Bool := Text.isWord c || Text.isIdentifierPart c

/-- Digits that satisfy `p` with single low lines between them, the first digit included, and the rest. -/
def spanMarked (p : CodePoint → Bool) : Text → Text → Text × Text
  | done, c :: rest =>
    if p c then spanMarked p (c :: done) rest
    else if c = 0x5f ∧ !done.isEmpty then
      match rest with
      | d :: more => if p d then spanMarked p (d :: done) more else (done.reverse, c :: rest)
      | [] => (done.reverse, c :: rest)
    else (done.reverse, c :: rest)
  | done, [] => (done.reverse, [])

/-- An exponent of a number, as a whole number. -/
def readExponent? : Text → Option (Int × Text)
  | e :: rest =>
    if e = Text.cp 'e' ∨ e = Text.cp 'E' then
      let (negative, rest) :=
        match rest with
        | 0x2b :: more => (false, more)
        | 0x2d :: more => (true, more)
        | _ => (false, rest)
      let (digits, rest) := spanMarked Text.isDigit [] rest
      if digits.isEmpty then none
      else
        let n : Int := Text.valueOfDigits (Text.digitValues digits)
        some (if negative then -n else n, rest)
    else none
  | [] => none

/-- A number with a fraction or an exponent. -/
def readFloat? (t : Text) : Option (Decimal × Text) :=
  let (whole, rest) := spanMarked Text.isDigit [] t
  if whole.isEmpty then none
  else
    let fraction? :=
      match rest with
      | 0x2e :: more =>
        let (digits, tail) := spanMarked Text.isDigit [] more
        if digits.isEmpty then none else some (digits, tail)
      | _ => none
    let value (digits : Text) : Nat := Text.valueOfDigits (Text.digitValues digits)
    match fraction? with
    | some (fraction, tail) =>
      match readExponent? tail with
      | some (e, tail) => some (⟨value (whole ++ fraction), e - fraction.length⟩, tail)
      | none => some (⟨value (whole ++ fraction), -(fraction.length : Int)⟩, tail)
    | none => (readExponent? rest).map fun (e, tail) => (⟨value whole, e⟩, tail)

/-- Digits of a base behind its mark; a low line may stand before each. -/
def readBased? (p : CodePoint → Bool) (base : Nat) (digit : CodePoint → Nat) (t : Text) : Option (Nat × Text) :=
  let body := match t with
    | 0x5f :: d :: rest => if p d then d :: rest else t
    | _ => t
  let (digits, rest) := spanMarked p [] body
  if digits.isEmpty then none
  else some (digits.foldl (fun n c => base * n + digit c) 0, rest)

/-- A whole number with the number of its digits; zeros in front stand alone. -/
def readWhole? (t : Text) : Option (Nat × Nat × Text) :=
  let digit (c : CodePoint) : Nat := ((Text.hexValue? c).orElse fun _ => Text.digitValue? c).getD 0
  let based? :=
    match t with
    | 0x30 :: m :: rest =>
      if m = Text.cp 'b' ∨ m = Text.cp 'B' then readBased? (fun c => c == 0x30 || c == 0x31) 2 digit rest
      else if m = Text.cp 'o' ∨ m = Text.cp 'O' then readBased? Text.isOctalDigit 8 digit rest
      else if m = Text.cp 'x' ∨ m = Text.cp 'X' then
        readBased? (fun c => (Text.hexValue? c).isSome || Text.isDigit c) 16 digit rest
      else none
    | _ => none
  match based? with
  | some (n, rest) => some (n, 0, rest)
  | none =>
    match t with
    | 0x30 :: _ =>
      let (_, rest) := spanMarked (· == 0x30) [] t
      some (0, 0, rest)
    | c :: _ =>
      if 0x31 ≤ c ∧ c ≤ 0x39 then
        let (digits, rest) := spanMarked Text.isDigit [] t
        some (Text.valueOfDigits (Text.digitValues digits), digits.length, rest)
      else none
    | [] => none

/-- The body of a quoted literal up to the closing quote `q`, escapes as they stand. -/
def readQuotedBody (q : CodePoint) : Text → Text → Option (Text × Text)
  | _, [] => none
  | done, 0x5c :: c :: rest => readQuotedBody q (c :: 0x5c :: done) rest
  | done, c :: rest =>
    if c = q then some (done.reverse, rest)
    else if c = 0x5c then none
    else readQuotedBody q (c :: done) rest

/-- A symbol. -/
def readSymbol? (t : Text) : Option (Symbol × Text) :=
  Symbol.all.findSome? fun s => (Text.after? (Text.ofString s.spelling) t).map fun rest => (s, rest)

/-- The closing bracket that a symbol asks for. -/
def Symbol.closing? : Symbol → Option Symbol
  | leftBrace => some rightBrace
  | leftParen => some rightParen
  | leftBracket => some rightBracket
  | _ => none

/-- The symbol closes a bracket. -/
def Symbol.isClosing : Symbol → Bool
  | rightBrace => true
  | rightParen => true
  | rightBracket => true
  | _ => false

/-- A token inside a tag that is not white space, with the length of the rest unused. -/
inductive Lexeme where
  | token (t : Token) (rest : Text)
  | fault (f : Fault)

/-- A name, number, literal or symbol at the beginning of a text, which follows the code point `before`. -/
def readLexeme (before : CodePoint) (t : Text) : Option Lexeme :=
  match if before = 0x2e then none else readFloat? t with
  | some (d, rest) =>
    match List.find? (fun c => 0x80 ≤ c) (t.take (t.length - rest.length)) with
    | some c =>
      let digits := if c ≤ 0xffff then Text.hex 4 c else Text.hex 5 c
      some (.fault ⟨.expressionSyntax, "invalid character '" ++ [c] ++ "' (U+" ++ Text.asciiUpper digits ++
        ") (<unknown>, line 1)"⟩)
    | none => some (.token (.float (d.toDouble false)) rest)
  | none =>
    match readWhole? t with
    | some (n, digits, rest) =>
      if 4300 < digits then some (.fault (Fault.longNumber digits))
      else some (.token (.integer n) rest)
    | none =>
      let word := t.takeWhile isNamePart
      if !word.isEmpty then
        if Text.isIdentifier word then some (.token (.name word) (t.dropWhile isNamePart))
        else some (.fault (syntaxFault "Invalid character in identifier"))
      else
        let literal? :=
          match t with
          | c :: rest => if c = 0x22 ∨ c = 0x27 then readQuotedBody c [] rest else none
          | [] => none
        match literal? with
        | some (body, rest) =>
          match Text.decodeEscapes (body.flatMap Text.asciiEscape) with
          | .ok s => some (.token (.string s) rest)
          | .error e => some (.fault (syntaxFault e.reason))
        | none => (readSymbol? t).map fun (s, rest) => .token (.symbol s) rest

/-- Where the lexer is. -/
inductive Mode where
  | data
  | variable
  | block
  deriving Repr, DecidableEq, Inhabited

/-- The state of the lexer: the closing brackets still to come, the place, the line and the code point
before. -/
structure LexState where
  mode : Mode
  brackets : List Symbol
  place : Nat
  line : Nat
  before : CodePoint

/-- The state behind a part of the text. -/
def LexState.pass (s : LexState) (t rest : Text) : LexState :=
  let n := t.length - rest.length
  let passed := t.take n
  { s with
    place := s.place + n
    line := s.line + countLines passed
    before := passed.getLast?.getD s.before }

/-- A check of the brackets at a symbol. -/
def balance (brackets : List Symbol) (s : Symbol) : Except Fault (List Symbol) :=
  match s.closing? with
  | some closing => .ok (closing :: brackets)
  | none =>
    if s.isClosing then
      match brackets with
      | [] => .error (syntaxFault ("unexpected '" ++ (s.spelling : Text) ++ "'"))
      | expected :: rest =>
        if expected = s then .ok rest
        else .error (syntaxFault ("unexpected '" ++ (s.spelling : Text) ++ "', expected '" ++
          (expected.spelling : Text) ++ "'"))
    else .ok brackets

/-- The data token of a text, unless it is empty. -/
def dataToken (t : Text) (line : Nat) (tokens : List Placed) : List Placed :=
  if t.isEmpty then tokens else ⟨.data t, line⟩ :: tokens

/-- Tokens one after the other, behind those in `tokens`, which is reversed. -/
def lexLoop : Nat → LexState → List Placed → Text → Stream
  | 0, s, tokens, _ => ⟨tokens.reverse, none, s.line⟩
  | fuel + 1, s, tokens, t =>
    match s.mode with
    | .data =>
      if t.isEmpty then ⟨tokens.reverse, none, s.line⟩
      else
        match splitOpening [] t with
        | (text, none) => ⟨(dataToken text s.line tokens).reverse, none, s.line + countLines text⟩
        | (text, some (opening, trim, rest)) =>
          let text' := if trim = .strip then Text.stripRightBy Text.isSpace text else text
          let tokens := dataToken text' s.line tokens
          let here := s.line + countLines text
          let s := s.pass t rest
          match opening with
          | .variable => lexLoop fuel { s with mode := .variable } (⟨.variableBegin, here⟩ :: tokens) rest
          | .block => lexLoop fuel { s with mode := .block } (⟨.blockBegin, here⟩ :: tokens) rest
          | .comment =>
            match splitWhere afterCommentEnd? [] rest with
            | some (_, after) => lexLoop fuel (s.pass rest after) tokens after
            | none =>
              let offence := if rest.isEmpty then none else some (syntaxFault "Missing end of comment tag")
              ⟨tokens.reverse, offence, s.line⟩
          | .raw =>
            match splitWhere afterEndRaw? [] rest with
            | some (raw, trim, after) =>
              let raw := if trim = .strip then Text.stripRightBy Text.isSpace raw else raw
              lexLoop fuel (s.pass rest after) (dataToken raw s.line tokens) after
            | none =>
              let offence := if rest.isEmpty then none else some (syntaxFault "Missing end of raw directive")
              ⟨tokens.reverse, offence, s.line⟩
    | mode =>
      let closing? :=
        if !s.brackets.isEmpty then none
        else if mode = .variable then (afterVariableEnd? t).map fun rest => (Token.variableEnd, rest)
        else (afterBlockEnd? t).map fun rest => (Token.blockEnd, rest)
      match closing? with
      | some (token, rest) => lexLoop fuel { s.pass t rest with mode := .data } (⟨token, s.line⟩ :: tokens) rest
      | none =>
        match t with
        | [] => ⟨tokens.reverse, none, s.line⟩
        | c :: _ =>
          if Text.isSpace c then
            let rest := skipSpace t
            lexLoop fuel (s.pass t rest) tokens rest
          else
            match readLexeme s.before t with
            | some (.fault f) => ⟨tokens.reverse, some f, s.line⟩
            | some (.token (.symbol sym) rest) =>
              match balance s.brackets sym with
              | .error f => ⟨tokens.reverse, some f, s.line⟩
              | .ok brackets =>
                lexLoop fuel { s.pass t rest with brackets := brackets } (⟨.symbol sym, s.line⟩ :: tokens) rest
            | some (.token token rest) => lexLoop fuel (s.pass t rest) (⟨token, s.line⟩ :: tokens) rest
            | none =>
              ⟨tokens.reverse,
                some (syntaxFault ("unexpected char " ++ Text.display [c] ++ " at " ++ Text.ofNat s.place)), s.line⟩

/-- The tokens of a template. -/
def lex (source : Text) : Stream :=
  let t := dropLastLineFeed (unifyLines source)
  lexLoop (2 * t.length + 2) ⟨.data, [], 0, 1, 0⟩ [] t

end Rulebook.Template
