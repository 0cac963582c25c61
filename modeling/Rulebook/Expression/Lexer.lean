import Rulebook.Expression.Token
import Rulebook.Text.Identifier
import Rulebook.Text.Printable

/-!
# Reading tokens of expressions

A text is cut into words, numbers, quoted texts and signs. Lines count where no bracket is open: their
indentation opens and closes blocks, and their ends are tokens of their own.
-/

namespace Rulebook.Expression

/-- The place of a lexer: what is read, the line, the indentations that are open with two ways to count tabs, the
brackets that are open with their lines, and the rest of the text. -/
structure Cursor where
  tokens : Array Token
  line : Nat
  indents : List (Nat × Nat)
  brackets : List (CodePoint × Nat)
  rest : Text

namespace Cursor

/-- The end of the tokens at something that is no token. -/
def broken (c : Cursor) (message : Text) (line : Nat) : TokenStream := ⟨c.tokens, .broken ⟨.form, message, line⟩⟩

/-- The end of the tokens at a place where the text or its layout stops. -/
def stopped (c : Cursor) (kind : OffenceKind) (message : Text) (line : Nat) : TokenStream :=
  ⟨c.tokens, .stopped ⟨kind, message, line⟩ c.brackets.head?⟩

/-- A further token. -/
def push (c : Cursor) (kind : TokenKind) (spelling : String) (text rest : Text) : Cursor :=
  { c with tokens := c.tokens.push ⟨kind, spelling, text, c.line, c.brackets.length⟩, rest := rest }

/-- The end of the text, where an open bracket or a line that goes on is missed. -/
def cutOff (c : Cursor) (line : Nat) : TokenStream :=
  match c.brackets with
  | (b, l) :: _ => ⟨c.tokens, .stopped (unclosed b l) (some (b, l))⟩
  | [] => c.stopped .form "unexpected EOF while parsing" line

end Cursor

/-- White space inside a line. -/
def isGap (c : CodePoint) : Bool := c == 0x20 || c == 9 || c == 12

/-- May start a name; names beyond ASCII are looked at as a whole. -/
def startsName (c : CodePoint) : Bool := Text.isAsciiLetter c || c == 0x5f || 128 ≤ c

/-- May follow in a name. -/
def continuesName (c : CodePoint) : Bool := startsName c || Text.isAsciiDigit c

/-- A sign in words: the sign if it can be shown, and its number. -/
def strangeSign (c : CodePoint) : Text :=
  let digits := Text.asciiUpper (Text.hex (if c < 0x10000 then 4 else if c < 0x100000 then 5 else 6) c)
  if Text.isPrintable c then "invalid character '" ++ c :: "' (U+" ++ digits ++ ")"
  else "invalid non-printable character U+" ++ digits

/-- What is wrong with a name beyond ASCII. -/
def nameOffence? (name : Text) : Option Text :=
  match name with
  | [] => none
  | c :: rest =>
    if !Text.isIdentifierStart c then some (strangeSign c)
    else (rest.find? fun d => !Text.isIdentifierPart d).map strangeSign

/-- The letters before a quote make a quoted text of a certain form. -/
def isQuoteMark (letters : Text) : Bool :=
  ["", "b", "r", "u", "f", "br", "rb", "fr", "rf"].any fun m => Text.same (Text.ofString m) (Text.asciiLower letters)

/-- The rest behind a quoted text from behind its opening quotes on, with the number of lines that it spans. -/
def skipQuoted (quote : CodePoint) (triple : Bool) : Nat → Nat → Text → Except Nat (Nat × Text)
  | 0, lines, _ => .error lines
  | fuel + 1, lines, t =>
    match t with
    | [] => .error (lines - 1)
    | c :: rest =>
      if c = quote then
        if !triple then .ok (lines, rest)
        else
          match rest with
          | a :: b :: more => if a = quote ∧ b = quote then .ok (lines, more) else skipQuoted quote triple fuel lines rest
          | _ => skipQuoted quote triple fuel lines rest
      else if c = 10 ∧ !triple then .error lines
      else if c = 0x5c then
        match rest with
        | [] => .error lines
        | d :: more => skipQuoted quote triple fuel (if d = 10 then lines + 1 else lines) more
      else skipQuoted quote triple fuel (if c = 10 then lines + 1 else lines) rest

/-- The rest behind a number, or what is wrong with it. -/
abbrev Scan := Except Text Text

/-- Digits with single low lines between them; the first is a digit. -/
def skipDigits (isDigit : CodePoint → Bool) (wrong : CodePoint → Text) : Nat → Text → Scan
  | 0, t => .ok t
  | fuel + 1, t =>
    match t.dropWhile isDigit with
    | 0x5f :: rest =>
      match rest with
      | d :: _ => if isDigit d then skipDigits isDigit wrong fuel rest else .error (wrong d)
      | [] => .error (wrong 0)
    | rest => .ok rest

/-- The words that may follow a number at once. -/
def followers : List Text := ["and", "else", "for", "if", "in", "is", "or"]

/-- The end of a number, which no letter may follow unless a word starts there. -/
def endNumber (kind : String) (t : Text) : Scan :=
  match t with
  | c :: _ =>
    if continuesName c && !followers.any (fun w => t.take w.length == w) then
      .error ("invalid " ++ (kind : Text) ++ " literal")
    else .ok t
  | [] => .ok []

/-- The digits of a base and the end of the number. -/
def skipBased (kind : String) (isDigit : CodePoint → Bool) (t : Text) : Scan := do
  let wrong (d : CodePoint) : Text :=
    if Text.isAsciiDigit d && kind != "hexadecimal" then "invalid digit '" ++ d :: "' in " ++ (kind : Text) ++ " literal"
    else "invalid " ++ (kind : Text) ++ " literal"
  let start := match t with | 0x5f :: rest => rest | _ => t
  match start with
  | d :: _ =>
    if !isDigit d then throw (wrong d)
    let rest ← skipDigits isDigit wrong (t.length + 1) start
    match rest with
    | d :: _ => if Text.isAsciiDigit d then throw (wrong d) else endNumber kind rest
    | [] => return []
  | [] => throw (wrong 0)

/-- What is said about decimal digits in disorder. -/
def wrongDecimal (_ : CodePoint) : Text := "invalid decimal literal"

/-- Decimal digits with low lines between them. -/
def skipDecimal (t : Text) : Scan := skipDigits Text.isAsciiDigit wrongDecimal (t.length + 1) t

/-- An imaginary mark, or the end of a decimal number. -/
def skipImaginary (t : Text) : Scan :=
  match t with
  | c :: rest => if c = 0x6a ∨ c = 0x4a then endNumber "imaginary" rest else endNumber "decimal" t
  | [] => .ok []

/-- An exponent, if there is one, and the end of the number. -/
def skipExponent (t : Text) : Scan :=
  match t with
  | e :: rest =>
    if e = 0x65 ∨ e = 0x45 then
      match rest with
      | s :: more =>
        if s = 0x2b ∨ s = 0x2d then
          match more with
          | d :: _ => if Text.isAsciiDigit d then skipDecimal more >>= skipImaginary else .error (wrongDecimal d)
          | [] => .error (wrongDecimal 0)
        else if Text.isAsciiDigit s then skipDecimal rest >>= skipImaginary
        else endNumber "decimal" t
      | [] => endNumber "decimal" t
    else skipImaginary t
  | [] => .ok []

/-- The digits behind a point, and what follows them. -/
def skipFraction (t : Text) : Scan :=
  match t with
  | d :: _ => if Text.isAsciiDigit d then skipDecimal t >>= skipExponent else skipExponent t
  | [] => .ok []

/-- The rest behind zeros with low lines between them. -/
def skipZeros : Nat → Text → Scan
  | 0, t => .ok t
  | fuel + 1, t =>
    match t with
    | 0x30 :: rest => skipZeros fuel rest
    | 0x5f :: d :: rest => if Text.isAsciiDigit d then skipZeros fuel (d :: rest) else .error (wrongDecimal d)
    | _ => .ok t

/-- A number that starts with a zero and has no base. -/
def skipZero (t : Text) : Scan := do
  let rest ← skipZeros (t.length + 1) t
  let nonzero := match rest with | d :: _ => Text.isAsciiDigit d | [] => false
  let rest ← if nonzero then skipDecimal rest else pure rest
  match rest with
  | 0x2e :: more => skipFraction more
  | c :: more =>
    if c = 0x65 ∨ c = 0x45 then skipExponent rest
    else if c = 0x6a ∨ c = 0x4a then endNumber "imaginary" more
    else if nonzero then
      .error "leading zeros in decimal integer literals are not permitted; use an 0o prefix for octal integers"
    else endNumber "decimal" rest
  | [] => return []

/-- The rest behind a number that starts with a digit. -/
def skipNumber (t : Text) : Scan :=
  match t with
  | 0x30 :: c :: rest =>
    if c = 0x78 ∨ c = 0x58 then skipBased "hexadecimal" (fun d => (Text.hexValue? d).isSome) rest
    else if c = 0x6f ∨ c = 0x4f then skipBased "octal" (fun d => 0x30 ≤ d && d ≤ 0x37) rest
    else if c = 0x62 ∨ c = 0x42 then skipBased "binary" (fun d => d == 0x30 || d == 0x31) rest
    else skipZero t
  | _ => do
    match ← skipDecimal t with
    | 0x2e :: more => skipFraction more
    | rest => skipExponent rest

/-- The signs of several code points, the longest first. -/
def longSigns : List String :=
  ["**=", "//=", ">>=", "<<=", "...", "!=", "%=", "&=", "**", "*=", "+=", "-=", "->", "//", "/=", ":=", "<<", "<=",
    "<>", "==", ">=", ">>", "@=", "^=", "|="]

/-- The sign that a text starts with. -/
def sign? (t : Text) : Option (String × Text) :=
  longSigns.findSome? fun s => (Text.after? (Text.ofString s) t).map fun rest => (s, rest)

/-- The bracket that closes another. -/
def closes? (c : CodePoint) : Option CodePoint :=
  if c = 0x29 then some 0x28 else if c = 0x5d then some 0x5b else if c = 0x7d then some 0x7b else none

/-- Opens a bracket. -/
def isOpening (c : CodePoint) : Bool := c == 0x28 || c == 0x5b || c == 0x7b

/-- The greatest number of brackets inside each other. -/
def maxBrackets : Nat := 200

/-- The greatest number of blocks inside each other. -/
def maxIndents : Nat := 100

/-- The columns that blanks lead to, with tabs to every eighth column and with tabs of one column. -/
def column : Nat → Nat → Text → Nat × Nat × Text
  | wide, narrow, 0x20 :: rest => column (wide + 1) (narrow + 1) rest
  | wide, narrow, 9 :: rest => column ((wide / 8 + 1) * 8) (narrow + 1) rest
  | _, _, 12 :: rest => column 0 0 rest
  | wide, narrow, t => (wide, narrow, t)

/-- The blanks before a line, where a backslash leads on to the next line. -/
def lineStart : Nat → Cursor → Option (Nat × Nat) → Except TokenStream (Cursor × Nat × Nat)
  | 0, c, _ => .ok (c, 0, 0)
  | fuel + 1, c, first =>
    let (wide, narrow, rest) := column 0 0 c.rest
    let (wide, narrow) := first.getD (wide, narrow)
    match rest with
    | 0x5c :: more =>
      match more with
      | 10 :: more =>
        if more.isEmpty then .error (c.cutOff c.line)
        else
          lineStart fuel { c with rest := more, line := c.line + 1 } (if wide = 0 then none else some (wide, wide))
      | _ => .error (c.stopped .form "unexpected character after line continuation character" c.line)
    | rest => .ok ({ c with rest := rest }, wide, narrow)

/-- Closes the blocks that are indented further than a column. -/
def closeBlocks (wide : Nat) : List (Nat × Nat) → Nat → List (Nat × Nat) × Nat
  | (w, n) :: rest, closed => if wide < w then closeBlocks wide rest (closed + 1) else ((w, n) :: rest, closed)
  | [], closed => ([], closed)

/-- A number of tokens of one kind. -/
def pushTimes (kind : TokenKind) : Nat → Cursor → Cursor
  | 0, c => c
  | n + 1, c => pushTimes kind n (c.push kind "" [] c.rest)

/-- The line number of the end of a text, which has no line of its own. -/
def endLine (c : Cursor) : Nat := if c.rest.isEmpty then c.line - 1 else c.line

/-- Opens or closes blocks for a line at a column. -/
def settle (c : Cursor) (wide narrow : Nat) : Except TokenStream Cursor :=
  let disorder : Except TokenStream Cursor :=
    .error (c.stopped .tabs "inconsistent use of tabs and spaces in indentation" c.line)
  let (w, n) := c.indents.headD (0, 0)
  if wide = w then if narrow = n then .ok c else disorder
  else if w < wide then
    if maxIndents ≤ c.indents.length then .error (c.stopped .indentation "too many levels of indentation" c.line)
    else if narrow ≤ n then disorder
    else .ok ({ c with indents := (wide, narrow) :: c.indents }.push .indent "" [] c.rest)
  else
    let (indents, closed) := closeBlocks wide c.indents 0
    let (w, n) := indents.headD (0, 0)
    if wide != w then
      .error (c.stopped .indentation "unindent does not match any outer indentation level" c.line)
    else if narrow != n then disorder
    else
      let ended := pushTimes .dedent closed { c with indents := indents, line := endLine c }
      .ok { ended with line := c.line }

/-- A token that starts with a letter: a name, a keyword or a quoted text with a mark. -/
def quoteAfter? (t : Text) : Option (Text × CodePoint × Text) :=
  let letters := t.takeWhile Text.isAsciiLetter
  if letters.length ≤ 2 && isQuoteMark letters then
    match t.drop letters.length with
    | q :: rest => if q = 0x22 ∨ q = 0x27 then some (letters, q, rest) else none
    | [] => none
  else none

/-- Reads a quoted text from behind its first quote on. -/
def readQuotedToken (c : Cursor) (quote : CodePoint) (behind : Text) : Except TokenStream Cursor :=
  let finished (lines : Nat) (rest : Text) : Except TokenStream Cursor :=
    let text := c.rest.take (c.rest.length - rest.length)
    let next := c.push .string "" text rest
    .ok { next with line := c.line + lines }
  let read (triple : Bool) (body : Text) : Except TokenStream Cursor :=
    match skipQuoted quote triple (body.length + 1) 0 body with
    | .ok (lines, rest) => finished lines rest
    | .error lines =>
      .error (c.broken ((if triple then "unterminated triple-quoted string literal" else "unterminated string literal" : Text) ++
        " (detected at line " ++ Text.ofNat (c.line + lines) ++ ")") c.line)
  match behind with
  | a :: b :: more =>
    if a = quote then (if b = quote then read true more else finished 0 (b :: more)) else read false behind
  | [a] => if a = quote then finished 0 [] else read false behind
  | [] => read false behind

/-- Reads a name or keyword. -/
def readName (c : Cursor) : Except TokenStream Cursor :=
  let name := c.rest.takeWhile continuesName
  let rest := c.rest.drop name.length
  match (if name.any (128 ≤ ·) then nameOffence? name else none) with
  | some message => .error (c.broken message c.line)
  | none =>
    match keywords.find? fun k => Text.same (Text.ofString k) name with
    | some k => .ok (c.push .word k name rest)
    | none => .ok (c.push .name "" name rest)

/-- Reads a bracket or a sign of one code point. -/
def readSign (c : Cursor) (s : CodePoint) (rest : Text) : Except TokenStream Cursor :=
  if isOpening s then
    if maxBrackets ≤ c.brackets.length then .error (c.broken "too many nested parentheses" c.line)
    else .ok ({ c with brackets := (s, c.line) :: c.brackets }.push .word (Text.toStringLossy [s]) [s] rest)
  else
    match closes? s with
    | some opening =>
      match c.brackets with
      | [] => .error (c.broken ("unmatched '" ++ s :: "'") c.line)
      | (b, l) :: more =>
        if b = opening then .ok ({ c with brackets := more }.push .word (Text.toStringLossy [s]) [s] rest)
        else
          let place : Text := if l = c.line then [] else " on line " ++ Text.ofNat l
          .error (c.broken ("closing parenthesis '" ++ s :: "' does not match opening parenthesis '" ++ b :: "'" ++ place)
            c.line)
    | none =>
      if Text.isPrintable s then .ok (c.push .word (Text.toStringLossy [s]) [s] rest)
      else .error (c.broken (strangeSign s) c.line)

/-- Reads a number, of which `behind` is the rest. -/
def readNumber (c : Cursor) (behind : Scan) : Except TokenStream Cursor :=
  match behind with
  | .ok rest => .ok (c.push .number "" (c.rest.take (c.rest.length - rest.length)) rest)
  | .error message => .error (c.broken message c.line)

/-- Reads one token that starts with a certain sign. -/
def readToken (c : Cursor) (s : CodePoint) (rest : Text) : Except TokenStream Cursor :=
  match quoteAfter? c.rest with
  | some (_, quote, behind) => readQuotedToken c quote behind
  | none =>
    if startsName s then readName c
    else if Text.isAsciiDigit s then readNumber c (skipNumber c.rest)
    else if s = 0x2e ∧ (rest.head?.map Text.isAsciiDigit).getD false then readNumber c (skipFraction rest)
    else
      match sign? c.rest with
      | some (spelling, behind) => .ok (c.push .word spelling (Text.ofString spelling) behind)
      | none => readSign c s rest

/-- Reads tokens up to the end; `fresh` tells that a line starts. -/
def lexFrom : Nat → Bool → Cursor → TokenStream
  | 0, _, c => ⟨c.tokens, .complete⟩
  | fuel + 1, true, c =>
    match lineStart (c.rest.length + 1) c none with
    | .error stream => stream
    | .ok (c, wide, narrow) =>
      match c.rest with
      | 10 :: rest => lexFrom fuel true { c with rest := rest, line := c.line + 1 }
      | 0x23 :: rest => lexFrom fuel true { c with rest := (rest.dropWhile (· != 10)).drop 1, line := c.line + 1 }
      | _ =>
        if c.brackets.isEmpty then
          match settle c wide narrow with
          | .error stream => stream
          | .ok c => lexFrom fuel false c
        else lexFrom fuel false c
  | fuel + 1, false, c =>
    let c := { c with rest := c.rest.dropWhile isGap }
    let c := match c.rest with | 0x23 :: rest => { c with rest := rest.dropWhile (· != 10) } | _ => c
    match c.rest with
    | [] =>
      if c.brackets.isEmpty then
        let last := { c with line := c.line - 1 }
        ⟨(last.push .finish "" [] []).tokens, .complete⟩
      else c.cutOff (c.line - 1)
    | 10 :: rest =>
      let c := if c.brackets.isEmpty then c.push .newline "" [] rest else { c with rest := rest }
      lexFrom fuel true { c with line := c.line + 1 }
    | 0x5c :: rest =>
      match rest with
      | 10 :: more =>
        if more.isEmpty then c.cutOff c.line else lexFrom fuel false { c with rest := more, line := c.line + 1 }
      | _ => c.stopped .form "unexpected character after line continuation character" c.line
    | s :: rest =>
      match readToken c s rest with
      | .error stream => stream
      | .ok c => lexFrom fuel false c

/-- Ends of lines of one sort. -/
def unifyEnds : Text → Text → Text
  | done, [] => done.reverse
  | done, 13 :: 10 :: rest => unifyEnds (10 :: done) rest
  | done, 13 :: rest => unifyEnds (10 :: done) rest
  | done, c :: rest => unifyEnds (c :: done) rest

/-- The text with an end of its last line. -/
def withLastEnd (t : Text) : Text :=
  match t.getLast? with
  | some 10 => t
  | none => t
  | some _ => t ++ [10]

/-- The tokens of a text whose first line has a number. -/
def lex (firstLine : Nat) (t : Text) : TokenStream :=
  let t := withLastEnd (unifyEnds [] t)
  lexFrom (2 * t.length + 2) true ⟨#[], firstLine, [], [], t⟩

end Rulebook.Expression
