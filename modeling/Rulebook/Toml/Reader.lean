import Rulebook.Toml.Document
import Rulebook.Toml.Scalar
import Rulebook.Text.Part

/-!
# Reading configuration files

The tables of a file, or the first offence with its place. Every reader gets the text from its place on and
returns the rest.
-/

namespace Rulebook.Toml

/-- Why a file cannot be read: an offence at the place where `rest` starts, or a fault of a value. -/
inductive Problem where
  | offence (message rest : Text)
  | fault (f : Fault)
  deriving Inhabited

/-- An offence at a place. -/
def offend {α : Type} (message rest : Text) : Except Problem α := .error (.offence message rest)

/-- A blank inside a line. -/
def isBlank (c : CodePoint) : Bool := c == 0x20 || c == 9

/-- A blank or the end of a line. -/
def isBlankOrEnd (c : CodePoint) : Bool := isBlank c || c == 10

/-- The text behind blanks. -/
def skipBlanks (t : Text) : Text := t.dropWhile isBlank

/-- A code point of a bare key. -/
def isBareKey (c : CodePoint) : Bool := Text.isAsciiLetter c || Text.isAsciiDigit c || c == 0x2d || c == 0x5f

/-- A code point that cannot stand in a text of one line. -/
def isControl (c : CodePoint) : Bool := (c < 32 && c != 9) || c == 127

/-- A code point that cannot stand in a text of several lines. -/
def isControlButEnd (c : CodePoint) : Bool := isControl c && c != 10

/-- Refuses a text with a code point that cannot stand there; `rest` starts with the text. -/
def ensureAllowed (bad : CodePoint → Bool) (part rest : Text) : Except Problem Unit :=
  let good := part.takeWhile fun c => !bad c
  match part.drop good.length with
  | [] => .ok ()
  | c :: _ => offend ("Found invalid character " ++ Text.display [c]) (rest.drop good.length)

/-- The text up to a closing sign, and what follows the sign. -/
def readUntil (close : Text) (bad : CodePoint → Bool) (t : Text) : Except Problem (Text × Text) :=
  match Text.find? close t with
  | none => offend ("Expected " ++ Text.display close) []
  | some n => do
    let part := t.take n
    ensureAllowed bad part t
    return (part, t.drop (n + close.length))

/-- The text behind a comment, if one starts here. -/
def skipComment (t : Text) : Except Problem Text :=
  match t with
  | 0x23 :: rest => do
    let part := rest.takeWhile (· != 10)
    ensureAllowed isControl part rest
    return rest.drop part.length
  | _ => .ok t

/-- The text behind blanks, ends of lines and comments. -/
def skipBetween : Nat → Text → Except Problem Text
  | 0, t => .ok t
  | fuel + 1, t => do
    let after ← skipComment (t.dropWhile isBlankOrEnd)
    if after.length = t.length then return t else skipBetween fuel after

/-- The code point of an escape by its number. -/
def readNumbered (width : Nat) (t : Text) : Except Problem (Text × Text) :=
  let digits := t.take width
  if digits.length < width || !digits.all (fun c => (Text.hexValue? c).isSome) then offend "Invalid hex value" t
  else
    let n := Text.valueInBase 16 digits
    if Text.isSurrogate n || 0x10ffff < n then
      offend "Escaped character is not a Unicode scalar value" (t.drop width)
    else .ok ([n], t.drop width)

/-- The code point of an escape by a letter. -/
def letterEscape? (c : CodePoint) : Option CodePoint :=
  if c = 0x62 then some 8
  else if c = 0x74 then some 9
  else if c = 0x6e then some 10
  else if c = 0x66 then some 12
  else if c = 0x72 then some 13
  else if c = 0x22 then some 0x22
  else if c = 0x5c then some 0x5c
  else none

/-- What an escape stands for; the text starts with its backslash. -/
def readEscape (severalLines : Bool) (t : Text) : Except Problem (Text × Text) :=
  let rest := t.drop 2
  let unknown : Except Problem (Text × Text) := offend "Unescaped '\\' in a string" rest
  match t.drop 1 with
  | [] => unknown
  | c :: _ =>
    if severalLines && isBlankOrEnd c then
      if c = 10 then .ok ([], rest.dropWhile isBlankOrEnd)
      else
        match skipBlanks rest with
        | [] => .ok ([], [])
        | d :: more =>
          if d = 10 then .ok ([], more.dropWhile isBlankOrEnd) else offend "Unescaped '\\' in a string" (d :: more)
    else if c = 0x75 then readNumbered 4 rest
    else if c = 0x55 then readNumbered 8 rest
    else
      match letterEscape? c with
      | some d => .ok ([d], rest)
      | none => unknown

/-- A text between double quotes from behind the opening on; the text so far is reversed. -/
def readQuoted (severalLines : Bool) : Nat → Text → Text → Except Problem (Text × Text)
  | 0, _, t => offend "Unterminated string" t
  | fuel + 1, done, t =>
    match t with
    | [] => offend "Unterminated string" []
    | c :: rest =>
      if c = 0x22 then
        if !severalLines then .ok (done.reverse, rest)
        else
          match Text.after? [0x22, 0x22] rest with
          | some more => .ok (done.reverse, more)
          | none => readQuoted severalLines fuel (c :: done) rest
      else if c = 0x5c then do
        let (part, more) ← readEscape severalLines t
        readQuoted severalLines fuel (part.reverse ++ done) more
      else if (if severalLines then isControlButEnd c else isControl c) then
        offend ("Illegal character " ++ Text.display [c]) t
      else readQuoted severalLines fuel (c :: done) rest

/-- A text with up to two closing signs that stand before the last three. -/
def withClosing (sign : CodePoint) (text rest : Text) : Text × Text :=
  match rest with
  | a :: b :: more =>
    if a = sign then (if b = sign then (text ++ [sign, sign], more) else (text ++ [sign], b :: more)) else (text, rest)
  | [a] => if a = sign then (text ++ [sign], []) else (text, rest)
  | [] => (text, [])

/-- A text of several lines from behind its opening on. -/
def readSeveralLines (literal : Bool) (t : Text) : Except Problem (Text × Text) := do
  let t := match t with | 10 :: rest => rest | _ => t
  if literal then
    let (text, rest) ← readUntil [0x27, 0x27, 0x27] isControlButEnd t
    return withClosing 0x27 text rest
  else
    let (text, rest) ← readQuoted true (t.length + 1) [] t
    return withClosing 0x22 text rest

/-- A part of a key. -/
def readKeyPart (t : Text) : Except Problem (Text × Text) :=
  match t with
  | [] => offend "Invalid initial character for a key part" []
  | c :: rest =>
    if isBareKey c then .ok (t.takeWhile isBareKey, t.dropWhile isBareKey)
    else if c = 0x27 then readUntil [0x27] isControl rest
    else if c = 0x22 then readQuoted false (rest.length + 1) [] rest
    else offend "Invalid initial character for a key part" t

/-- The parts of a key behind those in `done`, which is reversed, and behind blanks. -/
def readKeyParts : Nat → Key → Text → Except Problem (Key × Text)
  | 0, done, t => .ok (done.reverse, t)
  | fuel + 1, done, t => do
    let (part, rest) ← readKeyPart t
    match skipBlanks rest with
    | 0x2e :: more => readKeyParts fuel (part :: done) (skipBlanks more)
    | rest => return ((part :: done).reverse, rest)

/-- A key and the blanks behind it. -/
def readKey (t : Text) : Except Problem (Key × Text) := readKeyParts (t.length + 1) [] t

/-- The value is a table or a list. -/
def isNested : Value → Bool
  | .mapping _ => true
  | .list _ => true
  | _ => false

/-- The value of a word, date, time or number. -/
def readScalar (t : Text) : Except Problem (Value × Text) :=
  let number : Except Problem (Value × Text) :=
    match basedInteger? t, decimalNumber? t, wordDouble? t with
    | some (n, rest), _, _ => .ok (.int n, rest)
    | _, some (.ok v, rest), _ => .ok (v, rest)
    | _, some (.error f, _), _ => .error (.fault f)
    | _, _, some (v, rest) => .ok (v, rest)
    | _, _, _ => offend "Invalid value" t
  match Text.after? "true" t, Text.after? "false" t with
  | some rest, _ => .ok (.bool true, rest)
  | _, some rest => .ok (.bool false, rest)
  | _, _ =>
    match dateTime? t, time? t with
    | some (some v, rest), _ => .ok (v, rest)
    | some (none, _), _ => offend "Invalid date or datetime" t
    | _, some (time, rest) => .ok (.time time, rest)
    | _, _ => number

mutual

/-- A value. -/
def readValue : Nat → Text → Except Problem (Value × Text)
  | 0, t => offend "Invalid value" t
  | fuel + 1, t =>
    match t with
    | 0x22 :: 0x22 :: 0x22 :: rest => do
      let (text, rest) ← readSeveralLines false rest
      return (.text text, rest)
    | 0x22 :: rest => do
      let (text, rest) ← readQuoted false (rest.length + 1) [] rest
      return (.text text, rest)
    | 0x27 :: 0x27 :: 0x27 :: rest => do
      let (text, rest) ← readSeveralLines true rest
      return (.text text, rest)
    | 0x27 :: rest => do
      let (text, rest) ← readUntil [0x27] isControl rest
      return (.text text, rest)
    | 0x5b :: rest => do
      let rest ← skipBetween (rest.length + 1) rest
      match rest with
      | 0x5d :: rest => return (.list [], rest)
      | _ => readItems fuel [] rest
    | 0x7b :: rest =>
      match skipBlanks rest with
      | 0x7d :: rest => .ok (.mapping [], rest)
      | rest => readPairs fuel [] .none rest
    | _ => readScalar t

/-- The items of a list behind those in `done`, which is reversed. -/
def readItems : Nat → List Value → Text → Except Problem (Value × Text)
  | 0, _, t => offend "Unclosed array" t
  | fuel + 1, done, t => do
    let (v, rest) ← readValue fuel t
    let rest ← skipBetween (rest.length + 1) rest
    match rest with
    | 0x5d :: rest => return (.list (v :: done).reverse, rest)
    | 0x2c :: rest =>
      let rest ← skipBetween (rest.length + 1) rest
      match rest with
      | 0x5d :: rest => return (.list (v :: done).reverse, rest)
      | _ => readItems fuel (v :: done) rest
    | _ => offend "Unclosed array" rest

/-- A key, the sign behind it, and a value. -/
def readPair : Nat → Text → Except Problem ((Key × Value) × Text)
  | 0, t => offend "Invalid value" t
  | fuel + 1, t => do
    let (key, rest) ← readKey t
    match rest with
    | 0x3d :: rest =>
      let (v, rest) ← readValue fuel (skipBlanks rest)
      return ((key, v), rest)
    | _ => offend "Expected '=' after a key in a key/value pair" rest

/-- The pairs of a table inside a value. -/
def readPairs : Nat → Table → Marks → Text → Except Problem (Value × Text)
  | 0, _, _, t => offend "Unclosed inline table" t
  | fuel + 1, table, marks, t => do
    let ((key, v), rest) ← readPair fuel t
    if marks.isClosed key then offend ("Cannot mutate immutable namespace " ++ Key.display key) rest
    else
      let name := key.getLastD []
      if table.hasAt false key.dropLast name then
        offend ("Duplicate inline table key " ++ Text.display name) rest
      else
        match table.change false (fun nest => some (Value.insertEntry (.text name) v nest)) key.dropLast with
        | none => offend "Cannot overwrite a value" rest
        | some table =>
          match skipBlanks rest with
          | 0x7d :: rest => return (.mapping table, rest)
          | 0x2c :: rest => readPairs fuel table (if isNested v then marks.close key else marks) (skipBlanks rest)
          | rest => offend "Unclosed inline table" rest

end

/-- What is read of a file so far: its tables, what is known of their keys, and the table that is open. -/
structure Progress where
  table : Table
  marks : Marks
  header : Key
  deriving Inhabited

/-- A key with a value in the open table. -/
def readAssignment (p : Progress) (t : Text) : Except Problem (Progress × Text) := do
  let ((key, v), rest) ← readPair (2 * t.length + 2) t
  let way := (List.range (key.length - 1)).map fun i => p.header ++ key.take (i + 1)
  match way.find? p.marks.isDeclared with
  | some k => offend ("Cannot redefine namespace " ++ Key.display k) rest
  | none =>
    let marks := way.foldl Marks.declareLater p.marks
    let parent := p.header ++ key.dropLast
    let name := key.getLastD []
    if marks.isClosed parent then offend ("Cannot mutate immutable namespace " ++ Key.display parent) rest
    else if p.table.hasAt true parent name then offend "Cannot overwrite a value" rest
    else
      match p.table.change true (fun nest => some (Value.insertEntry (.text name) v nest)) parent with
      | none => offend "Cannot overwrite a value" rest
      | some table =>
        let marks := if isNested v then marks.close (p.header ++ key) else marks
        return ({ p with table := table, marks := marks }, rest)

/-- The declaration of a table, behind its opening bracket. -/
def readTableHeader (p : Progress) (t : Text) : Except Problem (Progress × Text) := do
  let (key, rest) ← readKey (skipBlanks t)
  if p.marks.isDeclared key || p.marks.isClosed key then
    offend ("Cannot declare " ++ Key.display key ++ " twice") rest
  else
    match p.table.change true some key with
    | none => offend "Cannot overwrite a value" rest
    | some table =>
      match rest with
      | 0x5d :: rest => return (⟨table, p.marks.declare key, key⟩, rest)
      | _ => offend "Expected ']' at the end of a table declaration" rest

/-- The declaration of a further table of a list, behind its opening brackets. -/
def readListHeader (p : Progress) (t : Text) : Except Problem (Progress × Text) := do
  let (key, rest) ← readKey (skipBlanks t)
  if p.marks.isClosed key then offend ("Cannot mutate immutable namespace " ++ Key.display key) rest
  else
    match p.table.addToList key with
    | none => offend "Cannot overwrite a value" rest
    | some table =>
      match Text.after? [0x5d, 0x5d] rest with
      | some rest => return (⟨table, (p.marks.forget key).declare key, key⟩, rest)
      | none => offend "Expected ']]' at the end of an array declaration" rest

/-- The statements of a file. -/
def readStatements : Nat → Progress → Text → Except Problem Table
  | 0, p, _ => .ok p.table
  | fuel + 1, p, t => do
    let t := skipBlanks t
    match t with
    | [] => return p.table
    | 10 :: rest => readStatements fuel p rest
    | c :: rest =>
      let (p, rest) ←
        if isBareKey c || c == 0x22 || c == 0x27 then readAssignment p t
        else if c = 0x5b then
          let p := { p with marks := p.marks.settle }
          match rest with
          | 0x5b :: rest => readListHeader p rest
          | _ => readTableHeader p rest
        else if c = 0x23 then pure (p, t)
        else offend "Invalid statement" t
      match ← skipComment (skipBlanks rest) with
      | [] => return p.table
      | 10 :: rest => readStatements fuel p rest
      | rest => offend "Expected newline or end of document after a statement" rest

/-- The place where `rest` starts in a text, in words. -/
def placeText (source rest : Text) : Text :=
  match rest with
  | [] => "end of document"
  | _ =>
    let before := source.take (source.length - rest.length)
    let line := (before.filter (· == 10)).length + 1
    let column := (before.reverse.takeWhile (· != 10)).length + 1
    "line " ++ Text.ofNat line ++ ", column " ++ Text.ofNat column

/-- Ends of lines of two code points as one. -/
def unifyEnds (t : Text) : Text := Text.replace [13, 10] [10] none t

/-- The tables of a file. -/
def read (source : Text) : Except Fault Value :=
  let source := unifyEnds source
  match readStatements (source.length + 1) ⟨[], .none, []⟩ source with
  | .ok table => .ok (.mapping table)
  | .error (.fault f) => .error f
  | .error (.offence message rest) =>
    .error ⟨.configSyntax, message ++ " (at " ++ placeText source rest ++ ")"⟩

end Rulebook.Toml
