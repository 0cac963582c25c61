import Rulebook.Expression.Grammar.Faults
import Rulebook.Expression.Grammar.Operands
import Rulebook.Expression.Grammar.Patterns
import Rulebook.Expression.Grammar.Statements
import Rulebook.Expression.Lexer
import Std.Data.HashMap

/-!
# Reading by the grammar

The reader tries the alternatives of a phrase in their order and takes the first that fits. Where a text has no
reading it is read again, this time with the phrases that stand for faults, so that the complaint can say more.
Every function has a bound on its depth, which grows with the number of tokens.
-/

namespace Rulebook.Expression

/-- The alternatives of a phrase. -/
def Phrase.alternatives (p : Phrase) : List Alternative :=
  expressionRule p ++ patternRule p ++ statementRule p ++ faultRule p

/-- A text to read: its tokens, what stands before its complaints, and a reader of expressions inside of quoted
texts. -/
structure Source where
  tokens : TokenStream
  mark : Text
  inner : Formatted.Inner

namespace Source

/-- Why reading stops at once. -/
inductive Halt where
  /-- What comes next is no token. -/
  | broken (o : Offence)
  /-- The form is refused; the line where the reader looked last. -/
  | refused (o : Offence) (latest : Nat)

/-- Where the reader is: its place, the number of tokens that it has looked at, what it remembers of phrases at
places, and whether it looks for faults. -/
structure State where
  position : Nat
  reach : Nat
  remembered : Std.HashMap (Phrase × Nat) (Option Node × Nat)
  checks : Bool

/-- The start of a text. -/
def State.start : State := ⟨0, 0, ∅, false⟩

/-- A step of the reader. -/
abbrev Reading := StateT State (Except Halt)

/-- What comes of an item: it is not there, it is there without a part, or it is there with a part. -/
inductive Found where
  | missing
  | bare
  | part (n : Node)

/-- What comes of a row of items: not all are there, perhaps behind a place of no return, or the parts. -/
inductive Row where
  | missing (committed : Bool)
  | parts (ns : List Node)

/-- The line where a reader looked last. -/
def latestLine (s : Source) (st : State) : Nat := ((s.tokens.tokens[st.reach - 1]?).map Token.line).getD 0

/-- An offence where the tokens end, as this text tells it. -/
def endOffence (s : Source) : Option Offence :=
  match s.tokens.ending with
  | .complete => none
  | .broken o => some o
  | .stopped o _ => some { o with message := s.mark ++ o.message }

/-- The next token. -/
def look (s : Source) : Reading (Option Token) := do
  let st ← get
  match s.tokens.tokens[st.position]? with
  | some t =>
    if st.reach ≤ st.position then set { st with reach := st.position + 1 }
    return some t
  | none =>
    match s.endOffence with
    | some o => throw (.broken o)
    | none => return none

/-- Goes to a place. -/
def goTo (position : Nat) : Reading Unit := modify fun st => { st with position }

/-- Stops with a complaint. -/
def refuse {α : Type} (s : Source) (c : Complaint) : Reading α := do
  let latest := s.latestLine (← get)
  let line := match c.spot with | .line n => n | .latest => latest
  throw (.refused ⟨c.kind, s.mark ++ c.message, line⟩ latest)

/-- Takes the next token if it passes a test. -/
def take (s : Source) (test : Token → Bool) (node : Token → Node) : Reading Found := do
  match ← s.look with
  | some t =>
    if test t then
      modify fun st => { st with position := st.position + 1 }
      return .part (node t)
    else return .missing
  | none => return .missing

/-- A token as a tree. -/
def tokenNode (t : Token) : Node := .mk (.token t.spelling) t.line []

/-- A name as a tree. -/
def nameNode (t : Token) : Node := .mk (.name t.text) t.line []

/-- Takes a certain word. -/
def takeWord (s : Source) (w : String) : Reading Found :=
  s.take (fun t => t.kind == .word && t.spelling == w) tokenNode

/-- Takes a token of a kind. -/
def takeKind (s : Source) (k : TokenKind) : Reading Found := s.take (fun t => t.kind == k) tokenNode

/-- Takes a number. -/
def takeNumber (s : Source) : Reading Found := do
  match ← s.look with
  | some t =>
    if t.kind == .number then
      modify fun st => { st with position := st.position + 1 }
      match numberValue t.line t.text with
      | .ok v => return .part (.mk (.constant v) t.line [])
      | .error c => s.refuse c
    else return .missing
  | none => return .missing

/-- The quoted tokens that come next, each with its line. -/
def takeQuoted (s : Source) : Nat → List (Nat × Text) → Reading (List (Nat × Text))
  | 0, done => return done.reverse
  | bound + 1, done => do
    match ← s.look with
    | some t =>
      if t.kind == .string then
        modify fun st => { st with position := st.position + 1 }
        s.takeQuoted bound ((t.line, t.text) :: done)
      else return done.reverse
    | none => return done.reverse

/-- Takes quoted texts side by side. -/
def takeStrings (s : Source) : Reading Found := do
  match ← s.takeQuoted s.tokens.tokens.size [] with
  | [] => return .missing
  | quoted =>
    match readStrings s.inner quoted with
    | .ok n => return .part n
    | .error (.own c) => s.refuse c
    | .error (.inner o) => throw (.refused o (s.latestLine (← get)))

/-- Takes a word that must be there. -/
def takeForced (s : Source) (w : String) : Reading Found := do
  match ← s.takeWord w with
  | .missing =>
    let line := match ← s.look with | some t => t.line | none => 0
    s.refuse (complainAt line ("expected '" ++ (w : Text) ++ "'"))
  | found => return found

/-- Remembers what came of a phrase at a place, and where it ends. -/
def remember (p : Phrase) (start : Nat) (n : Option Node) (stop : Nat) : Reading Unit :=
  modify fun st => { st with remembered := st.remembered.insert (p, start) (n, stop) }

/-- Where an alternative was read. -/
def placeOf (s : Source) (start : Nat) (st : State) : Place :=
  ⟨((s.tokens.tokens[start]?).map Token.line).getD 0,
    if st.position = 0 then 0 else ((s.tokens.tokens[st.position - 1]?).map Token.depth).getD 0⟩

mutual

/-- Reads a phrase. -/
def readPhrase (s : Source) : Nat → Phrase → Reading (Option Node)
  | 0, _ => return none
  | bound + 1, p => do
    let start := (← get).position
    match p.mode with
    | .plain => s.readAlternatives bound start p.alternatives
    | .unchecked => do
      let checks := (← get).checks
      modify fun st => { st with checks := false }
      let n ← s.readAlternatives bound start p.alternatives
      modify fun st => { st with checks }
      return n
    | .remembered => do
      let _ ← s.look
      match (← get).remembered[(p, start)]? with
      | some (n, stop) => do
        goTo stop
        return n
      | none => do
        let n ← s.readAlternatives bound start p.alternatives
        remember p start n (← get).position
        return n
    | .growing => do
      let _ ← s.look
      match (← get).remembered[(p, start)]? with
      | some (n, stop) => do
        goTo stop
        return n
      | none => do
        remember p start none start
        s.grow bound p start none start

/-- Reads a phrase again and again, each time with what was read before as its beginning, as long as it grows. -/
def grow (s : Source) : Nat → Phrase → Nat → Option Node → Nat → Reading (Option Node)
  | 0, _, _, best, stop => do
    goTo stop
    return best
  | bound + 1, p, start, best, stop => do
    let n ← s.readAlternatives bound start p.alternatives
    let reached := (← get).position
    if n.isSome && stop < reached then
      remember p start n reached
      goTo start
      s.grow bound p start n reached
    else
      goTo stop
      return best

/-- Reads the first alternative that fits. -/
def readAlternatives (s : Source) : Nat → Nat → List Alternative → Reading (Option Node)
  | 0, start, _ => do
    goTo start
    return none
  | _ + 1, start, [] => do
    goTo start
    return none
  | bound + 1, start, a :: rest => do
    goTo start
    match ← s.readItems bound a.items false [] with
    | .parts ns =>
      match a.build (s.placeOf start (← get)) ns with
      | .node n => return some n
      | .nothing => do
        goTo start
        return none
      | .refused c => s.refuse c
    | .missing committed =>
      if committed then do
        goTo start
        return none
      else s.readAlternatives bound start rest

/-- Reads a row of items. -/
def readItems (s : Source) : Nat → List Item → Bool → List Node → Reading Row
  | 0, _, committed, _ => return .missing committed
  | _ + 1, [], _, done => return .parts done.reverse
  | bound + 1, .commit :: rest, _, done => s.readItems bound rest true done
  | bound + 1, i :: rest, committed, done => do
    match ← s.readItem bound i with
    | .missing => return .missing committed
    | .bare => s.readItems bound rest committed done
    | .part n => s.readItems bound rest committed (n :: done)

/-- Reads an item. -/
def readItem (s : Source) : Nat → Item → Reading Found
  | 0, _ => return .missing
  | bound + 1, i => do
    match i with
    | .word w => s.takeWord w
    | .soft w => s.take (fun t => t.kind == .name && t.text == (w : Text)) nameNode
    | .softKeyword => s.take (fun t => t.kind == .name && softKeywords.any fun w => t.text == (w : Text)) nameNode
    | .nameToken => s.take (fun t => t.kind == .name) nameNode
    | .numberToken => s.takeNumber
    | .stringToken => s.takeKind .string
    | .stringTokens => s.takeStrings
    | .newline => s.takeKind .newline
    | .indent => s.takeKind .indent
    | .dedent => s.takeKind .dedent
    | .finish => s.takeKind .finish
    | .phrase p => do
      match ← s.readPhrase bound p with
      | some n => return .part n
      | none => return .missing
    | .check p => do
      if (← get).checks then
        match ← s.readPhrase bound p with
        | some n => return .part n
        | none => return .missing
      else return .missing
    | .oneOf alternatives => do
      let start := (← get).position
      match ← s.readAlternatives bound start (alternatives.map fun items => ⟨items, pass⟩) with
      | some n => return .part n
      | none => return .missing
    | .optional alternatives => do
      let start := (← get).position
      match ← s.readAlternatives bound start (alternatives.map fun items => ⟨items, pass⟩) with
      | some n => return .part n
      | none => return .part Node.absent
    | .many item => return .part (Node.row (← s.readMany bound item []))
    | .atLeastOne item => do
      match ← s.readMany bound item [] with
      | [] => return .missing
      | ns => return .part (Node.row ns)
    | .separated separator item => do
      match ← s.readItem bound item with
      | .part first => return .part (Node.row (first :: (← s.readTail bound separator item [])))
      | _ => return .missing
    | .ahead item => do
      let start := (← get).position
      let found ← s.readItem bound item
      goTo start
      match found with
      | .missing => return .missing
      | _ => return .bare
    | .notAhead item => do
      let start := (← get).position
      let found ← s.readItem bound item
      goTo start
      match found with
      | .missing => return .bare
      | _ => return .missing
    | .commit => return .bare
    | .forced w => s.takeForced w

/-- Reads an item as often as it is there. -/
def readMany (s : Source) : Nat → Item → List Node → Reading (List Node)
  | 0, _, done => return done.reverse
  | bound + 1, item, done => do
    let start := (← get).position
    match ← s.readItem bound item with
    | .part n => s.readMany bound item (n :: done)
    | _ => do
      goTo start
      return done.reverse

/-- Reads an item behind a separator as often as both are there. -/
def readTail (s : Source) : Nat → Item → Item → List Node → Reading (List Node)
  | 0, _, _, done => return done.reverse
  | bound + 1, separator, item, done => do
    let start := (← get).position
    match ← s.readItem bound separator with
    | .missing => do
      goTo start
      return done.reverse
    | _ =>
      match ← s.readItem bound item with
      | .part n => s.readTail bound separator item (n :: done)
      | _ => do
        goTo start
        return done.reverse

end

theorem readPhrase_zero (s : Source) (p : Phrase) : s.readPhrase 0 p = pure none := by
  rw [readPhrase]

theorem grow_zero (s : Source) (p : Phrase) (start : Nat) (best : Option Node) (stop : Nat) :
    s.grow 0 p start best stop = (goTo stop >>= fun _ => pure best) := by
  rw [grow]

theorem readAlternatives_zero (s : Source) (start : Nat) (as : List Alternative) :
    s.readAlternatives 0 start as = (goTo start >>= fun _ => pure none) := by
  rw [readAlternatives]

theorem readItems_zero (s : Source) (items : List Item) (committed : Bool) (done : List Node) :
    s.readItems 0 items committed done = pure (.missing committed) := by
  rw [readItems]

theorem readItem_zero (s : Source) (i : Item) : s.readItem 0 i = pure .missing := by
  rw [readItem]

theorem readMany_zero (s : Source) (item : Item) (done : List Node) : s.readMany 0 item done = pure done.reverse := by
  rw [readMany]

/-- A bound on the depth of the reader, far above what the tokens need. -/
def bound (s : Source) : Nat := 300 * (s.tokens.tokens.size + 10)

/-- What is told of a text that cannot be read. An end that cannot be read goes before a complaint about the form,
and so does a bracket that is opened on a line above the complaint and never closed. -/
def verdict (s : Source) : Halt → Offence
  | .broken o => o
  | .refused o latest =>
    match s.tokens.ending with
    | .complete => o
    | .broken end_ => end_
    | .stopped _ none => o
    | .stopped _ (some (b, line)) =>
      if line < latest then
        let u := unclosed b line
        { u with message := s.mark ++ u.message }
      else o

/-- What is told of a text that has no reading: the last token of the first reading, and where the second stands. -/
def plainVerdict (s : Source) (first second : State) : Offence :=
  let latest := s.latestLine second
  match s.tokens.tokens[first.reach - 1]? with
  | some t =>
    if t.kind == .indent then ⟨.indentation, s.mark ++ "unexpected indent", latest⟩
    else if t.kind == .dedent then ⟨.indentation, s.mark ++ "unexpected unindent", latest⟩
    else s.verdict (.refused ⟨.form, s.mark ++ "invalid syntax", t.line⟩ latest)
  | none => ⟨.form, s.mark ++ "error at start before reading any input", latest⟩

/-- The tree of a text. -/
def read (s : Source) (p : Phrase) : Except Offence Node :=
  match (s.readPhrase s.bound p).run State.start with
  | .error h => .error (s.verdict h)
  | .ok (some n, _) => .ok n
  | .ok (none, first) =>
    match (s.readPhrase s.bound p).run { State.start with reach := first.reach, checks := true } with
    | .error h => .error (s.verdict h)
    | .ok (_, second) => .error (s.plainVerdict first second)

end Source

/-- Reads expressions inside of quoted texts, down to a depth. -/
def readInner : Nat → Formatted.Inner
  | 0, line, _ => .error ⟨.form, "f-string: expressions nested too deeply", line⟩
  | depth + 1, line, text =>
    (Source.read ⟨lex line text, "f-string: ", readInner depth⟩ .formattedExpression).map fun _ => ()

/-- The tree of a whole text. -/
def readText (text : Text) : Except Offence Node :=
  Source.read ⟨lex 1 text, "", readInner (text.length + 1)⟩ .wholeText

end Rulebook.Expression
