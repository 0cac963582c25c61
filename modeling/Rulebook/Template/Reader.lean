import Rulebook.Template.Lexer
import Rulebook.Template.Syntax

/-!
# Reading templates

The statements of a template, or the first offence against the syntax. The reader looks one token ahead, and
two where a name could be that of an argument.
-/

namespace Rulebook.Template

/-- What the reader knows: the tokens to come, the first of them ahead, the statements being read and the
ends they wait for, innermost first. -/
structure ReadState where
  tokens : List Placed
  offence : Option Fault
  lastLine : Nat
  tags : List Text
  ends : List (List Text)

/-- A reader that may fail. -/
abbrev Reader (α : Type) := StateT ReadState (Except Fault) α

/-- Fails with an offence against the syntax. -/
def failSyntax {α : Type} (message : Text) : Reader α := throw (syntaxFault message)

/-- A text between quotes as messages show it. -/
def shown (t : Text) : Text := Text.display t

/-- The token ahead. -/
def peek : Reader Token := do
  let s ← get
  match s.tokens with
  | p :: _ => return p.token
  | [] => return .stop

/-- The line of the token ahead. -/
def peekLine : Reader Nat := do
  let s ← get
  match s.tokens with
  | p :: _ => return p.line
  | [] => return s.lastLine

/-- Moves past the token ahead; an offence behind it is reported. -/
def advance : Reader Unit := do
  let s ← get
  match s.tokens with
  | [] => return
  | _ :: rest =>
    match rest, s.offence with
    | [], some f => throw f
    | _, _ => set { s with tokens := rest }

/-- The token behind the one ahead. -/
def peekSecond : Reader Token := do
  let s ← get
  match s.tokens, s.offence with
  | _ :: p :: _, _ => return p.token
  | [_], some f => throw f
  | _, _ => return .stop

/-- The token ahead is this symbol. -/
def aheadSymbol (sym : Symbol) : Reader Bool := do return (← peek) == .symbol sym

/-- The token ahead is this name. -/
def aheadName (n : String) : Reader Bool := do return (← peek).isName n

/-- Moves past the token ahead if it is this symbol. -/
def acceptSymbol (sym : Symbol) : Reader Bool := do
  if ← aheadSymbol sym then
    advance
    return true
  else return false

/-- Moves past the token ahead if it is this name. -/
def acceptName (n : String) : Reader Bool := do
  if ← aheadName n then
    advance
    return true
  else return false

/-- Fails because something else was expected. -/
def failExpected {α : Type} (what : Text) : Reader α := do
  match ← peek with
  | .stop => failSyntax ("unexpected end of template, expected " ++ shown what ++ ".")
  | t => failSyntax ("expected token " ++ shown what ++ ", got " ++ shown t.describe)

/-- Moves past this symbol. -/
def expectSymbol (sym : Symbol) : Reader Unit := do
  if !(← acceptSymbol sym) then failExpected sym.spelling

/-- Moves past this name. -/
def expectWord (n : String) : Reader Unit := do
  if !(← acceptName n) then failExpected n

/-- Moves past any name. -/
def expectName : Reader Text := do
  match ← peek with
  | .name n =>
    advance
    return n
  | _ => failExpected "name"

/-- Moves past the end of a tag. -/
def expectEnd (token : Token) : Reader Unit := do
  if (← peek) == token then advance else failExpected token.describe

/-- The reader is too deep inside the template. -/
def failDepth {α : Type} : Reader α := throw ⟨.tooDeep, "maximum recursion depth exceeded"⟩

/-- The operator of a level of binding strength for operators that group to the left: sums, products and
powers. -/
def arithAt (level : Nat) : Token → Option Arith
  | .symbol .add => if level = 5 then some .add else none
  | .symbol .sub => if level = 5 then some .sub else none
  | .symbol .mul => if level = 7 then some .mul else none
  | .symbol .div => if level = 7 then some .div else none
  | .symbol .floorDiv => if level = 7 then some .floorDiv else none
  | .symbol .mod => if level = 7 then some .mod else none
  | .symbol .pow => if level = 8 then some .pow else none
  | _ => none

/-- The relation of a symbol. -/
def relationOf : Token → Option Relation
  | .symbol .eq => some .eq
  | .symbol .ne => some .ne
  | .symbol .lt => some .lt
  | .symbol .le => some .le
  | .symbol .gt => some .gt
  | .symbol .ge => some .ge
  | _ => none

/-- The token ends a tuple that has no parentheses. -/
def endsTuple : Token → Bool
  | .variableEnd => true
  | .blockEnd => true
  | .symbol .rightParen => true
  | _ => false

/-- What the items of a tuple may be. -/
inductive TupleKind where
  /-- Any expressions. -/
  | full
  /-- Expressions without a choice by a condition. -/
  | plain
  /-- Targets of an assignment, with properties of namespaces if allowed. -/
  | targets (namespaces : Bool)
  deriving Repr, DecidableEq, Inhabited

/-- Arguments of a call. -/
structure Args where
  positional : List Expr
  named : List (Text × Expr)
  rest : Option Expr
  namedRest : Option Expr
  deriving Inhabited

/-- No arguments. -/
def Args.none : Args := ⟨[], [], Option.none, Option.none⟩

/-- A filter of an expression. -/
def Args.filter (a : Args) (target : Option Expr) (name : Text) : Expr :=
  .ask .filter target name a.positional a.named a.rest a.namedRest

/-- A test of an expression. -/
def Args.test (a : Args) (target : Expr) (name : Text) : Expr :=
  .ask .test (some target) name a.positional a.named a.rest a.namedRest

/-- Fails unless arguments may still stand here. -/
def ensureArgs (ok : Bool) : Reader Unit := do
  if !ok then failSyntax "invalid syntax for function call expression"

/-- The constant that a name stands for. -/
def constantName? (n : Text) : Option Value :=
  if Text.same n "true" || Text.same n "True" then some (.bool true)
  else if Text.same n "false" || Text.same n "False" then some (.bool false)
  else if Text.same n "none" || Text.same n "None" then some .null
  else none

/-- Names joined by points. -/
def dottedName : Nat → Text → Reader Text
  | 0, n => return n
  | fuel + 1, n => do
    if ← acceptSymbol .dot then
      let m ← expectName
      dottedName fuel (n ++ 0x2e :: m)
    else return n

/-- Strings one after the other. -/
def moreStrings : Nat → Text → Reader Text
  | 0, t => return t
  | fuel + 1, t => do
    match ← peek with
    | .string u =>
      advance
      moreStrings fuel (t ++ u)
    | _ => return t

mutual

/-- An expression at a level of binding strength: 0 a choice by a condition, 1 "or", 2 "and", 3 "not",
4 comparisons, 5 sums, 6 joined texts, 7 products, 8 powers, 9 signs and what binds tighter. -/
def readLevel : Nat → Nat → Reader Expr
  | 0, _ => failDepth
  | fuel + 1, level => do
    match level with
    | 0 =>
      let line ← peekLine
      let e ← readLevel fuel 1
      readChoices fuel line e
    | 3 =>
      if ← acceptName "not" then return .unary .not (← readLevel fuel 3) else readLevel fuel 4
    | 4 =>
      let e ← readLevel fuel 5
      let rest ← readRelations fuel []
      return if rest.isEmpty then e else .chain e rest
    | 6 =>
      let e ← readLevel fuel 7
      let more ← readJoined fuel [e]
      match more with
      | [one] => return one
      | items => return .concat items
    | 9 => readSigned fuel true
    | _ =>
      let e ← readLevel fuel (level + 1)
      readLeft fuel level e

/-- Choices by conditions behind an expression. -/
def readChoices : Nat → Nat → Expr → Reader Expr
  | 0, _, _ => failDepth
  | fuel + 1, line, e => do
    if ← acceptName "if" then
      let condition ← readLevel fuel 1
      let otherwise ← if ← acceptName "else" then pure (some (← readLevel fuel 0)) else pure none
      let next ← peekLine
      readChoices fuel next (.choice line condition e otherwise)
    else return e

/-- Operands of a level whose operators group to the left. -/
def readLeft : Nat → Nat → Expr → Reader Expr
  | 0, _, _ => failDepth
  | fuel + 1, level, e => do
    let t ← peek
    if level = 1 ∧ t.isName "or" then
      advance
      let b ← readLevel fuel 2
      readLeft fuel level (.either e b)
    else if level = 2 ∧ t.isName "and" then
      advance
      let b ← readLevel fuel 3
      readLeft fuel level (.both e b)
    else
      match arithAt level t with
      | some op =>
        advance
        let b ← readLevel fuel (level + 1)
        readLeft fuel level (.arith op e b)
      | none => return e

/-- Relations with their right sides. -/
def readRelations : Nat → List (Relation × Expr) → Reader (List (Relation × Expr))
  | 0, _ => failDepth
  | fuel + 1, done => do
    let t ← peek
    match relationOf t with
    | some r =>
      advance
      let e ← readLevel fuel 5
      readRelations fuel ((r, e) :: done)
    | none =>
      if t.isName "in" then
        advance
        let e ← readLevel fuel 5
        readRelations fuel ((.isIn, e) :: done)
      else if t.isName "not" then
        if (← peekSecond).isName "in" then
          advance
          advance
          let e ← readLevel fuel 5
          readRelations fuel ((.notIn, e) :: done)
        else return done.reverse
      else return done.reverse

/-- Operands that are joined as texts. -/
def readJoined : Nat → List Expr → Reader (List Expr)
  | 0, _ => failDepth
  | fuel + 1, done => do
    if ← acceptSymbol .tilde then
      let e ← readLevel fuel 7
      readJoined fuel (e :: done)
    else return done.reverse

/-- A primary expression with signs before it, and calls, properties and, unless under a sign, filters and
tests behind it. -/
def readSigned : Nat → Bool → Reader Expr
  | 0, _ => failDepth
  | fuel + 1, filters => do
    let e ←
      if ← acceptSymbol .sub then do pure (Expr.unary .neg (← readSigned fuel false))
      else if ← acceptSymbol .add then do pure (Expr.unary .pos (← readSigned fuel false))
      else readPrimary fuel false
    let e ← readPostfix fuel e
    if filters then readAsked fuel e else return e

/-- A name, literal, or anything in brackets. -/
def readPrimary : Nat → Bool → Reader Expr
  | 0, _ => failDepth
  | fuel + 1, namespaces => do
    match ← peek with
    | .name n =>
      advance
      match constantName? n with
      | some v => return .const v
      | none =>
        if namespaces && (← aheadSymbol .dot) then
          advance
          return .namespaceRef n (← expectName)
        else return .name n
    | .string t =>
      advance
      return .const (.text (← moreStrings fuel t))
    | .integer n =>
      advance
      return .const (.int n)
    | .float x =>
      advance
      return .const (.float x)
    | .symbol .leftParen =>
      advance
      let e ← readTuple fuel .full true []
      expectSymbol .rightParen
      return e
    | .symbol .leftBracket =>
      advance
      return .list (← readItems fuel [])
    | .symbol .leftBrace =>
      advance
      return .mapping (← readPairs fuel [])
    | t => failSyntax ("unexpected " ++ shown t.describe)

/-- An expression, or a tuple of expressions between commas. -/
def readTuple : Nat → TupleKind → Bool → List String → Reader Expr
  | 0, _, _, _ => failDepth
  | fuel + 1, kind, parentheses, stops => do
    let (items, comma) ← readTupleItems fuel kind stops [] false
    match items, comma with
    | [e], false => return e
    | [], false =>
      if parentheses then return .tuple []
      else
        let t ← peek
        failSyntax ("Expected an expression, got " ++ shown t.describe)
    | items, _ => return .tuple items

/-- The items of a tuple behind those in `done`, which is reversed, and whether there was a comma. -/
def readTupleItems : Nat → TupleKind → List String → List Expr → Bool → Reader (List Expr × Bool)
  | 0, _, _, _, _ => failDepth
  | fuel + 1, kind, stops, done, comma => do
    if !done.isEmpty then expectSymbol .comma
    let t ← peek
    if endsTuple t || stops.any t.isName then return (done.reverse, comma)
    else
      let e ← match kind with
        | .full => readLevel fuel 0
        | .plain => readLevel fuel 1
        | .targets namespaces => readPrimary fuel namespaces
      if ← aheadSymbol .comma then readTupleItems fuel kind stops (e :: done) true
      else return ((e :: done).reverse, comma)

/-- The items of a list up to its closing bracket. -/
def readItems : Nat → List Expr → Reader (List Expr)
  | 0, _ => failDepth
  | fuel + 1, done => do
    if ← acceptSymbol .rightBracket then return done.reverse
    else
      if !done.isEmpty then expectSymbol .comma
      if ← acceptSymbol .rightBracket then return done.reverse
      else
        let e ← readLevel fuel 0
        readItems fuel (e :: done)

/-- The pairs of a mapping up to its closing brace. -/
def readPairs : Nat → List (Expr × Expr) → Reader (List (Expr × Expr))
  | 0, _ => failDepth
  | fuel + 1, done => do
    if ← acceptSymbol .rightBrace then return done.reverse
    else
      if !done.isEmpty then expectSymbol .comma
      if ← acceptSymbol .rightBrace then return done.reverse
      else
        let k ← readLevel fuel 0
        expectSymbol .colon
        let v ← readLevel fuel 0
        readPairs fuel ((k, v) :: done)

/-- Properties, items and calls behind an expression. -/
def readPostfix : Nat → Expr → Reader Expr
  | 0, _ => failDepth
  | fuel + 1, e => do
    match ← peek with
    | .symbol .dot =>
      advance
      let t ← peek
      advance
      match t with
      | .name n => readPostfix fuel (.property e n)
      | .integer n => readPostfix fuel (.item e (.const (.int n)))
      | _ => failSyntax "expected name or number"
    | .symbol .leftBracket =>
      advance
      let items ← readSubscripts fuel []
      match items with
      | [one] => readPostfix fuel (.item e one)
      | items => readPostfix fuel (.item e (.tuple items))
    | .symbol .leftParen =>
      let a ← readArgs fuel
      readPostfix fuel (.call e a.positional a.named a.rest a.namedRest)
    | _ => return e

/-- The subscripts up to the closing bracket. -/
def readSubscripts : Nat → List Expr → Reader (List Expr)
  | 0, _ => failDepth
  | fuel + 1, done => do
    if ← acceptSymbol .rightBracket then return done.reverse
    else
      if !done.isEmpty then expectSymbol .comma
      let e ← readSubscript fuel
      readSubscripts fuel (e :: done)

/-- A subscript: an expression or a slice. -/
def readSubscript : Nat → Reader Expr
  | 0 => failDepth
  | fuel + 1 => do
    let part : Reader (Option Expr) := do
      match ← peek with
      | .symbol .rightBracket => return none
      | .symbol .comma => return none
      | _ => return some (← readLevel fuel 0)
    let rest (start : Option Expr) : Reader Expr := do
      let stop ← if ← aheadSymbol .colon then pure none else part
      let step ← if ← acceptSymbol .colon then part else pure none
      return .slice start stop step
    if ← acceptSymbol .colon then rest none
    else
      let e ← readLevel fuel 0
      if ← acceptSymbol .colon then rest (some e) else return e

/-- Filters, tests and calls behind an expression. -/
def readAsked : Nat → Expr → Reader Expr
  | 0, _ => failDepth
  | fuel + 1, e => do
    match ← peek with
    | .symbol .pipe =>
      advance
      let e ← readFilter fuel (some e)
      readAsked fuel e
    | .symbol .leftParen =>
      let a ← readArgs fuel
      readAsked fuel (.call e a.positional a.named a.rest a.namedRest)
    | t =>
      if t.isName "is" then
        let e ← readTest fuel e
        readAsked fuel e
      else return e

/-- A filter behind its bar. -/
def readFilter : Nat → Option Expr → Reader Expr
  | 0, _ => failDepth
  | fuel + 1, target => do
    let n ← dottedName fuel (← expectName)
    let a ← if ← aheadSymbol .leftParen then readArgs fuel else pure Args.none
    return a.filter target n

/-- A test behind the word "is", which is ahead. -/
def readTest : Nat → Expr → Reader Expr
  | 0, _ => failDepth
  | fuel + 1, e => do
    advance
    let negated ← acceptName "not"
    let n ← dottedName fuel (← expectName)
    let t ← peek
    let single : Bool :=
      match t with
      | .name _ => !(t.isName "else" || t.isName "or" || t.isName "and")
      | .string _ => true
      | .integer _ => true
      | .float _ => true
      | .symbol .leftBracket => true
      | .symbol .leftBrace => true
      | _ => false
    let a ←
      if t == .symbol .leftParen then readArgs fuel
      else if single then
        if t.isName "is" then failSyntax "You cannot chain multiple tests with is"
        else
          let arg ← readPrimary fuel false
          let arg ← readPostfix fuel arg
          pure { Args.none with positional := [arg] }
      else pure Args.none
    let test := a.test e n
    return if negated then .unary .not test else test

/-- The arguments of a call from its opening parenthesis on. -/
def readArgs : Nat → Reader Args
  | 0 => failDepth
  | fuel + 1 => do
    expectSymbol .leftParen
    readArgItems fuel Args.none false

/-- Arguments up to the closing parenthesis; the lists in `a` are reversed. -/
def readArgItems : Nat → Args → Bool → Reader Args
  | 0, _, _ => failDepth
  | fuel + 1, a, comma => do
    let done : Args := { a with positional := a.positional.reverse, named := a.named.reverse }
    if ← acceptSymbol .rightParen then return done
    else
      if comma then expectSymbol .comma
      if ← (do if comma then acceptSymbol .rightParen else pure false) then return done
      else
        match ← peek with
        | .symbol .mul =>
          ensureArgs (a.rest.isNone && a.namedRest.isNone)
          advance
          let e ← readLevel fuel 0
          readArgItems fuel { a with rest := some e } true
        | .symbol .pow =>
          ensureArgs a.namedRest.isNone
          advance
          let e ← readLevel fuel 0
          readArgItems fuel { a with namedRest := some e } true
        | t =>
          let key? ← match t with
            | .name n => do pure (if (← peekSecond) == .symbol .assign then some n else none)
            | _ => pure none
          match key? with
          | some n =>
            ensureArgs a.namedRest.isNone
            advance
            advance
            let e ← readLevel fuel 0
            readArgItems fuel { a with named := (n, e) :: a.named } true
          | none =>
            ensureArgs (a.rest.isNone && a.namedRest.isNone && a.named.isEmpty)
            let e ← readLevel fuel 0
            readArgItems fuel { a with positional := e :: a.positional } true

end

/-- More steps than the expressions to come take. -/
def allowance : Reader Nat := do return 24 * (← get).tokens.length + 48

/-- An expression. -/
def readExpr : Reader Expr := do readLevel (← allowance) 0

/-- An expression or a tuple without parentheses. -/
def readTupleExpr (kind : TupleKind) (stops : List String) : Reader Expr := do
  readTuple (← allowance) kind false stops

/-- Filters one after the other on nothing, for blocks. With `inline` the first has no bar. -/
def readFilters : Nat → Bool → Option Expr → Reader (Option Expr)
  | 0, _, e => return e
  | fuel + 1, inline, e => do
    let more ← if inline then pure true else acceptSymbol .pipe
    if more then
      let f ← readFilter (← allowance) e
      readFilters fuel false (some f)
    else return e

/-- What messages call an expression that cannot be assigned to. -/
def Expr.kindName : Expr → Text
  | const _ => "const"
  | name _ => "name"
  | tuple _ => "tuple"
  | list _ => "list"
  | mapping _ => "dict"
  | unary .not _ => "not"
  | unary .neg _ => "neg"
  | unary .pos _ => "pos"
  | arith op _ _ =>
    match op with
    | .add => "add"
    | .sub => "sub"
    | .mul => "mul"
    | .div => "div"
    | .floorDiv => "floordiv"
    | .mod => "mod"
    | .pow => "pow"
  | both .. => "and"
  | either .. => "or"
  | chain .. => "compare"
  | concat _ => "concat"
  | choice .. => "condexpr"
  | property .. => "getattr"
  | item .. => "getitem"
  | slice .. => "slice"
  | call .. => "call"
  | ask .filter .. => "filter"
  | ask .test .. => "test"
  | namespaceRef .. => "nsref"

/-- The expression can stand on the left of an assignment, inside so many tuples. -/
def Expr.canAssign : Nat → Expr → Bool
  | _, name _ => true
  | _, namespaceRef .. => true
  | depth + 1, tuple items => items.all (canAssign depth)
  | _, _ => false

/-- Refuses what cannot be assigned to. -/
def checkTarget (e : Expr) : Reader Expr := do
  if e.canAssign 1000 then return e else failSyntax ("can't assign to " ++ shown e.kindName)

/-- The target of an assignment. -/
def readTarget (namespaces : Bool) (stops : List String) : Reader Expr := do
  checkTarget (← readTupleExpr (.targets namespaces) stops)

/-- A single name as a target. -/
def readNameTarget : Reader Text := do
  let n ← expectName
  match constantName? n with
  | some _ => failSyntax "can't assign to 'name'"
  | none => return n

/-- Parameters with their default values, up to the closing parenthesis. -/
def readParams : Nat → List Text → List Expr → Reader (List Text × List Expr)
  | 0, _, _ => failDepth
  | fuel + 1, params, defaults => do
    if ← acceptSymbol .rightParen then return (params.reverse, defaults.reverse)
    else
      if !params.isEmpty then expectSymbol .comma
      let n ← readNameTarget
      if ← acceptSymbol .assign then
        let e ← readExpr
        readParams fuel (n :: params) (e :: defaults)
      else if !defaults.isEmpty then failSyntax "non-default argument follows default argument"
      else readParams fuel (n :: params) defaults

/-- Moves past the remark that a template which is not found may be passed over, if it stands ahead. -/
def acceptIgnoring : Reader Bool := do
  if ← aheadName "ignore" then
    if (← peekSecond).isName "missing" then
      advance
      advance
      return true
  return false

/-- The words that end an import or insertion with a choice of its context. -/
def skipContext : Reader Unit := do
  let t ← peek
  if t.isName "with" || t.isName "without" then
    if (← peekSecond).isName "context" then
      advance
      advance

/-- Whether the words about a context follow, which are then passed. -/
def acceptContext : Reader Bool := do
  let t ← peek
  if t.isName "with" || t.isName "without" then
    if (← peekSecond).isName "context" then
      advance
      advance
      return true
    else return false
  else return false

/-- The names that an import takes over. -/
def readImported : Nat → List Imported → Reader (List Imported)
  | 0, _ => failDepth
  | fuel + 1, done => do
    if !done.isEmpty then expectSymbol .comma
    match ← peek with
    | .name _ =>
      if ← acceptContext then return done.reverse
      else
        let n ← readNameTarget
        if n.head? == some 0x5f then
          throw ⟨.templateAssertion, "names starting with an underline can not be imported"⟩
        else
          let shownAs ← if ← acceptName "as" then readNameTarget else pure n
          let done := ⟨n, shownAs⟩ :: done
          if ← acceptContext then return done.reverse
          else if ← aheadSymbol .comma then readImported fuel done
          else return done.reverse
    | _ => failExpected "name"

/-- The names and values of a block with names of its own, up to the end of the tag. -/
def readBindings : Nat → List Expr → List Expr → Reader (List Expr × List Expr)
  | 0, _, _ => failDepth
  | fuel + 1, targets, values => do
    if (← peek) == .blockEnd then return (targets.reverse, values.reverse)
    else
      if !targets.isEmpty then expectSymbol .comma
      let target ← readTarget false []
      expectSymbol .assign
      let value ← readExpr
      readBindings fuel (target :: targets) (value :: values)

/-- The expressions of a print statement, up to the end of the tag. -/
def readPrinted : Nat → List Piece → Reader (List Piece)
  | 0, _ => failDepth
  | fuel + 1, done => do
    if (← peek) == .blockEnd then return done.reverse
    else
      if !done.isEmpty then expectSymbol .comma
      let e ← readExpr
      readPrinted fuel (.expr e :: done)

/-- Fails about a tag, or about the end of the template, with what was waited for. -/
def failTag {α : Type} (name : Option Text) (ends : List (List Text)) : Reader α := do
  let s ← get
  let lead : Text :=
    match name with
    | none => "Unexpected end of template."
    | some n => "Encountered unknown tag " ++ shown n ++ "."
  let looking : Text :=
    match ends with
    | [] => []
    | innermost :: _ =>
      let words := Text.join " or " (innermost.map shown)
      if (name.any fun n => ends.any fun e => e.any (Text.same n)) then
        " You probably made a nesting mistake. Jinja is expecting this tag, but currently looking for " ++
          words ++ "."
      else " Jinja was looking for the following tags: " ++ words ++ "."
  let tag : Text :=
    match s.tags with
    | [] => []
    | t :: _ => " The innermost block that needs to be closed is " ++ shown t ++ "."
  failSyntax (lead ++ looking ++ tag)

/-- Data is white space. -/
def isBlankData (t : Text) : Bool := !t.isEmpty && t.all Text.isSpace

/-- The statement holds nothing but white space. -/
def Stmt.isBlank : Stmt → Bool
  | output pieces => pieces.all fun p => match p with | .data t => isBlankData t | .expr _ => false
  | _ => false

/-- Adds the output read so far, which is reversed, to the statements. -/
def flush (pieces : List Piece) (body : List Stmt) : List Stmt :=
  if pieces.isEmpty then body else .output pieces.reverse :: body

mutual

/-- Statements up to a tag that starts with one of the ends, which is then ahead, or to the end of the
template; `pieces` and `body` are reversed. -/
def readBody : Nat → Option (List Text) → List Piece → List Stmt → Reader (List Stmt)
  | 0, _, _, _ => failDepth
  | fuel + 1, ends, pieces, body => do
    match ← peek with
    | .stop => return (flush pieces body).reverse
    | .data t =>
      advance
      readBody fuel ends (.data t :: pieces) body
    | .variableBegin =>
      advance
      let e ← readTupleExpr .full []
      expectEnd .variableEnd
      readBody fuel ends (.expr e :: pieces) body
    | .blockBegin =>
      let body := flush pieces body
      advance
      let t ← peek
      let atEnd : Bool :=
        match t, ends with
        | .name n, some es => es.any (Text.same n)
        | _, _ => false
      if atEnd then return body.reverse
      else
        let stmt ← readStmt fuel
        expectEnd .blockEnd
        readBody fuel ends [] (stmt :: body)
    | _ => failSyntax "internal parsing error"

/-- The body of a statement from the end of its tag to one of its ends, which is ahead unless `drop` is
set. -/
def readInner : Nat → List Text → Bool → Reader (List Stmt)
  | 0, _, _ => failDepth
  | fuel + 1, ends, drop => do
    let _ ← acceptSymbol .colon
    expectEnd .blockEnd
    modify fun s => { s with ends := ends :: s.ends }
    let body ← readBody fuel (some ends) [] []
    modify fun s => { s with ends := s.ends.drop 1 }
    match ← peek with
    | .stop =>
      let s ← get
      failTag none (ends :: s.ends)
    | _ =>
      if drop then advance
      return body

/-- The branches of a condition after the first. -/
def readBranches : Nat → List (Expr × List Stmt) → Reader (List (Expr × List Stmt) × List Stmt)
  | 0, _ => failDepth
  | fuel + 1, done => do
    let t ← peek
    advance
    if t.isName "elif" then
      let test ← readTupleExpr .plain []
      let body ← readInner fuel ["elif", "else", "endif"] false
      readBranches fuel ((test, body) :: done)
    else if t.isName "else" then
      let otherwise ← readInner fuel ["endif"] true
      return (done.reverse, otherwise)
    else return (done.reverse, [])

/-- A statement from its name on. -/
def readStmt : Nat → Reader Stmt
  | 0 => failDepth
  | fuel + 1 => do
    match ← peek with
    | .name n =>
      let tags := (← get).tags
      modify fun s => { s with tags := n :: s.tags }
      let stmt ← match Text.toStringLossy n with
        | "for" => do
          advance
          let target ← readTarget false ["in"]
          expectWord "in"
          let iterable ← readTupleExpr .plain ["recursive"]
          let test ← if ← acceptName "if" then do pure (some (← readExpr)) else pure none
          let recursive ← acceptName "recursive"
          let body ← readInner fuel ["endfor", "else"] false
          let t ← peek
          advance
          let otherwise ← if t.isName "endfor" then pure [] else readInner fuel ["endfor"] true
          pure (Stmt.loop target iterable test recursive ⟨[], [], []⟩ body otherwise)
        | "if" => do
          advance
          let test ← readTupleExpr .plain []
          let body ← readInner fuel ["elif", "else", "endif"] false
          let (more, otherwise) ← readBranches fuel []
          pure (.condition test body more otherwise)
        | "block" => do
          advance
          let name ← expectName
          let isScoped ← acceptName "scoped"
          let required ← acceptName "required"
          if ← aheadSymbol .sub then
            failSyntax "Block names in Jinja have to be valid Python identifiers and may not contain hyphens, use an underscore instead."
          else
            let body ← readInner fuel ["endblock"] true
            if required && !body.all Stmt.isBlank then
              failSyntax "Required blocks can only contain comments or whitespace"
            else
              match ← peek with
              | .name m => if Text.same m name then advance
              | _ => pure ()
              pure (.block name isScoped body)
        | "extends" => do
          advance
          pure (.inherit (← readExpr))
        | "print" => do
          advance
          pure (.output (← readPrinted (← allowance) []))
        | "macro" => do
          advance
          let name ← readNameTarget
          expectSymbol .leftParen
          let (params, defaults) ← readParams (← allowance) [] []
          let body ← readInner fuel ["endmacro"] true
          pure (.define name params defaults ⟨[], []⟩ body)
        | "include" => do
          advance
          let template ← readExpr
          let passing ← acceptIgnoring
          skipContext
          pure (.insert template passing)
        | "from" => do
          advance
          let template ← readExpr
          expectWord "import"
          let names ← readImported (← allowance) []
          pure (.importNames template names)
        | "import" => do
          advance
          let template ← readExpr
          expectWord "as"
          let target ← readNameTarget
          skipContext
          pure (.importAs template target)
        | "set" => do
          advance
          let target ← readTarget true []
          if ← acceptSymbol .assign then pure (.assign target (← readTupleExpr .full []))
          else
            let filter ← readFilters (← allowance) false none
            let body ← readInner fuel ["endset"] true
            pure (.assignBlock target filter [] body)
        | "with" => do
          advance
          let (targets, values) ← readBindings (← allowance) [] []
          let body ← readInner fuel ["endwith"] true
          pure (.withNames targets values [] body)
        | "autoescape" => do
          advance
          let value ← readExpr
          let body ← readInner fuel ["endautoescape"] true
          pure (.autoescape value [] body)
        | "call" => do
          advance
          let (params, defaults) ←
            if ← acceptSymbol .leftParen then readParams (← allowance) [] [] else pure ([], [])
          match ← readExpr with
          | .call f args named rest namedRest =>
            let body ← readInner fuel ["endcall"] true
            pure (.callBlock (.call f args named rest namedRest) params defaults ⟨[], []⟩ body)
          | _ => failSyntax "expected call"
        | "filter" => do
          advance
          let filter ← readFilters (← allowance) true none
          let body ← readInner fuel ["endfilter"] true
          pure (.filterBlock (filter.getD (.const .null)) [] body)
        | _ => do
          modify fun s => { s with tags := tags }
          failTag (some n) (← get).ends
      modify fun s => { s with tags := tags }
      return stmt
    | _ => failSyntax "tag name expected"

end

/-- The statements of a template. -/
def read (source : Text) : Except Fault (List Stmt) :=
  let stream := lex source
  let start : ReadState := ⟨stream.tokens, stream.offence, stream.lastLine, [], []⟩
  match stream.tokens, stream.offence with
  | [], some f => .error f
  | _, _ => ((readBody (8 * stream.tokens.length + 16) none [] []).run start).map (·.1)

end Rulebook.Template
