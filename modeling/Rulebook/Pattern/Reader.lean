import Rulebook.Pattern.Width
import Rulebook.Text.Identifier
import Rulebook.Text.Letter
import Rulebook.Value.Printer
import Rulebook.Text.CharacterName
import Rulebook.Number.Integer

/-!
# Reading search patterns

A pattern text as a sequence of nodes, or the first offence against the syntax with its position. The
reader looks one item ahead; an escape counts as one item with the character behind the backslash.
-/

namespace Rulebook.Pattern

/-- A place in the pattern text: the item ahead and the position behind it. -/
structure Cursor where
  chars : Array CodePoint
  position : Nat
  next : Option Text

/-- What the reader knows beside its place: the flags of the whole pattern, the widths of the groups (those
still open have none), their names, the number of groups before the look behind being read, and where
groups were named by number in conditions. -/
structure ReadState where
  cursor : Cursor
  flags : Flags
  groups : Array (Option Width)
  names : List (Text × Nat)
  behind : Option Nat
  conditions : List (Nat × Nat)

/-- A reader that may fail. -/
abbrev Reader (α : Type) := StateT ReadState (Except Fault) α

/-- A fault at a position, with line and column where the pattern has several lines. -/
def faultAt (chars : Array CodePoint) (message : Text) (position : Nat) : Fault :=
  let before := (chars.toList.take position).reverse
  let lines := (before.filter (· == 10)).length + 1
  let column := (before.takeWhile (· != 10)).length + 1
  let place : Text := message ++ " at position " ++ Text.ofNat position
  ⟨.patternSyntax,
    if chars.contains 10 then
      place ++ " (line " ++ Text.ofNat lines ++ ", column " ++ Text.ofNat column ++ ")"
    else place⟩

namespace Cursor

/-- The position of the item ahead. -/
def here (c : Cursor) : Nat := c.position - (c.next.getD []).length

/-- The cursor with the item at its position ahead; a backslash at the end is a fault. -/
def load (c : Cursor) : Except Fault Cursor :=
  match c.chars[c.position]? with
  | none => .ok { c with next := none }
  | some 0x5c =>
    match c.chars[c.position + 1]? with
    | none => .error (faultAt c.chars "bad escape (end of pattern)" (c.chars.size - 1))
    | some d => .ok { c with position := c.position + 2, next := some [0x5c, d] }
  | some d => .ok { c with position := c.position + 1, next := some [d] }

end Cursor

/-- A fault at the item ahead, or some code points before it. -/
def failHere {α : Type} (message : Text) (back : Nat) : Reader α := do
  let s ← get
  throw (faultAt s.cursor.chars message (s.cursor.here - back))

/-- The item ahead. -/
def peek : Reader (Option Text) := do return (← get).cursor.next

/-- The position of the item ahead. -/
def here : Reader Nat := do return (← get).cursor.here

/-- Moves past the item ahead. -/
def advance : Reader Unit := do
  let s ← get
  let cursor ← s.cursor.load
  set { s with cursor := cursor }

/-- The item ahead, moving past it. -/
def take : Reader (Option Text) := do
  let item ← peek
  advance
  return item

/-- Moves past the item ahead if it is this character. -/
def accept (c : CodePoint) : Reader Bool := do
  if (← peek) == some [c] then
    advance
    return true
  else return false

/-- Moves to a position. -/
def seek (position : Nat) : Reader Unit := do
  let s ← get
  let cursor ← { s.cursor with position := position }.load
  set { s with cursor := cursor }

/-- At most `n` single characters that satisfy `p`. -/
def takeWhileMost (p : CodePoint → Bool) : Nat → Text → Reader Text
  | 0, done => return done.reverse
  | n + 1, done => do
    match ← peek with
    | some [c] =>
      if p c then
        advance
        takeWhileMost p n (c :: done)
      else return done.reverse
    | _ => return done.reverse

/-- The text up to a closing character, which is passed. -/
def takeUntil (close : CodePoint) (what : Text) : Nat → Text → Reader Text
  | 0, done => return done
  | fuel + 1, done => do
    match ← take with
    | none =>
      if done.isEmpty then failHere ("missing " ++ what) 0
      else failHere ("missing " ++ [close] ++ ", unterminated name") done.length
    | some item =>
      if item == [close] then
        if done.isEmpty then failHere ("missing " ++ what) 1 else return done
      else takeUntil close what fuel (done ++ item)

/-- More steps than any loop over the pattern takes. -/
def allowance : Reader Nat := do return (← get).cursor.chars.size + 2

/-- A hexadecimal digit. -/
def isHexDigit (c : CodePoint) : Bool := (Text.hexValue? c).isSome

/-- A code point written with exactly `width` hexadecimal digits behind an escape. -/
def readHexEscape (escape : Text) (width : Nat) : Reader CodePoint := do
  let digits ← takeWhileMost isHexDigit width []
  let written := escape ++ digits
  if digits.length ≠ width then failHere ("incomplete escape " ++ written) written.length
  else
    let c := Text.valueInBase 16 digits
    if 0x10ffff < c then failHere ("bad escape " ++ written) written.length else return c

/-- A code point written by its name in braces. -/
def readNamedEscape : Reader CodePoint := do
  if !(← accept 0x7b) then failHere "missing \x7b" 0
  else
    let name ← takeUntil 0x7d "character name" (← allowance) []
    match Text.ofCharacterName? name with
    | some c => return c
    | none => failHere ("undefined character name " ++ Text.display name) (name.length + 4)

/-- The code points of one-letter escapes. -/
def plainEscape? (c : CodePoint) : Option CodePoint :=
  if c = Text.cp 'a' then some 7
  else if c = Text.cp 'b' then some 8
  else if c = Text.cp 'f' then some 12
  else if c = Text.cp 'n' then some 10
  else if c = Text.cp 'r' then some 13
  else if c = Text.cp 't' then some 9
  else if c = Text.cp 'v' then some 11
  else if c = 0x5c then some 0x5c
  else none

/-- The class that a letter escape names. -/
def categoryEscape? (c : CodePoint) : Option SetItem :=
  if c = Text.cp 'd' then some (.category .digit false)
  else if c = Text.cp 'D' then some (.category .digit true)
  else if c = Text.cp 's' then some (.category .space false)
  else if c = Text.cp 'S' then some (.category .space true)
  else if c = Text.cp 'w' then some (.category .word false)
  else if c = Text.cp 'W' then some (.category .word true)
  else none

/-- The condition that a letter escape names. -/
def anchorEscape? (c : CodePoint) : Option Anchor :=
  if c = Text.cp 'A' then some .textStart
  else if c = Text.cp 'b' then some .wordBoundary
  else if c = Text.cp 'B' then some .noWordBoundary
  else if c = Text.cp 'Z' then some .textEnd
  else none

/-- An octal escape that is too large. -/
def failOctal {α : Type} (escape : Text) : Reader α :=
  failHere ("octal escape value " ++ escape ++ " outside of range 0-0o377") escape.length

/-- An escape that stands for a code point by number or name, both inside and outside sets. -/
def readNumericEscape? (escape : Text) (c : CodePoint) : Reader (Option CodePoint) := do
  if c = Text.cp 'x' then return some (← readHexEscape escape 2)
  else if c = Text.cp 'u' then return some (← readHexEscape escape 4)
  else if c = Text.cp 'U' then return some (← readHexEscape escape 8)
  else if c = Text.cp 'N' then return some (← readNamedEscape)
  else return none

/-- An escape inside a set. -/
def readSetEscape (escape : Text) (c : CodePoint) : Reader SetItem := do
  match plainEscape? c with
  | some d => return .one d
  | none =>
    match categoryEscape? c with
    | some item => return item
    | none =>
      match ← readNumericEscape? escape c with
      | some d => return .one d
      | none =>
        if Text.isOctalDigit c then
          let written := escape ++ (← takeWhileMost Text.isOctalDigit 2 [])
          let value := Text.valueInBase 8 (written.drop 1)
          if 0o377 < value then failOctal written else return .one value
        else if Text.isAsciiDigit c || Text.isAsciiLetter c then
          failHere ("bad escape " ++ escape) escape.length
        else return .one c

/-- Refuses a group that is still open, or one from inside the look behind being read. -/
def checkBehind (group : Nat) : Reader Unit := do
  let s ← get
  match s.behind with
  | none => return
  | some outside =>
    if ((s.groups[group]?).join).isNone then failHere "cannot refer to an open group" 0
    else if outside ≤ group then
      failHere "cannot refer to group defined in the same lookbehind subpattern" 0

/-- A reference to a group by its number. -/
def referTo (written : Text) : Reader Node := do
  let group := Text.valueInBase 10 (written.drop 1)
  let s ← get
  if group < s.groups.size then
    if ((s.groups[group]?).join).isNone then failHere "cannot refer to an open group" written.length
    else
      checkBehind group
      return .backReference group
  else failHere ("invalid group reference " ++ Text.ofNat group) (written.length - 1)

/-- An escape that starts with a digit other than zero: an octal number of three digits or a reference. -/
def readDigitEscape (escape : Text) (c : CodePoint) : Reader Node := do
  match ← peek with
  | some [d] =>
    if Text.isAsciiDigit d then
      advance
      let written := escape ++ [d]
      match ← peek with
      | some [e] =>
        if Text.isOctalDigit c && Text.isOctalDigit d && Text.isOctalDigit e then
          advance
          let written := written ++ [e]
          let value := Text.valueInBase 8 (written.drop 1)
          if 0o377 < value then failOctal written else return .one value
        else referTo written
      | _ => referTo written
    else referTo escape
  | _ => referTo escape

/-- An escape outside sets. -/
def readEscape (escape : Text) (c : CodePoint) : Reader Node := do
  match categoryEscape? c with
  | some item => return .set false [item]
  | none =>
    match anchorEscape? c with
    | some a => return .anchor a
    | none =>
      match plainEscape? c with
      | some d => return .one d
      | none =>
        match ← readNumericEscape? escape c with
        | some d => return .one d
        | none =>
          if c = 0x30 then
            let digits ← takeWhileMost Text.isOctalDigit 2 []
            return .one (Text.valueInBase 8 digits)
          else if Text.isAsciiDigit c then readDigitEscape escape c
          else if Text.isAsciiLetter c then failHere ("bad escape " ++ escape) escape.length
          else return .one c

/-- One member of a set that starts with the given item. -/
def readSetItem (item : Text) : Reader SetItem := do
  match item with
  | [0x5c, c] => readSetEscape item c
  | c :: _ => return .one c
  | [] => return .one 0

/-- The members of a set after its opening, up to the closing bracket. -/
def readSetItems (opening : Nat) : Nat → List SetItem → Reader (List SetItem)
  | 0, done => return done.reverse
  | fuel + 1, done => do
    match ← take with
    | none => failHere "unterminated character set" ((← here) - opening)
    | some item =>
      if item == [0x5d] && !done.isEmpty then return done.reverse
      else
        let first ← readSetItem item
        if ← accept 0x2d then
          match ← take with
          | none => failHere "unterminated character set" ((← here) - opening)
          | some last =>
            if last == [0x5d] then return (SetItem.one 0x2d :: first :: done).reverse
            else
              let second ← readSetItem last
              let bad := failHere ("bad character range " ++ item ++ "-" ++ last) (item.length + 1 + last.length)
              match first, second with
              | .one lo, .one hi =>
                if hi < lo then bad else readSetItems opening fuel (.range lo hi :: done)
              | _, _ => bad
        else readSetItems opening fuel (first :: done)

/-- The members without repetitions. -/
def distinctItems (items : List SetItem) : List SetItem :=
  (items.foldl (fun seen i => if seen.contains i then seen else i :: seen) []).reverse

/-- A set after its opening bracket. -/
def readSet : Reader Node := do
  let opening := (← here) - 1
  let negated ← accept 0x5e
  let items := distinctItems (← readSetItems opening (← allowance) [])
  match items with
  | [.one c] => return if negated then .notOne c else .one c
  | _ => return .set negated items

/-- A letter that names a flag, among them the one that patterns on texts cannot use. -/
def isFlagLetter (c : CodePoint) : Bool := c == Text.cp 'L' || (Flags.none.add? c).isSome

/-- The item is a flag letter. -/
def asFlag? : Text → Option CodePoint
  | [c] => if isFlagLetter c then some c else none
  | _ => none

/-- A fault about an item that is no flag letter. -/
def failFlag {α : Type} (item : Text) (other : Text) : Reader α :=
  let isLetter := match item with | [c] => Text.isLetter c | _ => false
  failHere (if isLetter then "unknown flag" else other) item.length

/-- Flags to turn on, from the given letter on, with the character that ends them. -/
def readFlagsOn : Nat → CodePoint → Flags → Reader (Flags × CodePoint)
  | 0, _, flags => return (flags, 0x29)
  | fuel + 1, c, flags => do
    match flags.add? c with
    | none => failHere "bad inline flags: cannot use 'L' flag with a str pattern" 0
    | some flags =>
      if flags.ascii && flags.unicode then
        failHere "bad inline flags: flags 'a', 'u' and 'L' are incompatible" 0
      else
        match ← take with
        | none => failHere "missing -, : or )" 0
        | some item =>
          match item with
          | [0x29] => return (flags, 0x29)
          | [0x2d] => return (flags, 0x2d)
          | [0x3a] => return (flags, 0x3a)
          | _ =>
            match asFlag? item with
            | some d => readFlagsOn fuel d flags
            | none => failFlag item "missing -, : or )"

/-- Flags to turn off, from the given letter on, up to the colon. -/
def readFlagsOff : Nat → CodePoint → Flags → Reader Flags
  | 0, _, flags => return flags
  | fuel + 1, c, flags => do
    if c = Text.cp 'a' ∨ c = Text.cp 'u' ∨ c = Text.cp 'L' then
      failHere "bad inline flags: cannot turn off flags 'a', 'u' and 'L'" 0
    else
      let flags := (flags.add? c).getD flags
      match ← take with
      | none => failHere "missing :" 0
      | some item =>
        if item == [0x3a] then return flags
        else
          match asFlag? item with
          | some d => readFlagsOff fuel d flags
          | none => failFlag item "missing :"

/-- Flags after `(?`: none when they were those of the whole pattern, else what a group turns on and off. -/
def readFlags (c : CodePoint) : Reader (Option (Flags × Flags)) := do
  let (on, stop) ←
    if c = 0x2d then pure (Flags.none, c) else readFlagsOn (← allowance) c Flags.none
  if stop = 0x29 then
    modify fun s => { s with flags := s.flags.union on }
    return none
  else if on.plain then failHere "bad inline flags: cannot turn on global flag" 1
  else if stop = 0x2d then
    match ← take with
    | none => failHere "missing flag" 0
    | some item =>
      match asFlag? item with
      | none => failFlag item "missing flag"
      | some d =>
        let off ← readFlagsOff (← allowance) d Flags.none
        if off.plain then failHere "bad inline flags: cannot turn off global flag" 1
        else if on.meets off then failHere "bad inline flags: flag turned on and off" 1
        else return some (on, off)
  else return some (on, Flags.none)

/-- Refuses a name that is no identifier. -/
def checkName (name : Text) : Reader Unit := do
  if !Text.isIdentifier name then
    failHere ("bad character in group name " ++ Text.display name) (name.length + 1)

/-- Opens a group, which gets the next number. -/
def openGroup (name : Option Text) : Reader Nat := do
  let s ← get
  let group := s.groups.size
  let groups := s.groups.push none
  match name with
  | none =>
    set { s with groups := groups }
    return group
  | some name =>
    match s.names.find? (fun e => Text.same e.1 name) with
    | some (_, other) =>
      failHere ("redefinition of group name " ++ Text.display name ++ " as group " ++ Text.ofNat group ++
        "; was group " ++ Text.ofNat other) (name.length + 1)
    | none =>
      set { s with groups := groups, names := (name, group) :: s.names }
      return group

/-- Closes a group with its body. -/
def closeGroup (group : Nat) (body : List Node) : Reader Unit :=
  modify fun s => { s with groups := s.groups.setIfInBounds group (some (bodyWidth s.groups body).capped) }

/-- The characters that are passed over in verbose patterns. -/
def isVerboseBlank (c : CodePoint) : Bool := c == 32 || (9 ≤ c && c ≤ 13)

/-- The rest of a comment in a verbose pattern. -/
def skipLine : Nat → Reader Unit
  | 0 => return
  | fuel + 1 => do
    match ← take with
    | none => return
    | some item => if item == [10] then return else skipLine fuel

/-- The rest of a comment group that opened at the given position. -/
def skipComment (opening : Nat) : Nat → Reader Unit
  | 0 => return
  | fuel + 1 => do
    if (← peek).isNone then failHere "missing ), unterminated comment" ((← here) - opening)
    else if (← take) == some [0x29] then return
    else skipComment opening fuel

/-- The greatest count of a repetition, above which the count is too large to hold. -/
def countLimit : Nat := 4294967295

/-- The count that digits write. -/
def countOf (digits : Text) : Reader Nat := do
  if maxIntegerDigits < digits.length then throw (Fault.longNumber digits.length)
  else
    let n := Text.valueInBase 10 digits
    if countLimit ≤ n then throw ⟨.overflow, "the repetition number is too large"⟩ else return n

/-- The counts of a repetition in braces; none if the brace stands for itself. -/
def readCounts : Reader (Option (Nat × Option Nat)) := do
  let start ← here
  if (← peek) == some [0x7d] then return none
  else
    let fuel ← allowance
    let low ← takeWhileMost Text.isAsciiDigit fuel []
    let high ← if ← accept 0x2c then takeWhileMost Text.isAsciiDigit fuel [] else pure low
    if !(← accept 0x7d) then
      seek start
      return none
    else
      let least ← countOf low
      if high.isEmpty then return some (least, none)
      else
        let most ← countOf high
        if most < least then
          failHere "min repeat greater than max repeat" ((← here) - start)
        else return some (least, some most)

/-- A repetition of the last part read, which stands first in `done`. -/
def repeatLast (start : Nat) (width : Nat) (least : Nat) (most : Option Nat) (done : List Node) :
    Reader (List Node) := do
  let back := (← here) - start + width
  match done with
  | [] => failHere "nothing to repeat" back
  | .anchor _ :: _ => failHere "nothing to repeat" back
  | .repetition .. :: _ => failHere "multiple repeat" back
  | item :: before =>
    let body :=
      match item with
      | .group none on off body => if on == Flags.none && off == Flags.none then body else [item]
      | _ => [item]
    if ← accept 0x3f then return .repetition .lazy least most body :: before
    else if ← accept 0x2b then return .repetition .possessive least most body :: before
    else return .repetition .greedy least most body :: before

/-- The number or name of the group in a condition. -/
def readCondition : Reader Nat := do
  let name ← takeUntil 0x29 "group name" (← allowance) []
  let group ←
    if Text.isIdentifier name then
      match (← get).names.find? (fun e => Text.same e.1 name) with
      | some (_, group) => pure group
      | none => failHere ("unknown group name " ++ Text.display name) (name.length + 1)
    else
      match Text.readInteger? name with
      | none => failHere ("bad character in group name " ++ Text.display name) (name.length + 1)
      | some n =>
        if n < 0 then failHere ("bad character in group name " ++ Text.display name) (name.length + 1)
        else if n = 0 then failHere "bad group number" (name.length + 1)
        else if 1073741823 ≤ n then
          failHere ("invalid group reference " ++ Text.ofInt n) (name.length + 1)
        else
          let position := (← here) - name.length - 1
          modify fun s =>
            if s.conditions.any (fun e => e.1 == n.toNat) then s
            else { s with conditions := s.conditions ++ [(n.toNat, position)] }
          pure n.toNat
  checkBehind group
  return group

/-- A part without parts of its own, for which two spellings can be the same. -/
def Node.sameLeaf : Node → Node → Bool
  | .one c, .one d => c == d
  | .notOne c, .notOne d => c == d
  | .any, .any => true
  | .set n i, .set m j => n == m && i == j
  | .anchor a, .anchor b => a == b
  | .backReference g, .backReference h => g == h
  | _, _ => false

/-- The first part that all alternatives share, if they do. -/
def sharedFirst? (alternatives : List (List Node)) : Option Node :=
  match alternatives with
  | (n :: _) :: rest =>
    if rest.all (fun body => match body with | m :: _ => n.sameLeaf m | [] => false) then some n else none
  | _ => none

/-- The parts that all alternatives share at their beginning, and what is left of each. -/
def splitShared : Nat → List Node → List (List Node) → List Node × List (List Node)
  | 0, shared, alternatives => (shared.reverse, alternatives)
  | fuel + 1, shared, alternatives =>
    match sharedFirst? alternatives with
    | some n => splitShared fuel (n :: shared) (alternatives.map (·.drop 1))
    | none => (shared.reverse, alternatives)

/-- The members that an alternative contributes if it matches one code point. -/
def asSetItems? : List Node → Option (List SetItem)
  | [.one c] => some [.one c]
  | [.set false items] => some items
  | _ => none

/-- A choice between alternatives: what they share first, and single code points as a set. -/
def choiceOf (alternatives : List (List Node)) : List Node :=
  match alternatives with
  | [body] => body
  | _ =>
    let least := alternatives.foldl (fun n body => min n body.length) (alternatives.headD []).length
    let (shared, rest) := splitShared (least + 1) [] alternatives
    match rest.mapM asSetItems? with
    | some items => shared ++ [.set false (distinctItems items.flatten)]
    | none => shared ++ [.choice rest]

/-- Groups that only hold parts together give way to their parts. -/
def unpack (body : List Node) : List Node :=
  body.flatMap fun n =>
    match n with
    | .group none on off inner => if on == Flags.none && off == Flags.none then inner else [n]
    | _ => [n]

/-- What `(?` opens, as far as its head tells. -/
inductive Head where
  /-- A part that is already complete. -/
  | done (node : Option Node)
  /-- The flags of the whole pattern. -/
  | global
  /-- A group whose body follows. -/
  | group (capture : Bool) (name : Option Text) (on off : Flags)
  | atomic
  | look (ahead negated : Bool)
  | conditional

/-- The head of a group after `(?`, which opened at the given position. -/
def readHead (opening : Nat) : Reader Head := do
  match ← take with
  | none => failHere "unexpected end of pattern" 0
  | some item =>
    match item with
    | [0x50] =>
      if ← accept 0x3c then
        let name ← takeUntil 0x3e "group name" (← allowance) []
        checkName name
        return .group true (some name) Flags.none Flags.none
      else if ← accept 0x3d then
        let name ← takeUntil 0x29 "group name" (← allowance) []
        checkName name
        match (← get).names.find? (fun e => Text.same e.1 name) with
        | none => failHere ("unknown group name " ++ Text.display name) (name.length + 1)
        | some (_, group) =>
          if (((← get).groups[group]?).join).isNone then
            failHere "cannot refer to an open group" (name.length + 1)
          else
            checkBehind group
            return .done (some (.backReference group))
      else
        match ← take with
        | none => failHere "unexpected end of pattern" 0
        | some other => failHere ("unknown extension ?P" ++ other) (other.length + 2)
    | [0x3a] => return .group false none Flags.none Flags.none
    | [0x23] =>
      skipComment opening (← allowance)
      return .done none
    | [0x3d] => return .look true false
    | [0x21] => return .look true true
    | [0x3c] =>
      match ← take with
      | none => failHere "unexpected end of pattern" 0
      | some [0x3d] => return .look false false
      | some [0x21] => return .look false true
      | some other => failHere ("unknown extension ?<" ++ other) (other.length + 2)
    | [0x28] => return .conditional
    | [0x3e] => return .atomic
    | _ =>
      let flag := if item == [0x2d] then some 0x2d else asFlag? item
      match flag with
      | none => failHere ("unknown extension ?" ++ item) (item.length + 1)
      | some c =>
        match ← readFlags c with
        | none => return .global
        | some (on, off) => return .group false none on off

/-- Fails unless the closing parenthesis is ahead, which is passed. -/
def closeAt (opening : Nat) : Reader Unit := do
  if !(← accept 0x29) then failHere "missing ), unterminated subpattern" ((← here) - opening)

mutual

/-- Alternatives between bars. At the top, flags of the whole pattern may stand before the first part. -/
def readChoice : Nat → Bool → Bool → Reader (List Node)
  | 0, _, _ => throw ⟨.tooDeep, "pattern too deep"⟩
  | fuel + 1, verbose, top => do
    let first ← readSequence fuel verbose top []
    readAlternatives fuel verbose top [first]

/-- The alternatives after those in `done`, which is reversed. -/
def readAlternatives : Nat → Bool → Bool → List (List Node) → Reader (List Node)
  | 0, _, _, _ => throw ⟨.tooDeep, "pattern too deep"⟩
  | fuel + 1, verbose, top, done => do
    if ← accept 0x7c then
      let whole := (← get).flags.verbose
      let verbose := if top then whole else verbose
      let next ← readSequence fuel verbose false []
      readAlternatives fuel verbose top (next :: done)
    else return choiceOf done.reverse

/-- Parts up to a bar, a closing parenthesis or the end, after those in `done`, which is reversed. -/
def readSequence : Nat → Bool → Bool → List Node → Reader (List Node)
  | 0, _, _, _ => throw ⟨.tooDeep, "pattern too deep"⟩
  | fuel + 1, verbose, first, done => do
    match ← peek with
    | none => return unpack done.reverse
    | some item =>
      if item == [0x7c] || item == [0x29] then return unpack done.reverse
      else
        advance
        match item with
        | [0x5c, c] =>
          let node ← readEscape item c
          readSequence fuel verbose first (node :: done)
        | [c] =>
          if verbose && isVerboseBlank c then readSequence fuel verbose first done
          else if verbose && c == 0x23 then
            skipLine (← allowance)
            readSequence fuel verbose first done
          else if c = 0x5b then
            let node ← readSet
            readSequence fuel verbose first (node :: done)
          else if c = 0x2a ∨ c = 0x2b ∨ c = 0x3f then
            let start ← here
            let least := if c = 0x2b then 1 else 0
            let most := if c = 0x3f then some 1 else none
            let done ← repeatLast start 1 least most done
            readSequence fuel verbose first done
          else if c = 0x7b then
            let start ← here
            match ← readCounts with
            | none => readSequence fuel verbose first (.one c :: done)
            | some (least, most) =>
              let done ← repeatLast start 1 least most done
              readSequence fuel verbose first done
          else if c = 0x2e then readSequence fuel verbose first (.any :: done)
          else if c = 0x5e then readSequence fuel verbose first (.anchor .lineStart :: done)
          else if c = 0x24 then readSequence fuel verbose first (.anchor .lineEnd :: done)
          else if c = 0x28 then
            let opening := (← here) - 1
            let head ← if ← accept 0x3f then readHead opening else pure (.group true none Flags.none Flags.none)
            match head with
            | .done node => readSequence fuel verbose first (node.toList ++ done)
            | .global =>
              if !first || !done.isEmpty then
                failHere "global flags not at the start of the expression" ((← here) - opening)
              else
                let s ← get
                readSequence fuel s.flags.verbose first done
            | .group capture name on off =>
              let index ← if capture then do pure (some (← openGroup name)) else pure none
              let body ← readChoice fuel ((verbose || on.verbose) && !off.verbose) false
              closeAt opening
              if let some group := index then closeGroup group body
              readSequence fuel verbose first (.group index on off body :: done)
            | .atomic =>
              let body ← readChoice fuel verbose false
              closeAt opening
              readSequence fuel verbose first (.atomic body :: done)
            | .look ahead negated =>
              let outer := (← get).behind
              if !ahead && outer.isNone then modify fun s => { s with behind := some s.groups.size }
              let body ← readChoice fuel verbose false
              if !ahead && outer.isNone then modify fun s => { s with behind := none }
              closeAt opening
              readSequence fuel verbose first (.look ahead negated body :: done)
            | .conditional =>
              let group ← readCondition
              let yes ← readSequence fuel verbose false []
              if ← accept 0x7c then
                let no ← readSequence fuel verbose false []
                if (← peek) == some [0x7c] then
                  failHere "conditional backref with more than two branches" 0
                else
                  closeAt opening
                  readSequence fuel verbose first (.conditional group yes (some no) :: done)
              else
                closeAt opening
                readSequence fuel verbose first (.conditional group yes none :: done)
          else readSequence fuel verbose first (.one c :: done)
        | _ => readSequence fuel verbose first done

end

/-- A pattern that has been read: its parts, the flags of the whole and the widths of its groups. -/
structure Tree where
  body : List Node
  flags : Flags
  groups : Array (Option Width)

/-- Reads a whole pattern. -/
def readTree : Reader Tree := do
  advance
  let body ← readChoice (3 * (← allowance) + 8) false true
  let flags := (← get).flags
  if flags.ascii && flags.unicode then throw (Fault.badValue "ASCII and UNICODE flags are incompatible")
  if (← peek).isSome then failHere "unbalanced parenthesis" 0
  else
    let s ← get
    match s.conditions.find? (fun e => s.groups.size ≤ e.1) with
    | some (group, position) =>
      throw (faultAt s.cursor.chars ("invalid group reference " ++ Text.ofNat group) position)
    | none => return ⟨body, s.flags, s.groups⟩

/-- The pattern with the given text. -/
def read (pattern : Text) : Except Fault Tree :=
  let start : ReadState := ⟨⟨pattern.toArray, 0, none⟩, Flags.none, #[none], [], none, []⟩
  (readTree.run start).map (·.1)

end Rulebook.Pattern
