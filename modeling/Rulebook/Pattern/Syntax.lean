import Rulebook.Fault

/-!
# Syntax of search patterns

A pattern is a sequence of nodes. Flags that are set inside a pattern stand on its groups.
-/

namespace Rulebook.Pattern

/-- Flags of a pattern or group. -/
structure Flags where
  ignoreCase : Bool
  multiline : Bool
  dotAll : Bool
  verbose : Bool
  ascii : Bool
  unicode : Bool
  /-- The obsolete flag that forbids repetition. -/
  plain : Bool
  deriving Repr, DecidableEq, Inhabited

/-- Classes of code points with a letter of their own. -/
inductive Category where
  | digit
  | space
  | word
  deriving Repr, DecidableEq, Inhabited

/-- A member of a set of code points. -/
inductive SetItem where
  | one (c : CodePoint)
  | range (first last : CodePoint)
  | category (category : Category) (negated : Bool)
  deriving Repr, DecidableEq, Inhabited

/-- Conditions on a place in the subject. -/
inductive Anchor where
  /-- The beginning, or of a line in multi-line patterns. -/
  | lineStart
  /-- The end or the line feed that closes the subject, or the end of a line in multi-line patterns. -/
  | lineEnd
  | textStart
  | textEnd
  | wordBoundary
  | noWordBoundary
  deriving Repr, DecidableEq, Inhabited

/-- How a repetition chooses its count. -/
inductive Greed where
  | greedy
  | lazy
  | possessive
  deriving Repr, DecidableEq, Inhabited

/-- A part of a pattern. -/
inductive Node where
  | one (c : CodePoint)
  | notOne (c : CodePoint)
  | any
  | set (negated : Bool) (items : List SetItem)
  | anchor (a : Anchor)
  /-- Repetition; without a greatest count it has no end. -/
  | repetition (greed : Greed) (least : Nat) (most : Option Nat) (body : List Node)
  /-- A group that is captured if it has an index, with flags turned on and off inside it. -/
  | group (index : Option Nat) (on off : Flags) (body : List Node)
  /-- A group that keeps its first match. -/
  | atomic (body : List Node)
  /-- A look ahead or behind. -/
  | look (ahead negated : Bool) (body : List Node)
  | choice (alternatives : List (List Node))
  | backReference (group : Nat)
  /-- A choice by whether a group has matched. -/
  | conditional (group : Nat) (yes : List Node) (no : Option (List Node))
  deriving Inhabited

namespace Flags

/-- No flag. -/
def none : Flags := ⟨false, false, false, false, false, false, false⟩

/-- The flags with one named by its letter; there is none for other letters. -/
def add? (flags : Flags) (letter : CodePoint) : Option Flags :=
  if letter = Text.cp 'i' then some { flags with ignoreCase := true }
  else if letter = Text.cp 'm' then some { flags with multiline := true }
  else if letter = Text.cp 's' then some { flags with dotAll := true }
  else if letter = Text.cp 'x' then some { flags with verbose := true }
  else if letter = Text.cp 'a' then some { flags with ascii := true }
  else if letter = Text.cp 'u' then some { flags with unicode := true }
  else if letter = Text.cp 't' then some { flags with plain := true }
  else Option.none

/-- All flags of both. -/
def union (f g : Flags) : Flags :=
  ⟨f.ignoreCase || g.ignoreCase, f.multiline || g.multiline, f.dotAll || g.dotAll, f.verbose || g.verbose,
    f.ascii || g.ascii, f.unicode || g.unicode, f.plain || g.plain⟩

/-- Some flag is in both. -/
def meets (f g : Flags) : Bool :=
  (f.ignoreCase && g.ignoreCase) || (f.multiline && g.multiline) || (f.dotAll && g.dotAll) ||
    (f.verbose && g.verbose) || (f.ascii && g.ascii) || (f.unicode && g.unicode) || (f.plain && g.plain)

/-- The flags inside a group. The two flags on the classes of characters replace each other. -/
def inside (flags on off : Flags) : Flags :=
  let base := if on.ascii || on.unicode then { flags with ascii := false, unicode := false } else flags
  let all := base.union on
  ⟨all.ignoreCase && !off.ignoreCase, all.multiline && !off.multiline, all.dotAll && !off.dotAll,
    all.verbose && !off.verbose, all.ascii && !off.ascii, all.unicode && !off.unicode, all.plain && !off.plain⟩

end Flags

end Rulebook.Pattern
