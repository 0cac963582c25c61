import Rulebook.Pattern.CharTest
import Rulebook.Pattern.Width

/-!
# Programs of search patterns

A pattern whose flags have been resolved into its parts. A look behind has a fixed width here, so that it
knows where to start.
-/

namespace Rulebook.Pattern

/-- A condition on a place. -/
inductive PlaceTest where
  | textStart
  | textEnd
  /-- The end, or before a line feed that closes the subject. -/
  | closing
  | lineStart
  | lineEnd
  /-- Between a word character and another, or not. -/
  | boundary (ascii negated : Bool)
  deriving Repr, DecidableEq, Inhabited

/-- A step of a program. -/
inductive Step where
  | char (test : CharTest)
  | place (test : PlaceTest)
  | repetition (greed : Greed) (least : Nat) (most : Option Nat) (body : List Step)
  | capture (group : Nat) (body : List Step)
  | atomic (body : List Step)
  | lookAhead (negated : Bool) (body : List Step)
  | lookBehind (width : Nat) (negated : Bool) (body : List Step)
  | choice (alternatives : List (List Step))
  | backReference (folding : Folding) (group : Nat)
  | conditional (group : Nat) (yes no : List Step)
  deriving Inhabited

/-- The condition of an anchor under flags. -/
def placeTest (flags : Flags) : Anchor → PlaceTest
  | .lineStart => if flags.multiline then .lineStart else .textStart
  | .lineEnd => if flags.multiline then .lineEnd else .closing
  | .textStart => .textStart
  | .textEnd => .textEnd
  | .wordBoundary => .boundary flags.ascii false
  | .noWordBoundary => .boundary flags.ascii true

/-- The name of a repetition in reports. -/
def Greed.label : Greed → String
  | .greedy => "MAX_REPEAT"
  | .lazy => "MIN_REPEAT"
  | .possessive => "POSSESSIVE_REPEAT"

/-- The greatest width of a look behind. -/
def behindLimit : Nat := 4294967295

mutual

/-- The steps of a part under flags. -/
def Node.steps (groups : Array (Option Width)) (flags : Flags) : Node → Except Fault (List Step)
  | .one c => .ok [.char (oneTest flags c false)]
  | .notOne c => .ok [.char (oneTest flags c true)]
  | .any => .ok [.char (if flags.dotAll then .anything else .anythingButLineFeed)]
  | .set negated items => .ok [.char (setTest flags negated items)]
  | .anchor a => .ok [.place (placeTest flags a)]
  | .repetition greed least most body =>
    if flags.plain then
      .error ⟨.patternSyntax, "internal: unsupported template operator " ++ (greed.label : Text)⟩
    else do return [.repetition greed least most (← bodySteps groups flags body)]
  | .group index on off body => do
    let steps ← bodySteps groups (flags.inside on off) body
    return match index with
      | some g => [.capture g steps]
      | none => steps
  | .atomic body => do return [.atomic (← bodySteps groups flags body)]
  | .look true negated body => do return [.lookAhead negated (← bodySteps groups flags body)]
  | .look false negated body =>
    let w := (bodyWidth groups body).capped
    if behindLimit < w.least then .error ⟨.patternSyntax, "looks too much behind"⟩
    else if w.least ≠ w.most then
      .error ⟨.patternSyntax, "look-behind requires fixed-width pattern"⟩
    else do return [.lookBehind w.least negated (← bodySteps groups flags body)]
  | .choice alternatives => do return [.choice (← choiceSteps groups flags alternatives)]
  | .backReference g => .ok [.backReference (Folding.ofFlags flags) g]
  | .conditional g yes no => do
    let yes ← bodySteps groups flags yes
    let no ← match no with
      | some no => bodySteps groups flags no
      | none => .ok []
    return [.conditional g yes no]

/-- The steps of a sequence of parts. -/
def bodySteps (groups : Array (Option Width)) (flags : Flags) : List Node → Except Fault (List Step)
  | [] => .ok []
  | n :: rest => do
    let steps ← n.steps groups flags
    return steps ++ (← bodySteps groups flags rest)

/-- The steps of each alternative. -/
def choiceSteps (groups : Array (Option Width)) (flags : Flags) :
    List (List Node) → Except Fault (List (List Step))
  | [] => .ok []
  | body :: rest => do
    let steps ← bodySteps groups flags body
    return steps :: (← choiceSteps groups flags rest)

end

/-- A program: its steps and the number of its groups. -/
structure Program where
  steps : List Step
  groups : Nat

end Rulebook.Pattern
