import Rulebook.Pattern.Syntax
import Rulebook.Text.CaseVariants
import Rulebook.Text.Digit
import Rulebook.Text.Word

/-!
# Tests on single code points

What a part that matches one code point asks of it, with the flags already taken into account. Without
regard to case, a code point is compared through its lower-case image and that image's variants.
-/

namespace Rulebook.Pattern

/-- How case is disregarded. -/
inductive Folding where
  | exact
  | ascii
  | full
  deriving Repr, DecidableEq, Inhabited

namespace Folding

/-- The folding that flags ask for. -/
def ofFlags (flags : Flags) : Folding :=
  if flags.ignoreCase then (if flags.ascii then ascii else full) else exact

/-- The image through which code points are compared. -/
def fold : Folding → CodePoint → CodePoint
  | exact, c => c
  | ascii, c => if 0x41 ≤ c ∧ c ≤ 0x5a then c + 32 else c
  | full, c => Text.lowerOf c

/-- The code point has another case. -/
def isCased : Folding → CodePoint → Bool
  | exact, _ => false
  | ascii, c => Text.isAsciiLetter c
  | full, c => Text.lowerOf c != c || Text.upperOf c != c

/-- The other images that count as the same. -/
def variants : Folding → CodePoint → List CodePoint
  | full, c => Text.caseVariants c
  | _, _ => []

end Folding

/-- Membership in a class. -/
def Category.contains (category : Category) (ascii : Bool) (c : CodePoint) : Bool :=
  match category with
  | .digit => if ascii then Text.isAsciiDigit c else Text.isDigit c
  | .space => if ascii then c == 32 || (9 ≤ c && c ≤ 13) else Text.isSpace c
  | .word => if ascii then Text.isAsciiWord c else Text.isWord c

/-- The beginnings of a range with an image, scanned in the runs of the lower-case mapping. -/
def hasPreimage (first last image : CodePoint) : Bool :=
  Text.lowerRuns.any fun (a, b, step, distance) =>
    let c : Int := (image : Int) - distance
    decide ((a : Int) ≤ c ∧ c ≤ b ∧ (first : Int) ≤ c ∧ c ≤ last) && (c.toNat - a) % step == 0

/-- Some code point of a range has the image. -/
def rangeHasImage (folding : Folding) (first last image : CodePoint) : Bool :=
  match folding with
  | .exact => first ≤ image && image ≤ last
  | .ascii =>
    (first ≤ image && image ≤ last && Folding.ascii.fold image == image) ||
      (0x61 ≤ image && image ≤ 0x7a && first + 32 ≤ image && image ≤ last + 32)
  | .full =>
    (first ≤ image && image ≤ last && Text.lowerOf image == image) || hasPreimage first last image

/-- A member of a set as a test on the code point, or on its image when the set disregards case. -/
inductive SetTest where
  | one (c : CodePoint)
  | range (first last : CodePoint)
  /-- The images of a range and their variants. -/
  | images (folding : Folding) (first last : CodePoint)
  /-- A range, also met through the upper-case image. -/
  | eitherCase (first last : CodePoint)
  | category (category : Category) (negated ascii : Bool)
  deriving Repr, DecidableEq, Inhabited

/-- The test holds. -/
def SetTest.holds (c : CodePoint) : SetTest → Bool
  | one d => c == d
  | range a b => a ≤ c && c ≤ b
  | images folding a b =>
    rangeHasImage folding a b c || (folding.variants c).any fun d => rangeHasImage folding a b d
  | eitherCase a b =>
    let u := Text.upperOf c
    (a ≤ c && c ≤ b) || (a ≤ u && u ≤ b)
  | category k negated ascii => k.contains ascii c != negated

/-- What is asked of one code point. -/
inductive CharTest where
  | is (c : CodePoint)
  | isNot (c : CodePoint)
  /-- The image is one of these, or none of them. -/
  | imageAmong (folding : Folding) (images : List CodePoint) (negated : Bool)
  | anything
  | anythingButLineFeed
  /-- Some test of a set holds for the image, or none does. -/
  | set (folding : Folding) (tests : List SetTest) (negated : Bool)
  deriving Repr, DecidableEq, Inhabited

/-- The test holds. -/
def CharTest.holds (c : CodePoint) : CharTest → Bool
  | is d => c == d
  | isNot d => c != d
  | imageAmong folding images negated => images.contains (folding.fold c) != negated
  | anything => true
  | anythingButLineFeed => c != 10
  | set folding tests negated =>
    let image := folding.fold c
    (tests.any fun t => t.holds image) != negated

/-- Some code point from `first` on, at most `count` of them, has another case. -/
def someCased (folding : Folding) : Nat → CodePoint → Bool
  | 0, _ => false
  | count + 1, first => if folding.isCased first then true else someCased folding count (first + 1)

/-- The greatest code point of the basic plane. -/
def basicPlane : CodePoint := 0xffff

/-- The tests of a member of a set, and whether the member makes the set disregard case. -/
def SetItem.tests (folding : Folding) (ascii : Bool) (item : SetItem) : List SetTest × Bool :=
  match item with
  | .category k negated => ([.category k negated ascii], false)
  | .one c =>
    match folding with
    | .exact => ([.one c], false)
    | _ =>
      let image := folding.fold c
      if basicPlane < image then ([.one c], true)
      else ((image :: folding.variants image).map .one, folding.isCased c)
  | .range a b =>
    match folding with
    | .exact => ([.range a b], false)
    | _ =>
      if b ≤ basicPlane then ([.images folding a b], someCased folding (b + 1 - a) a)
      else ([.images folding a (min b basicPlane), .eitherCase a b], true)

/-- The test of a set. -/
def setTest (flags : Flags) (negated : Bool) (items : List SetItem) : CharTest :=
  let folding := Folding.ofFlags flags
  let parts := items.map (SetItem.tests folding flags.ascii)
  let folds := parts.any (·.2)
  .set (if folds then folding else .exact) (parts.flatMap (·.1)) negated

/-- The test for one code point. -/
def oneTest (flags : Flags) (c : CodePoint) (negated : Bool) : CharTest :=
  let folding := Folding.ofFlags flags
  if folding.isCased c then
    let image := folding.fold c
    .imageAmong folding (image :: folding.variants image) negated
  else if negated then .isNot c else .is c

end Rulebook.Pattern
