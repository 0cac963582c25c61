import Rulebook.Text.Case
import Rulebook.Text.Letter

/-!
# Parts of texts

Finding, replacing, splitting and padding.
-/

namespace Rulebook.Text

/-- Replaces at most `count` occurrences of a part that is not empty; the result so far is reversed. -/
def replaceLoop (old new : Text) : Nat → Nat → Text → Text → Text
  | 0, _, done, t => done.reverse ++ t
  | _ + 1, 0, done, t => done.reverse ++ t
  | _ + 1, _ + 1, done, [] => done.reverse
  | fuel + 1, count + 1, done, c :: rest =>
    match after? old (c :: rest) with
    | some tail => replaceLoop old new fuel count (new.reverse ++ done) tail
    | none => replaceLoop old new fuel (count + 1) (c :: done) rest

/-- Puts a text before each of at most `count` code points, and behind the last if some are left. -/
def interleave (new : Text) : Nat → Text → Text → Text
  | 0, done, t => done.reverse ++ t
  | _ + 1, done, [] => (new.reverse ++ done).reverse
  | count + 1, done, c :: rest => interleave new count (c :: (new.reverse ++ done)) rest

/-- Replaces at most `count` occurrences of a part, all without a count. -/
def replace (old new : Text) (count : Option Nat) (t : Text) : Text :=
  let n := count.getD (t.length + 1)
  if old.isEmpty then interleave new n [] t else replaceLoop old new (t.length + 1) n [] t

/-- The number of occurrences of a part that do not overlap. -/
def countParts (part : Text) : Nat → Text → Nat
  | 0, _ => 0
  | fuel + 1, t =>
    if part.isEmpty then t.length + 1
    else
      match t with
      | [] => 0
      | _ :: rest =>
        match after? part t with
        | some tail => countParts part fuel tail + 1
        | none => countParts part fuel rest

/-- The pieces between the occurrences of a separator, at most `count` of them cut off. -/
def splitAt (sep : Text) : Nat → Nat → Text → Text → List Text
  | 0, _, piece, t => [piece.reverse ++ t]
  | _ + 1, 0, piece, t => [piece.reverse ++ t]
  | _ + 1, _ + 1, piece, [] => [piece.reverse]
  | fuel + 1, count + 1, piece, c :: rest =>
    match after? sep (c :: rest) with
    | some tail => piece.reverse :: splitAt sep fuel count [] tail
    | none => splitAt sep fuel (count + 1) (c :: piece) rest

/-- The words between white space, at most `count` of them cut off. -/
def splitWords : Nat → Nat → Text → List Text
  | 0, _, _ => []
  | fuel + 1, count, t =>
    match t.dropWhile isSpace with
    | [] => []
    | rest =>
      match count with
      | 0 => [stripRightBy isSpace rest]
      | count + 1 =>
        rest.takeWhile (fun c => !isSpace c) :: splitWords fuel count (rest.dropWhile fun c => !isSpace c)

/-- The last place where a part occurs. -/
def findLast? (part t : Text) : Option Nat :=
  (find? part.reverse t.reverse).map fun i => t.length - part.length - i

/-- A code point that starts a word in titles: white space, a hyphen or an opening bracket before it. -/
def isTitleBreak (c : CodePoint) : Bool :=
  isSpace c || c == 0x2d || c == 0x28 || c == 0x7b || c == 0x5b || c == 0x3c

/-- The pieces of a text at the places where the class of its code points changes. -/
def runsBy (p : CodePoint → Bool) : Text → List Text → Text → List Text
  | run, done, [] => (if run.isEmpty then done else run.reverse :: done).reverse
  | [], done, c :: rest => runsBy p [c] done rest
  | d :: run, done, c :: rest =>
    if p d == p c then runsBy p (c :: d :: run) done rest else runsBy p [c] ((d :: run).reverse :: done) rest

/-- Each word with a capital at its beginning and small letters behind it. -/
def titleWords (t : Text) : Text :=
  (runsBy isTitleBreak [] [] t).flatMap fun run => upper (run.take 1) ++ lower (run.drop 1)

/-- Letters after others than letters in title case, the rest in lower case. -/
def titleCased (t : Text) : Text :=
  (t.foldl
    (fun (state : Bool × Text) c =>
      let cased := lowerOf c != c || upperOf c != c
      let image := if !cased then [c] else if state.1 then [lowerOf c] else titleImage c
      (cased, image.reverse ++ state.2))
    (false, [])).2.reverse

/-- Letters with their case exchanged. -/
def swapCase (t : Text) : Text :=
  t.flatMap fun c => if lowerOf c != c then [lowerOf c] else upperImage c

/-- The text with padding on the right up to a width. -/
def padRight (fill : CodePoint) (width : Nat) (t : Text) : Text := t ++ List.replicate (width - t.length) fill

/-- The text with padding on the left up to a width. -/
def padLeft (fill : CodePoint) (width : Nat) (t : Text) : Text := List.replicate (width - t.length) fill ++ t

/-- The text in the middle of a width. -/
def center (fill : CodePoint) (width : Nat) (t : Text) : Text :=
  let pad := width - t.length
  let left := pad / 2 + (if pad % 2 = 1 ∧ width % 2 = 1 then 1 else 0)
  List.replicate left fill ++ t ++ List.replicate (pad - left) fill

/-- Some code point has case, and all that have are in lower case. -/
def isLowerCase (t : Text) : Bool :=
  t.any (fun c => upperOf c != c) && !t.any (fun c => lowerOf c != c)

/-- Some code point has case, and all that have are in upper case. -/
def isUpperCase (t : Text) : Bool :=
  t.any (fun c => lowerOf c != c) && !t.any (fun c => upperOf c != c)

end Rulebook.Text
