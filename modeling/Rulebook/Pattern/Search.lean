import Rulebook.Pattern.Program
import Rulebook.Pattern.Reader

/-!
# Searching for patterns

The search runs a program on a subject by backtracking. What is still to be matched is a stack of goals, what
can still be tried a stack of choices; a part that keeps its first match puts back the choices that stood
before it.
-/

namespace Rulebook.Pattern

/-- What the groups have matched, by first place and place behind. -/
abbrev Captures := Array (Option (Nat × Nat))

mutual

/-- Something still to be matched. -/
inductive Goal where
  | body (steps : List Step)
  /-- The end of a group that began at the place. -/
  | close (group start : Nat)
  /-- The next turn of a repetition after `count` turns; `last` is where the last free turn began. -/
  | turn (greed : Greed) (least : Nat) (most : Option Nat) (body : List Step) (count : Nat) (last : Option Nat)
  /-- The choices since are given up. -/
  | commit (saved : List Choice)
  /-- The end of a look, which goes back to the place and gives up the choices since. -/
  | lookDone (start : Nat) (saved : List Choice)
  /-- The end of a look that should have failed. -/
  | lookMet (saved : List Choice)

/-- Something that can still be tried. -/
inductive Choice where
  | retry (goals : List Goal) (place : Nat) (captures : Captures)
  /-- A repetition of one code point, one shorter down to the least place. -/
  | shorter (goals : List Goal) (least place : Nat) (captures : Captures)
  /-- A repetition of one code point, one longer while the count allows. -/
  | longer (goals : List Goal) (test : CharTest) (place : Nat) (left : Option Nat) (captures : Captures)

end

/-- A state of the search. -/
structure Config where
  goals : List Goal
  place : Nat
  captures : Captures
  choices : List Choice

/-- The code point at a place satisfies a test. -/
def testAt (s : Array CodePoint) (test : CharTest) (i : Nat) : Bool :=
  match s[i]? with
  | some c => test.holds c
  | none => false

/-- The place behind the code points from `i` on that satisfy a test, at most `count` of them. -/
def runOf (s : Array CodePoint) (test : CharTest) : Nat → Nat → Nat
  | 0, i => i
  | count + 1, i => if testAt s test i then runOf s test count (i + 1) else i

/-- Resumes the latest choice. -/
def resume (s : Array CodePoint) : List Choice → Option Config
  | [] => none
  | .retry goals place captures :: rest => some ⟨goals, place, captures, rest⟩
  | .shorter goals least place captures :: rest =>
    if place ≤ least + 1 then some ⟨goals, least, captures, rest⟩
    else some ⟨goals, place - 1, captures, .shorter goals least (place - 1) captures :: rest⟩
  | .longer goals test place left captures :: rest =>
    if left == some 0 then resume s rest
    else if testAt s test place then
      some ⟨goals, place + 1, captures, .longer goals test (place + 1) (left.map (· - 1)) captures :: rest⟩
    else resume s rest

/-- A word character stands at a place. -/
def wordAt (s : Array CodePoint) (ascii : Bool) (i : Nat) : Bool :=
  match s[i]? with
  | some c => if ascii then Text.isAsciiWord c else Text.isWord c
  | none => false

/-- A condition on a place holds. An empty subject has no boundary and no place without one. -/
def PlaceTest.holds (s : Array CodePoint) (i : Nat) : PlaceTest → Bool
  | textStart => i == 0
  | textEnd => i == s.size
  | closing => i == s.size || (i + 1 == s.size && s[i]? == some 10)
  | lineStart => i == 0 || s[i - 1]? == some 10
  | lineEnd => i == s.size || s[i]? == some 10
  | boundary ascii negated =>
    if s.size = 0 then false
    else
      let before := i != 0 && wordAt s ascii (i - 1)
      (before != wordAt s ascii i) != negated

/-- The captured text stands again at a place; `count` code points are left to compare. -/
def sameAt (s : Array CodePoint) (folding : Folding) : Nat → Nat → Nat → Bool
  | 0, _, _ => true
  | count + 1, i, j =>
    match s[i]?, s[j]? with
    | some c, some d => if folding.fold c == folding.fold d then sameAt s folding count (i + 1) (j + 1) else false
    | _, _ => false

/-- What a group has matched. -/
def captured (captures : Captures) (group : Nat) : Option (Nat × Nat) := (captures[group]?).join

/-- One more turn of a repetition is allowed. -/
def mayTurn (most : Option Nat) (count : Nat) : Bool :=
  match most with
  | some n => count < n
  | none => true

/-- Repetition of one code point. -/
def repeatChar (s : Array CodePoint) (greed : Greed) (least : Nat) (most : Option Nat) (test : CharTest)
    (goals : List Goal) (place : Nat) (captures : Captures) (choices : List Choice) : Option Config :=
  let room := s.size - place
  match greed with
  | .lazy =>
    let reached := runOf s test (min least (room + 1)) place
    if reached - place < least then resume s choices
    else some ⟨goals, reached, captures, .longer goals test reached (most.map (· - least)) captures :: choices⟩
  | _ =>
    let limit := match most with | some n => min n room | none => room
    let reached := runOf s test limit place
    if reached - place < least then resume s choices
    else if reached = place + least then some ⟨goals, reached, captures, choices⟩
    else if greed == .possessive then some ⟨goals, reached, captures, choices⟩
    else some ⟨goals, reached, captures, .shorter goals (place + least) reached captures :: choices⟩

/-- One step of a program. -/
def Step.run (s : Array CodePoint) (st : Step) (goals : List Goal) (place : Nat) (captures : Captures)
    (choices : List Choice) : Option Config :=
  match st with
  | .char test => if testAt s test place then some ⟨goals, place + 1, captures, choices⟩ else resume s choices
  | .place test => if test.holds s place then some ⟨goals, place, captures, choices⟩ else resume s choices
  | .repetition greed least most [.char test] => repeatChar s greed least most test goals place captures choices
  | .repetition greed least most body =>
    some ⟨.turn greed least most body 0 none :: goals, place, captures, choices⟩
  | .capture group body => some ⟨.body body :: .close group place :: goals, place, captures, choices⟩
  | .atomic body => some ⟨.body body :: .commit choices :: goals, place, captures, choices⟩
  | .lookAhead false body => some ⟨.body body :: .lookDone place choices :: goals, place, captures, choices⟩
  | .lookAhead true body =>
    some ⟨[.body body, .lookMet choices], place, captures, .retry goals place captures :: choices⟩
  | .lookBehind width false body =>
    if place < width then resume s choices
    else some ⟨.body body :: .lookDone place choices :: goals, place - width, captures, choices⟩
  | .lookBehind width true body =>
    if place < width then some ⟨goals, place, captures, choices⟩
    else some ⟨[.body body, .lookMet choices], place - width, captures, .retry goals place captures :: choices⟩
  | .choice alternatives =>
    match alternatives with
    | [] => resume s choices
    | first :: rest =>
      some ⟨.body first :: goals, place, captures,
        rest.map (fun body => .retry (.body body :: goals) place captures) ++ choices⟩
  | .backReference folding group =>
    match captured captures group with
    | none => resume s choices
    | some (a, b) =>
      if place + (b - a) ≤ s.size ∧ sameAt s folding (b - a) a place then
        some ⟨goals, place + (b - a), captures, choices⟩
      else resume s choices
  | .conditional group yes no =>
    some ⟨.body (if (captured captures group).isSome then yes else no) :: goals, place, captures, choices⟩

/-- The next turn of a repetition. A free turn is not tried twice from the same place. -/
def turnOf (s : Array CodePoint) (greed : Greed) (least : Nat) (most : Option Nat) (body : List Step)
    (count : Nat) (last : Option Nat) (goals : List Goal) (place : Nat) (captures : Captures)
    (choices : List Choice) : Option Config :=
  let free := mayTurn most count && last != some place
  let again (last : Option Nat) : Goal := .turn greed least most body (count + 1) last
  match greed with
  | .greedy =>
    if count < least then some ⟨.body body :: again last :: goals, place, captures, choices⟩
    else if free then
      some ⟨.body body :: again (some place) :: goals, place, captures, .retry goals place captures :: choices⟩
    else some ⟨goals, place, captures, choices⟩
  | .lazy =>
    if count < least then some ⟨.body body :: again last :: goals, place, captures, choices⟩
    else if free then
      some ⟨goals, place, captures, .retry (.body body :: again (some place) :: goals) place captures :: choices⟩
    else some ⟨goals, place, captures, choices⟩
  | .possessive =>
    if count < least then some ⟨.body body :: .commit choices :: again last :: goals, place, captures, choices⟩
    else if free then
      some ⟨.body body :: .commit choices :: again (some place) :: goals, place, captures,
        .retry goals place captures :: choices⟩
    else resume s (.retry goals place captures :: choices)

/-- One move of the search; none when every choice has failed. -/
def Config.next (s : Array CodePoint) (c : Config) : Option Config :=
  match c.goals with
  | [] => some c
  | .body [] :: goals => some ⟨goals, c.place, c.captures, c.choices⟩
  | .body [st] :: goals => st.run s goals c.place c.captures c.choices
  | .body (st :: more) :: goals => st.run s (.body more :: goals) c.place c.captures c.choices
  | .close group start :: goals =>
    some ⟨goals, c.place, c.captures.setIfInBounds group (some (start, c.place)), c.choices⟩
  | .turn greed least most body count last :: goals =>
    turnOf s greed least most body count last goals c.place c.captures c.choices
  | .commit saved :: goals => some ⟨goals, c.place, c.captures, saved⟩
  | .lookDone start saved :: goals => some ⟨goals, start, c.captures, saved⟩
  | .lookMet saved :: _ => resume s saved

/-- Moves until the goals are met or every choice has failed. -/
def runConfig (s : Array CodePoint) : Nat → Config → Bool
  | 0, _ => false
  | fuel + 1, c =>
    match c.goals with
    | [] => true
    | _ =>
      match c.next s with
      | some d => runConfig s fuel d
      | none => false

/-- More moves than any search makes in reasonable time. -/
def moveLimit : Nat := 1000000000000000000

/-- The program matches from a place. -/
def Program.matchesAt (p : Program) (s : Array CodePoint) (start : Nat) : Bool :=
  runConfig s moveLimit ⟨[.body p.steps], start, Array.replicate p.groups none, []⟩

/-- The program matches from some place among the `count` ones from `start` on. -/
def Program.matchesFrom (p : Program) (s : Array CodePoint) : Nat → Nat → Bool
  | 0, _ => false
  | count + 1, start => if p.matchesAt s start then true else p.matchesFrom s count (start + 1)

/-- The program matches somewhere in the subject. -/
def Program.search (p : Program) (subject : Text) : Bool :=
  let s := subject.toArray
  p.matchesFrom s (s.size + 1) 0

/-- The program of a pattern text. -/
def compile (pattern : Text) : Except Fault Program := do
  let tree ← read pattern
  return ⟨← bodySteps tree.groups tree.flags tree.body, tree.groups.size⟩

end Rulebook.Pattern
