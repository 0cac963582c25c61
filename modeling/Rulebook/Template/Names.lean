import Rulebook.Template.Mention

/-!
# Names from outside

The names that a template takes from the variables it is rendered with. Each body with names of its own is a
frame; within one, a name that is looked up before anything binds it, here or around, comes from outside.
-/

namespace Rulebook.Template

/-- The names that every template knows. -/
def globalNames : List Text := ["range", "dict", "lipsum", "cycler", "joiner", "namespace"]

/-- What is known about the names of a frame. -/
structure Frame where
  /-- The names of the frames around. -/
  outer : List Text
  /-- The names of this frame, with whether they come from outside. -/
  known : List (Text × Bool)
  /-- The names that the frame assigns to. -/
  stored : List Text
  deriving Repr, Inhabited

namespace Frame

/-- A frame inside others. -/
def inside (outer : List Text) : Frame := ⟨outer, [], []⟩

/-- The frame itself knows the name. -/
def hasOwn (f : Frame) (n : Text) : Bool := f.known.any fun k => Text.same k.1 n

/-- The names that frames inside know. -/
def visible (f : Frame) : List Text := f.known.map (·.1) ++ f.outer

/-- Sets whether a name of the frame comes from outside. -/
def put (f : Frame) (n : Text) (fromOutside : Bool) : Frame :=
  if f.hasOwn n then
    { f with known := f.known.map fun k => if Text.same k.1 n then (k.1, fromOutside) else k }
  else { f with known := f.known ++ [(n, fromOutside)] }

/-- A look-up of a name. -/
def load (f : Frame) (n : Text) : Frame :=
  if f.hasOwn n || f.outer.any (Text.same n) then f else f.put n true

/-- An assignment to a name. -/
def store (f : Frame) (n : Text) : Frame :=
  let f := { f with stored := n :: f.stored }
  if f.hasOwn n then f else f.put n false

/-- A name that the frame gets a value for. -/
def param (f : Frame) (n : Text) : Frame := { f.put n false with stored := n :: f.stored }

/-- The effect of a mention. -/
def mention (f : Frame) : Mention → Frame
  | .load n => f.load n
  | .store n => f.store n
  | .param n => f.param n

/-- The effect of mentions in order. -/
def mentions (f : Frame) (ms : List Mention) : Frame := ms.foldl mention f

/-- The frame behind branches that start from it: a name that only some of them assign to comes from outside,
unless a frame around knows it. -/
def merge (f : Frame) (branches : List Frame) : Frame :=
  let fresh := Text.distinct ((branches.flatMap (·.stored)).filter fun n => !f.stored.any (Text.same n))
  let joined := branches.foldl
    (fun (g : Frame) b =>
      { (b.known.foldl (fun (g : Frame) k => g.put k.1 k.2) g) with stored := b.stored ++ g.stored })
    f
  fresh.foldl
    (fun g n =>
      if branches.all fun b => b.stored.any (Text.same n) then g
      else g.put n (!f.outer.any (Text.same n)))
    joined

/-- The names of the frame that come from outside. -/
def fromOutside (f : Frame) : List Text := (f.known.filter (·.2)).map (·.1)

end Frame

mutual

/-- The effect of a statement on the frame it stands in. -/
def Stmt.analyse (f : Frame) : Stmt → Frame
  | .output pieces => f.mentions (loads (pieces.flatMap fun p => match p with | .data _ => [] | .expr e => e.names))
  | .assign target value => (f.mentions (loads value.names)).mentions (targetMentions .store target)
  | .assignBlock target _ _ _ => f.mentions (targetMentions .store target)
  | .loop _ iterable _ _ _ _ _ => f.mentions (loads iterable.names)
  | .condition test body more otherwise =>
    let f := f.mentions (loads test.names)
    f.merge [analyseAll f body, analyseBranches f more, analyseAll f otherwise]
  | .withNames _ values _ _ => f.mentions (loads (namesAll values))
  | .autoescape .. => f
  | .block .. => f
  | .inherit e => f.mentions (loads e.names)
  | .insert e _ => f.mentions (loads e.names)
  | .importAs e target => (f.mentions (loads e.names)).store target
  | .importNames e names => names.foldl (fun f n => f.store n.shownAs) (f.mentions (loads e.names))
  | .define name _ _ _ _ => f.store name
  | .callBlock call _ _ _ _ => f.mentions (loads call.names)
  | .filterBlock filter _ _ => f.mentions (loads filter.names)

/-- The effect of statements. -/
def analyseAll (f : Frame) : List Stmt → Frame
  | [] => f
  | s :: ss => analyseAll (s.analyse f) ss

/-- The effect of branches that are tried one after the other. -/
def analyseBranches (f : Frame) : List (Expr × List Stmt) → Frame
  | [] => f
  | (test, body) :: more =>
    let g := f.mentions (loads test.names)
    analyseBranches (g.merge [analyseAll g body, g, g]) more

end

/-- The special names that the body of something with parameters uses. -/
def specialNames (body : List Stmt) : List Text :=
  [("caller" : Text), "kwargs", "varargs"].filter fun n => isFree n (mentionsAll body)

/-- The frame of something with parameters and a body, which may use special names. -/
def callableFrame (outer : List Text) (params : List Text) (defaults : List Expr) (body : List Stmt) : Frame :=
  let f := (Frame.inside outer).mentions (params.map .param)
  let f := (specialNames body).foldl (fun f n => if f.hasOwn n then f else f.param n) f
  analyseAll (f.mentions (loads (namesAll defaults))) body

/-- The loop needs a value that tells about its progress. -/
def needsProgress (recursive : Bool) (body : List Stmt) : Bool :=
  recursive || isFree "loop" (mentionsAll body) || (blocksAll body).any (·.2.1)

/-- The frame of a loop's body, which may use the value that tells about the progress. -/
def loopFrame (outer : List Text) (target : Expr) (recursive : Bool) (body : List Stmt) : Frame :=
  let f := Frame.inside outer
  let f := if needsProgress recursive body then f.param "loop" else f
  analyseAll (f.mentions (targetMentions .param target)) body

/-- The frame of a loop's test. -/
def testFrame (outer : List Text) (target : Expr) (test : Option Expr) : Frame :=
  ((Frame.inside outer).mentions (targetMentions .param target)).mentions (loads (namesOption test))

mutual

/-- The statement with the names that the frames inside it take from outside; `outer` are the names around. -/
def Stmt.resolve (outer : List Text) : Stmt → Stmt
  | .assignBlock target filter _ body =>
    let f := analyseAll (Frame.inside outer) body
    .assignBlock target filter f.fromOutside (resolveAll f.visible body)
  | .loop target iterable test recursive _ body otherwise =>
    let f := loopFrame outer target recursive body
    let g := analyseAll (Frame.inside outer) otherwise
    .loop target iterable test recursive ⟨(testFrame outer target test).fromOutside, f.fromOutside, g.fromOutside⟩
      (resolveAll f.visible body) (resolveAll g.visible otherwise)
  | .condition test body more otherwise =>
    .condition test (resolveAll outer body) (resolveBranches outer more) (resolveAll outer otherwise)
  | .withNames targets values _ body =>
    let f := analyseAll ((Frame.inside outer).mentions (targetMentionsAll .param targets)) body
    .withNames targets values f.fromOutside (resolveAll f.visible body)
  | .autoescape value _ body =>
    let f := analyseAll ((Frame.inside outer).mentions (loads value.names)) body
    .autoescape value f.fromOutside (resolveAll f.visible body)
  | .define name params defaults _ body =>
    let f := callableFrame outer params defaults body
    .define name params defaults ⟨f.fromOutside, specialNames body⟩ (resolveAll f.visible body)
  | .callBlock call params defaults _ body =>
    let f := callableFrame outer params defaults body
    .callBlock call params defaults ⟨f.fromOutside, specialNames body⟩ (resolveAll f.visible body)
  | .filterBlock filter _ body =>
    let f := (analyseAll (Frame.inside outer) body).mentions (loads filter.names)
    .filterBlock filter f.fromOutside (resolveAll f.visible body)
  | s => s

/-- The statements with the names that the frames inside them take from outside. -/
def resolveAll (outer : List Text) : List Stmt → List Stmt
  | [] => []
  | s :: ss => s.resolve outer :: resolveAll outer ss

/-- The branches with the names that the frames inside them take from outside. -/
def resolveBranches (outer : List Text) : List (Expr × List Stmt) → List (Expr × List Stmt)
  | [] => []
  | (test, body) :: more => (test, resolveAll outer body) :: resolveBranches outer more

end

/-- A body that stands for itself: the special names that it uses, the names that it takes from outside, and its
statements. -/
structure Body where
  special : List Text
  outside : List Text
  statements : List Stmt
  deriving Inhabited

/-- The body of statements that know some special names if they use them. -/
def resolveBody (special : List Text) (statements : List Stmt) : Body :=
  let used := special.filter fun n => isFree n (mentionsAll statements)
  let f := analyseAll ((Frame.inside []).mentions (used.map .param)) statements
  ⟨used, f.fromOutside, resolveAll f.visible statements⟩

/-- The body of a template. -/
def templateBody (statements : List Stmt) : Body := resolveBody ["self"] statements

/-- The bodies of the blocks of a template, by their names. -/
def blockBodies (statements : List Stmt) : List (Text × Body) :=
  (blocksAll statements).map fun b => (b.1, resolveBody ["self", "super"] b.2.2)

mutual

/-- The names that the frames inside a statement take from outside. -/
def Stmt.outsideNames : Stmt → List Text
  | .assignBlock _ _ outside body => outside ++ outsideNamesAll body
  | .loop _ _ _ _ outside body otherwise =>
    outside.test ++ outside.body ++ outsideNamesAll body ++ outside.otherwise ++ outsideNamesAll otherwise
  | .condition _ body more otherwise =>
    outsideNamesAll body ++ outsideNamesBranches more ++ outsideNamesAll otherwise
  | .withNames _ _ outside body => outside ++ outsideNamesAll body
  | .autoescape _ outside body => outside ++ outsideNamesAll body
  | .define _ _ _ frame body => frame.outside ++ outsideNamesAll body
  | .callBlock _ _ _ frame body => frame.outside ++ outsideNamesAll body
  | .filterBlock _ outside body => outside ++ outsideNamesAll body
  | _ => []

/-- The names that the frames inside statements take from outside. -/
def outsideNamesAll : List Stmt → List Text
  | [] => []
  | s :: ss => s.outsideNames ++ outsideNamesAll ss

/-- The names that the frames inside branches take from outside. -/
def outsideNamesBranches : List (Expr × List Stmt) → List Text
  | [] => []
  | (_, body) :: more => outsideNamesAll body ++ outsideNamesBranches more

end

/-- The names that a body and the frames inside it take from outside. -/
def Body.names (b : Body) : List Text := b.outside ++ outsideNamesAll b.statements

/-- The names that a template takes from outside. -/
def namesFromOutside (statements : List Stmt) : List Text :=
  (templateBody statements).names ++ (blockBodies statements).flatMap (·.2.names)

/-- The names that a template takes from outside, in order, without those that every template knows. -/
def undeclaredNames (statements : List Stmt) : List Text :=
  Text.sorted (Text.distinct ((namesFromOutside statements).filter fun n => !globalNames.any (Text.same n)))

end Rulebook.Template
