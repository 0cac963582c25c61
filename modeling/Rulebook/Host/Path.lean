import Rulebook.Text.Part

/-!
# Paths

A path leads from the current directory, from the directory that holds all files, or from above it. It is a
list of names without empty ones and without the name of the place itself.
-/

namespace Rulebook

/-- Where a path starts. -/
inductive Anchor where
  /-- The current directory. -/
  | here
  /-- The directory that holds all files. -/
  | root
  /-- The top of everything, outside of that directory. -/
  | top
  deriving Repr, DecidableEq, Inhabited

/-- A path: where it starts, and the names on the way. -/
structure Path where
  anchor : Anchor
  names : List Text
  deriving Repr, DecidableEq, Inhabited

namespace Path

/-- The sign between names. -/
def separator : CodePoint := 0x2f

/-- The name that the directory of all files goes by. -/
def rootName : Text := "<ROOT>"

/-- The name of the directory above. -/
def above : Text := ".."

/-- The names in a text. -/
def namesOf (t : Text) : List Text :=
  (Text.splitAt [separator] (t.length + 1) (t.length + 1) [] t).filter fun name =>
    !name.isEmpty && !Text.same name "."

/-- The path that a text spells. -/
def ofText (t : Text) : Path :=
  match Text.after? rootName t with
  | some [] => ⟨.root, []⟩
  | some (c :: rest) => if c = separator then ⟨.root, namesOf rest⟩ else ⟨.here, namesOf t⟩
  | none =>
    match t with
    | c :: rest => if c = separator then ⟨.top, namesOf rest⟩ else ⟨.here, namesOf t⟩
    | [] => ⟨.here, []⟩

/-- The spelling of a path. -/
def text (p : Path) : Text :=
  let names := Text.join [separator] p.names
  match p.anchor with
  | .here => if p.names.isEmpty then "." else names
  | .root => if p.names.isEmpty then rootName else rootName ++ separator :: names
  | .top => separator :: names

/-- A path followed by another; one that does not start here stands for itself. -/
def join (p q : Path) : Path :=
  match q.anchor with
  | .here => ⟨p.anchor, p.names ++ q.names⟩
  | _ => q

/-- A path followed by the path that a text spells. -/
def child (p : Path) (t : Text) : Path := p.join (ofText t)

/-- The names that are left when each step upwards takes back the name before it. -/
def settled (names : List Text) : List Text :=
  (names.foldl (fun done name => if Text.same name above then done.drop 1 else name :: done) []).reverse

end Path

end Rulebook
