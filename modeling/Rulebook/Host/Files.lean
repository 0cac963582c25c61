import Rulebook.Host.Path
import Rulebook.Text.Utf8
import Rulebook.Value.Printer

/-!
# Files

A tree of directories and files by the names on the way from the directory that holds them all. A file holds a
text, or bytes that may encode none.
-/

namespace Rulebook

/-- What a file holds. -/
inductive Content where
  | text (t : Text)
  | bytes (data : List Nat)
  deriving Repr, DecidableEq, Inhabited

/-- The text of a file. -/
def Content.read : Content → Except Fault Text
  | text t => .ok t
  | bytes data => Text.Utf8.decode data

/-- What stands at the end of a path. -/
inductive Node where
  | directory
  | file (content : Content)
  deriving Repr, DecidableEq, Inhabited

/-- A place that exists: inside the tree, or somewhere above it. -/
inductive Place where
  | inside (names : List Text)
  | outside
  deriving Repr, DecidableEq, Inhabited

/-- The nodes of a tree by their names from the top. -/
structure Files where
  nodes : List (List Text × Node)
  deriving Repr, DecidableEq, Inhabited

namespace Files

/-- A tree with nothing in it. -/
def empty : Files := ⟨[]⟩

/-- What stands at a place of the tree; its top is always there. -/
def node? (files : Files) (names : List Text) : Option Node :=
  if names.isEmpty then some .directory
  else (files.nodes.find? fun n => n.1 == names).map (·.2)

/-- A node at a place, in the stead of what was there. -/
def put (files : Files) (names : List Text) (node : Node) : Files :=
  ⟨(names, node) :: files.nodes.filter fun n => !(n.1 == names)⟩

/-- The ways to a place, from its first name on. -/
def waysTo (names : List Text) : List (List Text) := (List.range names.length).map fun i => names.take (i + 1)

/-- The directories on the way to a place, made where nothing is; a file on the way is in it. -/
def makeDirectory (files : Files) (names : List Text) : Except Fault Files :=
  (waysTo names).foldl
    (fun done way => do
      let files ← done
      match files.node? way with
      | some .directory => return files
      | none => return files.put way .directory
      | some (.file _) =>
        throw ⟨.fileInstead, "[Errno 20] Not a directory: " ++ Text.display (Path.text ⟨.root, names⟩)⟩)
    (.ok files)

/-- A file at a place, with the directories on the way. -/
def write (files : Files) (names : List Text) (content : Content) : Except Fault Files := do
  let files ← files.makeDirectory names.dropLast
  match files.node? names with
  | some .directory => throw ⟨.directoryInstead, "[Errno 21] Is a directory: " ++ Text.display (Path.text ⟨.root, names⟩)⟩
  | _ => return files.put names (.file content)

/-- The tree without a place and what is below it. -/
def remove (files : Files) (names : List Text) : Except Fault Files :=
  match files.node? names with
  | none => .error ⟨.missingFile, "[Errno 2] No such file or directory: " ++ Text.display (Path.text ⟨.root, names⟩)⟩
  | some _ => .ok ⟨files.nodes.filter fun n => !(names.isPrefixOf n.1)⟩

/-- The place that names lead to from another place, if all on the way is there. -/
def follow (files : Files) : List Text → Place → Option Place
  | [], place => some place
  | name :: rest, .outside => if Text.same name Path.above then files.follow rest .outside else none
  | name :: rest, .inside names =>
    match files.node? names with
    | some .directory =>
      if Text.same name Path.above then
        files.follow rest (if names.isEmpty then .outside else .inside names.dropLast)
      else
        match files.node? (names ++ [name]) with
        | some _ => files.follow rest (.inside (names ++ [name]))
        | none => none
    | _ => none

end Files

end Rulebook
