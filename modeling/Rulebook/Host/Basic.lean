import Rulebook.Config.Environment
import Rulebook.Host.Files

/-!
# The host

What a program finds around it: files, a current directory, and variables of its environment.
-/

namespace Rulebook

/-- Files, the current directory by its names from the top of the files, and variables. -/
structure Host where
  files : Files
  directory : List Text
  environment : Config.Environment
  deriving Repr, Inhabited

namespace Host

/-- No files and no variables. -/
def bare : Host := ⟨.empty, [], []⟩

/-- The value of a variable. -/
def valueOf (host : Host) (key : Text) : Option Text :=
  (host.environment.find? fun e => Text.same e.1 key).map (·.2)

/-- A variable with a value: in its place if it is there, else behind all others. -/
def setVariable (host : Host) (key value : Text) : Host :=
  let env := host.environment
  { host with environment :=
      if (host.valueOf key).isSome then env.map fun e => if Text.same e.1 key then (key, value) else e
      else env ++ [(key, value)] }

/-- The environment without a variable. -/
def dropVariable (host : Host) (key : Text) : Host :=
  { host with environment := host.environment.filter fun e => !Text.same e.1 key }

/-- The place that a path leads to, if it is there. -/
def locate (host : Host) (path : Path) : Option Place :=
  host.files.follow path.names
    (match path.anchor with
    | .here => .inside host.directory
    | .root => .inside []
    | .top => .outside)

/-- What stands at the end of a path. -/
def node? (host : Host) (path : Path) : Option Node :=
  match host.locate path with
  | none => none
  | some .outside => some .directory
  | some (.inside names) => host.files.node? names

/-- Something stands at the end of a path. -/
def hasPath (host : Host) (path : Path) : Bool := (host.node? path).isSome

/-- A directory stands at the end of a path. -/
def hasDirectory (host : Host) (path : Path) : Bool := host.node? path == some .directory

/-- The text of a file. -/
def readText (host : Host) (path : Path) : Except Fault Text :=
  match host.node? path with
  | some (.file content) => content.read
  | some .directory => .error ⟨.directoryInstead, "[Errno 21] Is a directory: " ++ Text.display path.text⟩
  | none => .error ⟨.missingFile, "[Errno 2] No such file or directory: " ++ Text.display path.text⟩

/-- The host after a file was written under the top of the files. -/
def write (host : Host) (path : Text) (content : Content) : Except Fault Host := do
  return { host with files := ← host.files.write (Path.settled (Path.namesOf path)) content }

/-- The host after what stands at a path was removed. -/
def remove (host : Host) (path : Text) : Except Fault Host := do
  return { host with files := ← host.files.remove (Path.settled (Path.namesOf path)) }

/-- The host after a directory was made, unless it is there. -/
def makeDirectory (host : Host) (path : Text) : Except Fault Host := do
  return { host with files := ← host.files.makeDirectory (Path.settled (Path.namesOf path)) }

/-- The host in another directory, which is made unless it is there. -/
def enter (host : Host) (path : Text) : Except Fault Host := do
  let host ← host.makeDirectory path
  return { host with directory := Path.settled (Path.namesOf path) }

end Host

end Rulebook
