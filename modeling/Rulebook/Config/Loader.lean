import Rulebook.Config.Merge
import Rulebook.Host.Basic
import Rulebook.Toml.Reader

/-!
# Configuration files

The directory of the configuration is named by the environment, or is the nearest one of a fixed name at or
above the current directory. It holds a file of defaults and one for each environment, laid over it; both may be
missing.
-/

namespace Rulebook.Config

/-- The variable that names the directory of the configuration. -/
def directoryVariable : Text := "CONFLOGIC_CONFIG_DIR"

/-- The variable that names the environment. -/
def environmentVariable : Text := "CONFLOGIC_ENV"

/-- The name of directories with configurations. -/
def directoryName : Text := "config"

/-- The number of directories above the current one that are searched. -/
def searchHeight : Nat := 4

/-- The current directory and the ones above it that are searched, the nearest first. -/
def searched (directory : List Text) : List (List Text) :=
  (List.range (min searchHeight directory.length + 1)).map fun i => directory.take (directory.length - i)

/-- The directory of the configuration. -/
def directory (host : Host) : Except Fault Path :=
  match host.valueOf directoryVariable with
  | some (c :: name) =>
    let path := Path.ofText (c :: name)
    if host.hasPath path then .ok path
    else .error ⟨.missingFile, "Config directory not found: " ++ c :: name⟩
  | _ =>
    let candidates := (searched host.directory).map fun names => Path.child ⟨.root, names⟩ directoryName
    match candidates.find? host.hasDirectory with
    | some path => .ok path
    | none => .ok (Path.ofText directoryName)

/-- The name of the environment. -/
def environmentName (host : Host) : Text := (host.valueOf environmentVariable).getD "development"

/-- The configuration in a file. -/
def loadFile (host : Host) (path : Path) : Except Fault Value :=
  if host.hasPath path then do Toml.read (← host.readText path)
  else .error ⟨.missingFile, "Configuration file not found: " ++ path.text⟩

/-- The configuration in a file, or nothing if there is no file. -/
def loadOptional (host : Host) (path : Path) : Except Fault (Option Value) :=
  if host.hasPath path then do return some (← loadFile host path) else .ok none

/-- The file of defaults in a directory. -/
def defaultsPath (directory : Path) : Path := directory.child "default.toml"

/-- The file of the environment in a directory. -/
def environmentPath (host : Host) (directory : Path) : Path := directory.child (environmentName host ++ ".toml")

/-- The whole configuration: the file of the environment laid over the file of defaults. -/
def load (host : Host) : Except Fault Value := do
  let directory ← directory host
  let defaults ← loadOptional host (defaultsPath directory)
  let special ← loadOptional host (environmentPath host directory)
  match special with
  | none => return defaults.getD (.mapping [])
  | some special => merge (defaults.getD (.mapping [])) special

end Rulebook.Config
