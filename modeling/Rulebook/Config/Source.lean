import Rulebook.Config.Environment

/-!
# Sources of settings

Arguments come before the environment, and the environment before the configuration files; what none of them
sets is standard. The sources are merged section by section and then checked as a whole.
-/

namespace Rulebook.Config

/-- Why there are no settings: fields with errors, or a source that cannot be used. -/
inductive Obstacle where
  | invalid (errors : List FieldError)
  | fault (f : Fault)
  deriving Repr, Inhabited

/-- The entries of all sources together. -/
def combined (files : Value) (env : Environment) (arguments : List (Value × Value)) :
    Except Fault (List (Value × Value)) := do
  let fromEnvironment ← environmentEntries env
  match ← merge files (.mapping (mergeEntries fromEnvironment arguments)) with
  | .mapping entries => return entries
  | _ => return mergeEntries fromEnvironment arguments

/-- The settings from the configuration of the files, the environment and arguments. -/
def loadSettings (files : Value) (env : Environment) (arguments : List (Value × Value)) : Except Obstacle Settings :=
  match combined files env arguments with
  | .error f => .error (.fault f)
  | .ok entries => (readSettings entries).mapError .invalid

/-- The value that the configuration files give to a field, with its name and whether it is there. -/
def fileField (files : Value) (name : Text) : Except Fault (Value × Text × Bool) :=
  match files with
  | .mapping entries =>
    let v := (Value.lookupText name entries).getD .null
    .ok (v, name, match v with | .null => false | _ => true)
  | v => .error (lacksMethod v "get")

end Rulebook.Config
