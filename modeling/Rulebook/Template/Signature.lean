import Rulebook.Value.Printer

/-!
# Signatures

The parameters of what a template can call, and how arguments are given to them.
-/

namespace Rulebook.Template

/-- A parameter with its value where none is given. -/
structure Param where
  name : String
  default : Option Value

/-- A parameter that must be given. -/
def Param.required (name : String) : Param := ⟨name, none⟩

/-- A parameter with a value of its own. -/
def Param.optional (name : String) (v : Value) : Param := ⟨name, some v⟩

/-- The name under which faults report a callable, its parameters, and how many of them are hidden in front. -/
structure Signature where
  label : String
  hidden : Nat
  params : List Param

/-- The words of a list with "and" before the last. -/
def wordsWithAnd : List Text → Text
  | [] => []
  | [a] => a
  | [a, b] => a ++ " and " ++ b
  | ts => Text.join ", " (ts.dropLast) ++ ", and " ++ ts.getLastD []

/-- More than one takes an s. -/
def plural (n : Nat) : Text := if n = 1 then [] else "s"

/-- The values of the parameters for arguments by position and by name. -/
def Signature.bind (s : Signature) (args : List Value) (named : List (Text × Value)) :
    Except Fault (List Value) := do
  let label : Text := s.label
  let names : List Text := s.params.map fun p => Text.ofString p.name
  let given := names.take args.length
  match named.find? fun (k, _) => !names.any (Text.same k) with
  | some (k, _) =>
    throw (Fault.wrongType (label ++ "() got an unexpected keyword argument '" ++ k ++ "'"))
  | none => pure ()
  match named.find? fun (k, _) => given.any (Text.same k) with
  | some (k, _) =>
    throw (Fault.wrongType (label ++ "() got multiple values for argument '" ++ k ++ "'"))
  | none => pure ()
  if names.length < args.length then
    let most := names.length + s.hidden
    let least := (s.params.filter (·.default.isNone)).length + s.hidden
    let count := args.length + s.hidden
    let range : Text := if least = most then Text.ofNat most else "from " ++ Text.ofNat least ++ " to " ++ Text.ofNat most
    throw (Fault.wrongType (label ++ "() takes " ++ range ++ " positional argument" ++
      plural most ++ " but " ++ Text.ofNat count ++ (if count = 1 then " was given" else " were given" : Text)))
  let values := (s.params.drop args.length).map fun p =>
    match named.find? fun (k, _) => Text.same k (Text.ofString p.name) with
    | some (_, v) => some v
    | none => p.default
  let missing := ((names.drop args.length).zip values).filter fun (_, v) => v.isNone
  if missing.isEmpty then return args ++ values.map (·.getD .null)
  else
    throw (Fault.wrongType (label ++ "() missing " ++ Text.ofNat missing.length ++
      " required positional argument" ++ plural missing.length ++ ": " ++
      wordsWithAnd (missing.map fun (n, _) => "'" ++ n ++ "'")))

/-- A callable that takes exactly one argument by position. -/
def exactlyOne (label : String) (args : List Value) (named : List (Text × Value)) : Except Fault Value :=
  if !named.isEmpty then
    .error (Fault.wrongType ((label : Text) ++ "() takes no keyword arguments"))
  else
    match args with
    | [v] => .ok v
    | _ =>
      .error (Fault.wrongType ((label : Text) ++ "() takes exactly one argument (" ++ Text.ofNat args.length ++ " given)"))

end Rulebook.Template
