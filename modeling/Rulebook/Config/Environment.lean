import Rulebook.Config.Field
import Rulebook.Config.Merge
import Rulebook.Json.Reader
import Rulebook.Text.Part

/-!
# Settings from the environment

A variable of the environment whose name starts with a mark sets a field, in any case; two low lines lead into
a section. The value of a whole section is data in JSON.
-/

namespace Rulebook.Config

/-- Variables of an environment in the order in which they were set. -/
abbrev Environment := List (Text × Text)

/-- The shape of a field: a single value, or a section with fields of its own. -/
inductive Shape where
  | single
  | fields (of : List (String × Shape))
  deriving Inhabited

/-- The fields of all settings. -/
def settingsShape : List (String × Shape) :=
  [("app_name", .single), ("debug", .single),
    ("logic", .fields [("undefined_variables", .single), ("max_pattern_length", .single)]),
    ("observability", .fields
      [("logging", .fields [("level", .single), ("format", .single), ("redact_sensitive", .single)])])]

/-- The mark of names of variables that set fields. -/
def environmentMark : Text := "conflogic_"

/-- The part of a name that leads into a section. -/
def sectionMark : Text := "__"

/-- The environment with names in lower case; of two names that become equal the later value stays. -/
def lowered (env : Environment) : Environment :=
  (env.foldl
    (fun (done : List (Value × Value)) (k, v) => Value.insertEntry (.text (Text.lower k)) (.text v) done) []).filterMap
    fun (k, v) => match k, v with | .text k, .text v => some (k, v) | _, _ => none

/-- The shape of a field of a section. -/
def Shape.part (name : Text) : Shape → Option Shape
  | .single => none
  | .fields of =>
    (of.find? fun f =>
      Text.same (Text.ofString f.1) name || Text.same (environmentMark ++ Text.ofString f.1) name).map (·.2)

/-- The data that a text in JSON denotes. -/
def decodeJson? (t : Text) : Option Value := Json.read (some maxIntegerDigits) t

/-- The entries with a value at the end of a path; the way there is made where nothing is, and is given up where
something else than a section is. -/
def setAt (v : Value) : List Text → List (Value × Value) → List (Value × Value)
  | [], entries => entries
  | [last], entries => Value.insertEntry (.text last) v entries
  | key :: path, entries =>
    match Value.lookupText key entries with
    | none => Value.insertEntry (.text key) (.mapping (setAt v path [])) entries
    | some (.mapping inner) => Value.insertEntry (.text key) (.mapping (setAt v path inner)) entries
    | some _ => entries

/-- The value of a variable for the field at the end of a path: data for a section, a text for all else. -/
def fieldValue? (shape : Shape) (path : List Text) (t : Text) : Option Value :=
  match path.foldl (fun s key => s.bind (Shape.part key)) (some shape) with
  | some (.fields _) => if t.isEmpty then some (.text t) else decodeJson? t
  | _ => some (.text t)

/-- The entries of a section that variables with longer names set; none if a value is no data. -/
def nestedEntries (shape : Shape) (lead : Text) :
    Environment → List (Value × Value) → Option (List (Value × Value))
  | [], entries => some entries
  | (name, t) :: rest, entries =>
    match Text.after? lead name with
    | none => nestedEntries shape lead rest entries
    | some tail =>
      let path := Text.splitAt sectionMark (tail.length + 1) (tail.length + 1) [] tail
      match fieldValue? shape path t with
      | some v => nestedEntries shape lead rest (setAt v path entries)
      | none => none

mutual

/-- Data for a field with the names of the fields inside in their own spelling. -/
def respelled : List (String × Shape) → List (Value × Value) → List (Value × Value) → List (Value × Value)
  | _, [], done => done
  | fields, (k, v) :: rest, done =>
    match k with
    | .text name =>
      match fields.find? fun f => Text.same (Text.lower f.1) (Text.lower name) with
      | some (own, .fields inner) => respelled fields rest (Value.insertEntry (.text own) (respelledValue inner v) done)
      | some (own, .single) => respelled fields rest (Value.insertEntry (.text own) v done)
      | none => respelled fields rest (Value.insertEntry k v done)
    | _ => respelled fields rest (Value.insertEntry k v done)

/-- A section with the names of its fields in their own spelling; other data as it stands. -/
def respelledValue (fields : List (String × Shape)) : Value → Value
  | .mapping entries => .mapping (respelled fields entries [])
  | v => v

end

/-- The value of a field that the environment sets, if it does. -/
def environmentField? (env : Environment) (name : String) (shape : Shape) : Except Fault (Option Value) :=
  let full := environmentMark ++ Text.ofString name
  let own := (env.find? fun e => Text.same e.1 full).map (·.2)
  let broken : Except Fault (Option Value) :=
    .error ⟨.settingSource, "error parsing value for field \"" ++ (name : Text) ++ "\" from source \"EnvSettingsSource\""⟩
  match shape with
  | .single => .ok (own.map .text)
  | .fields inner =>
    match own with
    | none =>
      match nestedEntries shape (full ++ sectionMark) env [] with
      | none => broken
      | some [] => .ok none
      | some entries => .ok (some (respelledValue inner (.mapping entries)))
    | some t =>
      match decodeJson? t with
      | none => broken
      | some .null => .ok none
      | some (.mapping entries) =>
        match nestedEntries shape (full ++ sectionMark) env [] with
        | none => broken
        | some more => .ok (some (respelledValue inner (.mapping (mergeEntries entries more))))
      | some v => .ok (some v)

/-- The fields that the environment sets. -/
def environmentEntries (env : Environment) : Except Fault (List (Value × Value)) := do
  let env := lowered env
  let found ← settingsShape.mapM fun (name, shape) => do return (name, ← environmentField? env name shape)
  return found.filterMap fun (name, v?) => v?.map fun v => (Value.text name, v)

end Rulebook.Config
