import Rulebook.Config.Model
import Rulebook.Json.Writer
import Rulebook.Log.Redaction
import Rulebook.Text.Part

/-!
# Log lines

How an event is written: as one line of data in JSON, or as coloured text for a terminal. The moment of an
event stands as a fixed sign.
-/

namespace Rulebook

/-- How a logger works: the least weight that it writes, whether it writes data, and whether it masks secrets. -/
structure LogSetup where
  least : Nat
  asJson : Bool
  redacts : Bool
  deriving Repr, DecidableEq, Inhabited

namespace LogSetup

/-- The weight of a level by its name in any case; that of information for an unknown one. -/
def weightOf (name : Text) : Nat :=
  let upper := Text.upper name
  (([Level.debug, .info, .warning, .error, .critical].find? fun l => Text.same (Text.ofString l.setting) upper).map
    Level.weight).getD Level.info.weight

/-- The setup of a configuration. -/
def ofConfig (c : LoggingConfig) : LogSetup := ⟨c.level.weight, c.format == .json, c.redactSensitive⟩

end LogSetup

/-- The sign for a moment. -/
def momentSign : Text := "<TS>"

/-- The entries with a value for a key that is not there yet. -/
def withDefault (entries : List (Value × Value)) (key : Text) (v : Value) : List (Value × Value) :=
  if (Value.lookupText key entries).isSome then entries else entries ++ [(.text key, v)]

/-- The entries of an event: its fields, its name unless there is none, what the context adds, level and moment.
`context` holds the variables that are bound. A variable that holds the mark of three points counts as unbound and is
none of them. -/
def eventEntries (level : Level) (name : Value) (fields context : List (Text × Value)) : List (Value × Value) :=
  let own := Value.entriesOf (fields.map fun (k, v) => (.text k, v))
  let named :=
    match name with
    | .null => own
    | v => Value.insertEntry (.text eventKey) v own
  let all := context.foldl (fun es (k, v) => withDefault es k v) named
  Value.insertEntry (.text "timestamp") (.text momentSign)
    (Value.insertEntry (.text "level") (.text level.label) all)

namespace Console

/-- The sign that starts a style. -/
def style (code : String) : Text := 0x1b :: ("[" : Text) ++ (code : Text) ++ "m"

/-- The sign that ends all styles. -/
def reset : Text := style "0"

/-- The style of a level. -/
def levelStyle : Level → Text
  | .debug => style "32" ++ style "1"
  | .info => style "32" ++ style "1"
  | .warning => style "33" ++ style "1"
  | .error => style "31" ++ style "1"
  | .critical => style "31" ++ style "1"

/-- A text in a style, filled up to a width. -/
def styled (s : Text) (width : Nat) (t : Text) : Text := s ++ Text.padRight 0x20 width t ++ reset

/-- A code point that separates the parts of a line. -/
def separates (c : CodePoint) : Bool :=
  c == 0x20 || c == 9 || c == 0x3d || c == 13 || c == 10 || c == 0x22 || c == 0x27

/-- The text of a value behind its key. -/
def valueText (v : Value) : Except Fault Text :=
  match v with
  | .text t => .ok (if t.any separates then Text.display t else t)
  | v => v.display

/-- A key with its value. -/
def keyed (k : Text) (v : Value) : Except Fault Text := do
  return style "36" ++ k ++ reset ++ "=" ++ style "35" ++ (← valueText v) ++ reset

/-- The name of the logger in brackets. -/
def loggerName (v : Value) : Except Fault Text := do
  return "[" ++ reset ++ style "1" ++ style "34" ++ (← v.plain) ++ reset ++ "]" ++ reset

/-- The keys whose values have a place of their own. -/
def placedKeys : List Text := ["timestamp", "level", eventKey, "logger", "logger_name", "stack", "exception", "exc_info"]

/-- A part of the line for a key, if it is there. -/
def column (entries : List (Value × Value)) (key : Text) (write : Value → Except Fault Text) :
    Except Fault (List Text) :=
  match Value.lookupText key entries with
  | some v => do return [← write v]
  | none => .ok []

/-- A text on a line of its own, behind the line, for a key that is there. -/
def appended (entries : List (Value × Value)) (key : Text) : Except Fault Text :=
  match Value.lookupText key entries with
  | none => .ok []
  | some .null => .ok []
  | some (.text t) => .ok (10 :: t)
  | some v => .error (Fault.wrongType ("can only concatenate str (not \"" ++ v.operandName ++ "\") to str"))

/-- The line of an event for a terminal. -/
def line (level : Level) (entries : List (Value × Value)) : Except Fault Text := do
  let moment ← column entries "timestamp" fun v => do return styled (style "2") 0 (← v.plain)
  let name ← column entries eventKey fun v => do return styled (style "1") 30 (← v.plain)
  let logger ← column entries "logger" loggerName
  let loggerName ← column entries "logger_name" loggerName
  let keys := Text.sorted (entries.filterMap fun (k, _) =>
    match k with
    | .text t => if placedKeys.any (Text.same t) then none else some t
    | _ => none)
  let fields ← keys.mapM fun k => keyed k ((Value.lookupText k entries).getD .null)
  let tag : Text := "[" ++ styled (levelStyle level) 9 level.label ++ "]"
  let stack ← appended entries "stack"
  let exception ← appended entries "exception"
  let gap : Text := if stack.isEmpty ∨ exception.isEmpty then [] else [10, 10] ++ List.replicate 79 0x3d ++ [10]
  return Text.join " " (moment ++ [tag] ++ name ++ logger ++ loggerName ++ fields) ++ stack ++ gap ++ exception

end Console

/-- The text that a logger writes for an event, if the event is grave enough. -/
def LogSetup.write (setup : LogSetup) (level : Level) (name : Value) (fields context : List (Text × Value)) :
    Except Fault (Option Text) :=
  if level.weight < setup.least then .ok none
  else do
    let entries := eventEntries level name fields context
    let entries ← if setup.redacts then redactEntries entries else pure entries
    if setup.asJson then return some (← Json.write (.mapping entries))
    else return some (← Console.line level entries)

end Rulebook
