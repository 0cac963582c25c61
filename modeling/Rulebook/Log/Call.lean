import Rulebook.Log.Line

/-!
# Calls of loggers

A logger is set up by values for its level, its form and whether it masks secrets, and called by the name of a
method.
-/

namespace Rulebook

namespace LogSetup

/-- The setup for values of a level, a form and whether secrets are masked. -/
def ofData (level format redacts : Value) : Except Fault LogSetup := do
  let least ←
    match level with
    | .text t => pure (weightOf t)
    | .bytes _ => pure Level.info.weight
    | v => throw ⟨.missingAttribute, "'" ++ v.typeName ++ "' object has no attribute 'upper'"⟩
  let asJson := match format with | .text t => Text.same t "json" | _ => false
  return ⟨least, asJson, redacts.truth⟩

/-- The levels by the names of the methods that log at them. -/
def methods : List (String × Level) :=
  [("debug", .debug), ("info", .info), ("msg", .info), ("warning", .warning), ("warn", .warning), ("error", .error),
    ("exception", .error), ("critical", .critical), ("fatal", .critical)]

/-- The name of the kind of logger that writes from a weight on. -/
def loggerKind (least : Nat) : Text :=
  let level := [Level.debug, .info, .warning, .error, .critical].find? fun l => l.weight == least
  "BoundLoggerFilteringAt" ++ ((match level with
    | some .debug => "Debug"
    | some .info => "Info"
    | some .warning => "Warning"
    | some .error => "Error"
    | some .critical => "Critical"
    | none => "Notset" : String) : Text)

/-- The text that a call of a method writes, if its level is grave enough. -/
def call (setup : LogSetup) (method : Text) (name : Value) (fields context : List (Text × Value)) :
    Except Fault (Option Text) :=
  match methods.find? fun m => Text.same (Text.ofString m.1) method with
  | none =>
    .error ⟨.missingAttribute, "'" ++ loggerKind setup.least ++ "' object has no attribute '" ++ method ++ "'"⟩
  | some (_, level) =>
    let fields :=
      if Text.same method "exception" && !(fields.any fun f => Text.same f.1 "exc_info") then
        fields ++ [(("exc_info" : Text), Value.bool true)]
      else fields
    setup.write level name fields context

end LogSetup

end Rulebook
