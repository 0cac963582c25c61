import Rulebook.Comparison.Data
import Rulebook.Rule.Evaluator
import Rulebook.Session.Logging
import Rulebook.Session.Settings

/-!
# Evaluation in sessions

Each thread has an evaluator of its own, made from the settings when it is first needed and kept until it is
given up. Each evaluation of a rule is counted.
-/

namespace Rulebook

/-- The counts after an evaluation that came out in a certain way. -/
def Metrics.count (m : Metrics) (result : Except Failure Bool) : Metrics :=
  let m := { m with evaluations := m.evaluations + 1 }
  match result with
  | .ok true => { m with holding := m.holding + 1 }
  | .ok false => { m with failing := m.failing + 1 }
  | .error (.logic e) =>
    { m with errors := m.errors + 1, ofClass := fun c => m.ofClass c + (if c = e.errorClass then 1 else 0) }
  | .error (.fault _) => m

namespace Session

/-- The evaluator of a thread, if it has one. -/
def evaluatorOf (s : Session) (thread : Thread) : Option (Created LogicConfig) :=
  (s.evaluators.find? fun e => e.1 == thread).map (·.2)

/-- The session in which a thread has an evaluator. -/
def keepEvaluator (s : Session) (thread : Thread) (e : Created LogicConfig) : Session :=
  { s with evaluators := (thread, e) :: s.evaluators }

/-- The session in which a thread has no evaluator. -/
def dropEvaluator (s : Session) (thread : Thread) : Session :=
  { s with evaluators := s.evaluators.filter fun e => !(e.1 == thread) }

end Session

namespace Settings

/-- How logging is set up by settings; while debugging, all levels are written. -/
def logSetup (settings : Settings) : LogSetup :=
  LogSetup.ofConfig (if settings.debug then { settings.logging with level := .debug } else settings.logging)

/-- The event that an evaluator of the settings is ready. -/
def readyEvent (settings : Settings) : Event :=
  ⟨.bootstrap, .info, "rule_evaluator_ready",
    [("app_name", .text settings.appName), ("debug", .bool settings.debug),
      ("undefined_variables", .text settings.logic.undefinedVariables.spelling),
      ("max_pattern_length", .int settings.logic.maxPatternLength)]⟩

end Settings

namespace Act

/-- The evaluator of a thread; it is made from the settings if the thread has none. -/
def defaultEvaluator (thread : Thread) : Act (Created LogicConfig) := do
  match (← session).evaluatorOf thread with
  | some e => return e
  | none =>
    let e ← create (← settings).value.logic
    change fun s => s.keepEvaluator thread e
    return e

/-- Gives up the evaluator of a thread. -/
def resetDefault (thread : Thread) : Act Unit := change fun s => s.dropEvaluator thread

/-- Whether a rule holds, with the evaluation counted. -/
def evaluate (config : LogicConfig) (rule bindings : Value) : Act Bool := do
  let t := evaluateRule config rule bindings
  change fun s => { s with metrics := s.metrics.count t.result }
  ofTraced t

/-- Whether a rule holds for the evaluator of a thread. -/
def evaluateDefault (thread : Thread) (rule bindings : Value) : Act Bool := do
  evaluate (← defaultEvaluator thread).value rule bindings

/-- Whether a single comparison holds. -/
def evaluateSingle (config : LogicConfig) (field value name : Value) : Act Bool :=
  ofTraced (evaluateSingleData config.maxPatternLength field value name)

/-- The error of a rule, if it has one. -/
def validate (rule : Value) : Act (Option Text) := ofTraced (validateRule rule)

/-- Sets logging up by settings and gives their configuration for an evaluator. -/
def begin (settings : Settings) : Act LogicConfig := do
  setUpLogging settings.logSetup
  log settings.readyEvent
  return settings.logic

/-- Begins with settings from arguments, or without arguments with the settings of the session. -/
def bootstrap (arguments : Option (List (Value × Value))) : Act LogicConfig := do
  match arguments with
  | some arguments => begin (← settingsWith arguments)
  | none => begin (← settings).value

end Act

end Rulebook
