import Rulebook.Proofs.Session.Cache

/-!
# Logging over a session

What a session does to its loggers is a list of actions: logging is configured, and loggers are called. Which setup a
logger uses is read off this list: the one in force at its own first call after logging was configured, or the one in
force now if it was not called since. `session_logging` says that this is what every logger does in every session.
-/

namespace Rulebook

/-- Logging is configured, or the logger of a source is called. -/
inductive LogAction where
  | configure (setup : LogSetup)
  | call (e : Event)

/-- The setup that an action brings into force. -/
def LogAction.setup? : LogAction → Option LogSetup
  | configure setup => some setup
  | call _ => none

/-- The action configures logging or calls the logger of a source. -/
def LogAction.concerns (source : Source) : LogAction → Bool
  | configure _ => true
  | call e => e.source == source

/-- The setup that was configured last. -/
def inForce (actions : List LogAction) : Option LogSetup := (actions.filterMap LogAction.setup?).getLast?

/-- The actions before the first call of a logger after logging was configured, or all of them. -/
def untilFirstCall (source : Source) : Bool → List LogAction → List LogAction
  | _, [] => []
  | _, .configure setup :: rest => .configure setup :: untilFirstCall source true rest
  | configured, .call e :: rest =>
    if configured && e.source == source then [] else .call e :: untilFirstCall source configured rest

/-- The setup that a logger uses after actions. -/
def setupAfter (source : Source) (actions : List LogAction) : Option LogSetup :=
  inForce (untilFirstCall source false actions)

/-! ### What loggers write -/

/-- The logger cannot write the event. -/
def LogSetup.refuses (setup : LogSetup) (e : Event) : Bool :=
  match setup.lineOf e with
  | .ok _ => false
  | .error _ => true

/-- The text that a logger writes for an event, if it writes one. -/
def LogSetup.textOf (setup : LogSetup) (e : Event) : Option Text :=
  match setup.lineOf e with
  | .ok line => line
  | .error _ => none

/-- What is written in actions that follow others, each event by the setup that its logger uses then. -/
def writtenIn (done : List LogAction) : List LogAction → List Text
  | [] => []
  | .configure setup :: rest => writtenIn (done ++ [.configure setup]) rest
  | .call e :: rest =>
    ((setupAfter e.source done).bind fun setup => setup.textOf e).toList ++ writtenIn (done ++ [.call e]) rest

/-- The events of actions that no logger takes, since logging was not configured. -/
def untakenIn (done : List LogAction) : List LogAction → List Event
  | [] => []
  | .configure setup :: rest => untakenIn (done ++ [.configure setup]) rest
  | .call e :: rest => (if setupAfter e.source done = none then [e] else []) ++ untakenIn (done ++ [.call e]) rest

/-- The actions up to a call with an event that cannot be written. -/
def performed (done : List LogAction) : List LogAction → List LogAction
  | [] => []
  | .configure setup :: rest => .configure setup :: performed (done ++ [.configure setup]) rest
  | .call e :: rest =>
    if (setupAfter e.source done).any (LogSetup.refuses · e) then [.call e]
    else .call e :: performed (done ++ [.call e]) rest

/-- What a step is to do with the loggers. -/
def Step.logActions (s : Session) : Step → List LogAction
  | evaluateDefault thread rule bindings =>
    match (Act.defaultEvaluator thread s).result with
    | .ok e => (evaluateRule e.value rule bindings).events.map .call
    | .error _ => []
  | evaluate config rule bindings => (evaluateRule config rule bindings).events.map .call
  | evaluateSingle config field value name =>
    (evaluateSingleData config.maxPatternLength field value name).events.map .call
  | validate rule => (validateRule rule).events.map .call
  | setUpLogging level format redacts =>
    match LogSetup.ofData level format redacts with
    | .ok setup => [.configure setup]
    | .error _ => []
  | bootstrap none =>
    match (Act.settings s).result with
    | .ok c => [.configure c.value.logSetup, .call c.value.readyEvent]
    | .error _ => []
  | bootstrap (some arguments) =>
    match (Act.settingsWith arguments s).result with
    | .ok chosen => [.configure chosen.logSetup, .call chosen.readyEvent]
    | .error _ => []
  | log e => [.call e]
  | _ => []

namespace Session

/-- What is done with the loggers in steps that follow other actions. -/
def logHistory (done : List LogAction) (s : Session) : List Step → List LogAction
  | [] => []
  | step :: rest =>
    performed done (step.logActions s) ++
      logHistory (done ++ performed done (step.logActions s)) (s.next step) rest

/-- What is written in steps. -/
def written (s : Session) : List Step → List Text
  | [] => []
  | step :: rest => (step.act s).written ++ (s.next step).written rest

/-- The events of steps that no logger takes. -/
def untaken (s : Session) : List Step → List Event
  | [] => []
  | step :: rest => (step.act s).events ++ (s.next step).untaken rest

end Session

/-! ### Which setup a logger uses -/

section Setup

/-- The logger was called after logging was configured. -/
def isCalled (source : Source) : Bool → List LogAction → Bool
  | _, [] => false
  | _, .configure _ :: rest => isCalled source true rest
  | configured, .call e :: rest => configured && e.source == source || isCalled source configured rest

variable {source : Source} {configured : Bool} {actions more : List LogAction}

theorem inForce_append : inForce (actions ++ more) = (inForce more).or (inForce actions) := by
  rw [inForce, inForce, inForce, List.filterMap_append, List.getLast?_append]

theorem inForce_cons (a : LogAction) : inForce (a :: actions) = (inForce actions).or a.setup? := by
  rw [← List.singleton_append, inForce_append]
  cases a <;> rfl

theorem untilFirstCall_append :
    untilFirstCall source configured (actions ++ more) =
      if isCalled source configured actions then untilFirstCall source configured actions
      else actions ++ untilFirstCall source (configured || (inForce actions).isSome) more := by
  induction actions generalizing configured with
  | nil => simp [isCalled, inForce]
  | cons a actions ih =>
    cases a with
    | configure setup =>
      simp only [List.cons_append, untilFirstCall, isCalled, ih, inForce_cons, LogAction.setup?]
      split <;> simp
    | call e =>
      simp only [List.cons_append, untilFirstCall, isCalled, ih, inForce_cons, LogAction.setup?]
      by_cases h : (configured && e.source == source) = true
      · simp [h]
      · rw [Bool.not_eq_true] at h
        simp only [h, Bool.false_or, Bool.false_eq_true, if_false, Option.or_none]
        split <;> rfl

theorem isCalled_append :
    isCalled source configured (actions ++ more) =
      (isCalled source configured actions || isCalled source (configured || (inForce actions).isSome) more) := by
  induction actions generalizing configured with
  | nil => simp [isCalled, inForce]
  | cons a actions ih =>
    cases a with
    | configure setup => simp [isCalled, ih, inForce_cons, LogAction.setup?]
    | call e => simp [isCalled, ih, inForce_cons, LogAction.setup?, Bool.or_assoc]

theorem setupAfter_append_of_isCalled (h : isCalled source false actions = true) :
    setupAfter source (actions ++ more) = setupAfter source actions := by
  rw [setupAfter, untilFirstCall_append, if_pos h, setupAfter]

theorem setupAfter_append_of_not_isCalled (h : isCalled source false actions = false) :
    setupAfter source (actions ++ more) =
      (inForce (untilFirstCall source (inForce actions).isSome more)).or (inForce actions) := by
  rw [setupAfter, untilFirstCall_append, h, Bool.false_or, if_neg Bool.false_ne_true, inForce_append]

theorem setupAfter_of_not_isCalled (h : isCalled source false actions = false) :
    setupAfter source actions = inForce actions := by
  have hnil : setupAfter source (actions ++ []) = (inForce []).or (inForce actions) :=
    setupAfter_append_of_not_isCalled h
  rwa [List.append_nil] at hnil

theorem isCalled_of_inForce_eq_none (h : inForce actions = none) : isCalled source false actions = false := by
  induction actions with
  | nil => rfl
  | cons a actions ih =>
    rw [inForce_cons, Option.or_eq_none_iff] at h
    cases a with
    | configure setup => cases h.2
    | call e => simp [isCalled, ih h.1]

theorem isSome_setupAfter_of_isCalled (h : isCalled source false actions = true) :
    (setupAfter source actions).isSome = true := by
  induction actions with
  | nil => cases h
  | cons a actions ih =>
    cases a with
    | configure setup =>
      rw [setupAfter, untilFirstCall, inForce_cons]
      simp [LogAction.setup?]
    | call e =>
      have hrest : isCalled source false actions = true := by simpa [isCalled] using h
      have hsetup : setupAfter source (.call e :: actions) = setupAfter source actions := by
        rw [setupAfter, untilFirstCall, Bool.false_and, if_neg Bool.false_ne_true, inForce_cons]
        simp [LogAction.setup?, setupAfter]
      rw [hsetup, ih hrest]

/-- A logger is not called by actions without a call of it. -/
theorem isCalled_of_forall_ne (h : ∀ e, .call e ∈ actions → e.source ≠ source) :
    isCalled source configured actions = false := by
  induction actions generalizing configured with
  | nil => rfl
  | cons a actions ih =>
    have hrest : ∀ configured, isCalled source configured actions = false := fun _ =>
      ih fun e he => h e (List.mem_cons_of_mem a he)
    cases a with
    | configure setup => exact hrest true
    | call e => simp [isCalled, hrest, h e List.mem_cons_self]

/-- Calls of other loggers make no difference to a logger. -/
theorem setupAfter_filter (source : Source) (actions : List LogAction) :
    setupAfter source (actions.filter (LogAction.concerns source)) = setupAfter source actions := by
  have hfilter : ∀ configured, inForce (untilFirstCall source configured (actions.filter (LogAction.concerns source))) =
      inForce (untilFirstCall source configured actions) := by
    induction actions with
    | nil => exact fun _ => rfl
    | cons a actions ih =>
      intro configured
      cases a with
      | configure setup =>
        rw [List.filter_cons_of_pos rfl, untilFirstCall, untilFirstCall, inForce_cons, inForce_cons, ih]
      | call e =>
        by_cases he : e.source = source
        · simp only [LogAction.concerns, he, beq_self_eq_true, List.filter_cons_of_pos, untilFirstCall]
          split
          · rfl
          · rw [inForce_cons, inForce_cons, ih]
        · simp [LogAction.concerns, he, untilFirstCall, inForce_cons, LogAction.setup?, ih]
  exact hfilter false

end Setup

/-! ### What a session holds for its loggers -/

namespace Session

/-- The session holds for its loggers what actions made of it. -/
structure Agrees (s : Session) (actions : List LogAction) : Prop where
  setup : s.setup = inForce actions
  bound : ∀ source, s.boundSetup source = if isCalled source false actions then setupAfter source actions else none

theorem agrees_start (host : Host) : (Session.start host).Agrees [] := ⟨rfl, fun _ => rfl⟩

theorem boundSetup_bindLogger (s : Session) (source other : Source) :
    (s.bindLogger source).boundSetup other = if source = other then s.setupOf source else s.boundSetup other := by
  have hsame : s.bindLogger source = s → s.boundSetup source = s.setupOf source →
      (s.bindLogger source).boundSetup other = if source = other then s.setupOf source else s.boundSetup other := by
    intro hs hb
    rw [hs]
    split
    · rename_i h
      rw [← h, hb]
    · rfl
  cases hb : s.boundSetup source with
  | some c => exact hsame (by simp [bindLogger, hb]) (by simp [setupOf, hb])
  | none =>
    cases hs : s.setup with
    | none => exact hsame (by simp [bindLogger, hs]) (by simp [setupOf, hb, hs])
    | some c =>
      rw [bindLogger, hb, hs, setupOf, hb, hs]
      by_cases h : source = other <;> simp [boundSetup, h]

theorem bindLogger_of_none {s : Session} {source : Source} (h : s.setupOf source = none) : s.bindLogger source = s := by
  rw [setupOf, Option.or_eq_none_iff] at h
  simp [bindLogger, h.2]

theorem setup_bindLogger (s : Session) (source : Source) : (s.bindLogger source).setup = s.setup := by
  rw [bindLogger]
  split <;> rfl

/-- What a session holds for its loggers. -/
def loggers (s : Session) : Option LogSetup × List (Source × LogSetup) := (s.setup, s.bound)

theorem Agrees.congr {s t : Session} {actions : List LogAction} (h : s.loggers = t.loggers) (hs : s.Agrees actions) :
    t.Agrees actions where
  setup := (congrArg Prod.fst h).symm.trans hs.setup
  bound source := by
    have hbound : s.bound = t.bound := congrArg Prod.snd h
    rw [boundSetup, ← hbound]
    exact hs.bound source

namespace Agrees

variable {s : Session} {actions : List LogAction}

theorem setupOf (h : s.Agrees actions) (source : Source) : s.setupOf source = setupAfter source actions := by
  rw [Session.setupOf, h.setup, h.bound]
  cases hc : isCalled source false actions with
  | true =>
    obtain ⟨c, hsome⟩ := Option.isSome_iff_exists.1 (isSome_setupAfter_of_isCalled hc)
    simp [hsome]
  | false => simp [setupAfter_of_not_isCalled hc]

theorem configure (h : s.Agrees actions) (setup : LogSetup) :
    Session.Agrees { s with setup := some setup } (actions ++ [.configure setup]) where
  setup := by simp [inForce, LogAction.setup?]
  bound source := by
    refine (h.bound source).trans ?_
    rw [isCalled_append, isCalled, isCalled, Bool.or_false]
    split
    · rename_i hc
      rw [setupAfter_append_of_isCalled hc]
    · rfl

theorem call (h : s.Agrees actions) (e : Event) : (s.bindLogger e.source).Agrees (actions ++ [.call e]) where
  setup := by
    rw [setup_bindLogger, h.setup, inForce_append]
    rfl
  bound source := by
    rw [boundSetup_bindLogger, isCalled_append, isCalled, isCalled, Bool.false_or, Bool.or_false]
    -- a logger that was called before keeps its setup; one that was not takes the one in force, if the call is its own
    cases hc : isCalled source false actions with
    | true =>
      rw [setupAfter_append_of_isCalled hc, h.bound, hc, Bool.true_or]
      split
      · rename_i hs
        rw [hs, h.setupOf, if_pos rfl]
      · rfl
    | false =>
      rw [setupAfter_append_of_not_isCalled hc, h.bound, hc, Bool.false_or]
      by_cases hs : e.source = source
      · rw [if_pos hs, hs, h.setupOf, setupAfter_of_not_isCalled hc]
        cases hi : inForce actions with
        | none => simp
        | some c => simp [untilFirstCall, hs, inForce]
      · simp [hs]

end Agrees

end Session

/-! ### Calls and what they do with the loggers -/

namespace Act

variable {α β : Type} {s : Session}

/-- A call does with the loggers what actions say. -/
def Performs (x : Act α) (s : Session) (actions : List LogAction) : Prop :=
  ∀ done, s.Agrees done →
    (x s).session.Agrees (done ++ performed done actions) ∧ (x s).written = writtenIn done (performed done actions) ∧
      (x s).events = untakenIn done (performed done actions)

/-- A call that does nothing with the loggers. -/
structure Idle (x : Act α) (s : Session) : Prop where
  loggers : (x s).session.loggers = s.loggers
  events : (x s).events = []
  written : (x s).written = []

theorem Idle.performs {x : Act α} (h : x.Idle s) : x.Performs s [] := by
  intro done hdone
  rw [performed, List.append_nil]
  exact ⟨hdone.congr h.loggers.symm, h.written, h.events⟩

theorem Idle.of_eq {x : Act α} {t : Session} {r : Except Stop α} (h : x s = ⟨t, [], [], r⟩)
    (ht : t.loggers = s.loggers) : x.Idle s := by
  constructor <;> rw [h]
  exact ht

theorem Performs.quiet {x : Act α} {actions : List LogAction} (h : x.Performs s actions) :
    (quiet x).Performs s actions := h

theorem Performs.bind_of_idle {x : Act α} {f : α → Act β} {actions : List LogAction} (hx : x.Performs s actions)
    (hf : ∀ a t, (f a).Idle t) : (x >>= f).Performs s actions := by
  intro done hdone
  cases h : (x s).result with
  | ok a =>
    obtain ⟨hagrees, hwritten, hevents⟩ := hx done hdone
    rw [bind_of_ok h, (hf a _).events, (hf a _).written, List.append_nil, List.append_nil]
    exact ⟨hagrees.congr (hf a _).loggers.symm, hwritten, hevents⟩
  | error e =>
    rw [bind_of_error h]
    exact hx done hdone

theorem Idle.bind_performs {x : Act α} {f : α → Act β} {actions : List LogAction} {a : α} (hx : x.Idle s)
    (ha : (x s).result = .ok a) (hf : (f a).Performs (x s).session actions) : (x >>= f).Performs s actions := by
  intro done hdone
  rw [bind_of_ok ha, hx.events, hx.written]
  exact hf done (hdone.congr hx.loggers.symm)

theorem Idle.bind_performs_nil {x : Act α} {f : α → Act β} {e : Stop} (hx : x.Idle s) (he : (x s).result = .error e) :
    (x >>= f).Performs s [] := by
  intro done hdone
  rw [bind_of_error he]
  exact hx.performs done hdone

theorem performs_setUpLogging_bind {f : Unit → Act α} {setup : LogSetup} {actions : List LogAction}
    (hf : (f ()).Performs { s with setup := some setup } actions) :
    (setUpLogging setup >>= f).Performs s (.configure setup :: actions) := by
  intro done hdone
  have h := hf _ (hdone.configure setup)
  rw [List.append_assoc] at h
  exact h

theorem performs_log_bind {f : Unit → Act α} {e : Event} {actions : List LogAction}
    (hf : (f ()).Performs (s.bindLogger e.source) actions) : (log e >>= f).Performs s (.call e :: actions) := by
  intro done hdone
  have hcall := hdone.call e
  obtain ⟨hagrees, hwritten, hevents⟩ := hf _ hcall
  rw [List.append_assoc] at hagrees
  have hsetup := hdone.setupOf e.source
  cases hs : setupAfter e.source done with
  | none =>
    have hlog : log e s = ⟨s.bindLogger e.source, [e], [], .ok ()⟩ := by
      rw [hs] at hsetup
      rw [log, hsetup, Session.bindLogger_of_none hsetup]
    rw [bind_of_ok (by rw [hlog]), hlog]
    simpa [performed, writtenIn, untakenIn, hs, hwritten, hevents] using hagrees
  | some setup =>
    rw [hs] at hsetup
    cases hline : setup.lineOf e with
    | ok line =>
      have hlog : log e s = ⟨s.bindLogger e.source, [], line.toList, .ok ()⟩ := by
        simp only [log, hsetup, hline]
      rw [bind_of_ok (by rw [hlog]), hlog]
      simpa [performed, writtenIn, untakenIn, hs, hwritten, hevents, LogSetup.refuses, LogSetup.textOf, hline]
        using hagrees
    | error fault =>
      -- the call binds the logger before it fails, and nothing behind it is done
      have hlog : log e s = ⟨s.bindLogger e.source, [], [], .error (.failure (.fault fault))⟩ := by
        simp only [log, hsetup, hline]
      rw [bind_of_error (by rw [hlog]), hlog]
      simpa [performed, writtenIn, untakenIn, hs, LogSetup.refuses, LogSetup.textOf, hline] using hcall

theorem bind_pure (x : Act α) : (x >>= pure) = x := by
  funext s
  cases h : (x s).result with
  | ok a =>
    rw [bind_of_ok h]
    show Outcome.mk (x s).session ((x s).events ++ []) ((x s).written ++ []) (.ok a) = x s
    rw [List.append_nil, List.append_nil, ← h]
  | error e => rw [bind_of_error h, ← h]

theorem idle_pure (a : α) (s : Session) : (pure a : Act α).Idle s := .of_eq (t := s) rfl rfl

theorem idle_stop (e : Stop) (s : Session) : (stop e : Act α).Idle s := .of_eq (t := s) rfl rfl

theorem performs_setUpLogging (setup : LogSetup) (s : Session) :
    (setUpLogging setup).Performs s [.configure setup] := by
  rw [← bind_pure (setUpLogging setup)]
  exact performs_setUpLogging_bind (idle_pure _ _).performs

theorem performs_log (e : Event) (s : Session) : (log e).Performs s [.call e] := by
  rw [← bind_pure (log e)]
  exact performs_log_bind (idle_pure _ _).performs

theorem performs_logAll (events : List Event) (s : Session) : (logAll events).Performs s (events.map .call) := by
  induction events generalizing s with
  | nil => exact (idle_pure _ _).performs
  | cons e rest ih => exact performs_log_bind (ih _)

theorem performs_ofTraced (t : Traced α) (s : Session) : (ofTraced t).Performs s (t.events.map .call) := by
  refine (performs_logAll t.events s).bind_of_idle fun _ t => ?_
  split
  · exact idle_pure _ _
  · exact idle_stop _ _

theorem performs_begin (settings : Settings) (s : Session) :
    (begin settings).Performs s [.configure settings.logSetup, .call settings.readyEvent] :=
  performs_setUpLogging_bind (performs_log_bind (idle_pure _ _).performs)

theorem idle_settings (s : Session) : settings.Idle s := by
  rcases settings_cases s with ⟨c, -, h⟩ | ⟨-, ⟨v, files, -, h⟩ | ⟨o, files, -, h⟩⟩ <;> exact .of_eq h rfl

theorem idle_settingsWith (arguments : List (Value × Value)) (s : Session) : (settingsWith arguments).Idle s :=
  .of_eq (settingsWith_eq arguments s) rfl

theorem idle_reloadSettings (s : Session) : reloadSettings.Idle s := by
  have h := idle_settings { s with cached := none }
  exact ⟨h.loggers, h.events, h.written⟩

theorem idle_defaultEvaluator (thread : Thread) (s : Session) : (defaultEvaluator thread).Idle s := by
  have hsettings := (idle_settings s).loggers
  cases h : s.evaluatorOf thread with
  | some e => exact .of_eq (defaultEvaluator_of_some h) rfl
  | none =>
    cases hr : (settings s).result with
    | ok c => exact .of_eq (defaultEvaluator_of_ok h hr) hsettings
    | error e => exact .of_eq (defaultEvaluator_of_error h hr) hsettings

theorem performs_evaluate (config : LogicConfig) (rule bindings : Value) (s : Session) :
    (evaluate config rule bindings).Performs s ((evaluateRule config rule bindings).events.map .call) := by
  have hcount : (change fun s => { s with
      metrics := s.metrics.count (evaluateRule config rule bindings).result }).Idle s := ⟨rfl, rfl, rfl⟩
  exact hcount.bind_performs rfl (performs_ofTraced _ _)

theorem performs_evaluateDefault (thread : Thread) (rule bindings : Value) (s : Session) :
    (evaluateDefault thread rule bindings).Performs s (Step.logActions s (.evaluateDefault thread rule bindings)) := by
  have hidle := idle_defaultEvaluator thread s
  rw [Step.logActions, evaluateDefault]
  cases h : (defaultEvaluator thread s).result with
  | ok e => exact hidle.bind_performs h (performs_evaluate e.value rule bindings _)
  | error f => exact hidle.bind_performs_nil h

theorem performs_setUpLoggingByData (level format redacts : Value) (s : Session) :
    (setUpLoggingByData level format redacts).Performs s (Step.logActions s (.setUpLogging level format redacts)) := by
  rw [Step.logActions, setUpLoggingByData]
  cases LogSetup.ofData level format redacts with
  | ok setup => exact (idle_pure setup s).bind_performs rfl (performs_setUpLogging setup s)
  | error f => exact (idle_stop _ s).bind_performs_nil rfl

theorem performs_bootstrap (arguments : Option (List (Value × Value))) (s : Session) :
    (bootstrap arguments).Performs s (Step.logActions s (.bootstrap arguments)) := by
  cases arguments with
  | none =>
    rw [Step.logActions, bootstrap]
    cases h : (settings s).result with
    | ok c => exact (idle_settings s).bind_performs h (performs_begin c.value _)
    | error f => exact (idle_settings s).bind_performs_nil h
  | some arguments =>
    rw [Step.logActions, bootstrap]
    cases h : (settingsWith arguments s).result with
    | ok settings => exact (idle_settingsWith arguments s).bind_performs h (performs_begin settings _)
    | error f => exact (idle_settingsWith arguments s).bind_performs_nil h

end Act

/-- A step does with the loggers what it is to do. -/
theorem Step.performs_act (step : Step) (s : Session) : step.act.Performs s (step.logActions s) := by
  cases step with
  | settings => exact (Act.idle_settings s).performs.quiet
  | reloadSettings => exact (Act.idle_reloadSettings s).performs.quiet
  | settingsWith arguments => exact (Act.idle_settingsWith arguments s).performs.quiet
  | defaultEvaluator thread => exact (Act.idle_defaultEvaluator thread s).performs.quiet
  | evaluateDefault thread rule bindings => exact (Act.performs_evaluateDefault thread rule bindings s).quiet
  | evaluate config rule bindings => exact (Act.performs_evaluate config rule bindings s).quiet
  | evaluateSingle config field value name =>
    exact (Act.performs_ofTraced (evaluateSingleData config.maxPatternLength field value name) s).quiet
  | validate rule => exact (Act.performs_ofTraced (validateRule rule) s).quiet
  | setUpLogging level format redacts => exact Act.performs_setUpLoggingByData level format redacts s
  | bootstrap arguments => exact (Act.performs_bootstrap arguments s).quiet
  | log e => exact Act.performs_log e s
  | _ => exact (⟨rfl, rfl, rfl⟩ : Act.Idle _ s).performs

/-! ### Over whole sessions -/

theorem writtenIn_append (done actions more : List LogAction) :
    writtenIn done (actions ++ more) = writtenIn done actions ++ writtenIn (done ++ actions) more := by
  induction actions generalizing done with
  | nil => simp [writtenIn]
  | cons a actions ih => cases a <;> simp [writtenIn, ih]

theorem untakenIn_append (done actions more : List LogAction) :
    untakenIn done (actions ++ more) = untakenIn done actions ++ untakenIn (done ++ actions) more := by
  induction actions generalizing done with
  | nil => simp [untakenIn]
  | cons a actions ih => cases a <;> simp [untakenIn, ih]

/-- What a session holds, writes and leaves is what the actions of its steps make of it. -/
theorem Session.Agrees.after {s : Session} {done : List LogAction} (h : s.Agrees done) (steps : List Step) :
    (s.after steps).Agrees (done ++ s.logHistory done steps) ∧
      s.written steps = writtenIn done (s.logHistory done steps) ∧
      s.untaken steps = untakenIn done (s.logHistory done steps) := by
  induction steps generalizing s done with
  | nil => simpa [logHistory, written, untaken, writtenIn, untakenIn] using h
  | cons step rest ih =>
    obtain ⟨hagrees, hwritten, hevents⟩ := step.performs_act s done h
    obtain ⟨hafter, hwrittenRest, huntakenRest⟩ := ih (s := s.next step) hagrees
    refine ⟨?_, ?_, ?_⟩
    · rw [logHistory, ← List.append_assoc]
      exact hafter
    · rw [logHistory, writtenIn_append, written, hwritten, ← hwrittenRest]
    · rw [logHistory, untakenIn_append, untaken, hevents, ← huntakenRest]

/-- Which setup the logger of a source uses, by the actions before. -/
structure KeepsFirstSetup (source : Source) : Prop where
  /-- It uses none before logging is configured. -/
  unconfigured : ∀ before, inForce before = none → setupAfter source before = none
  /-- It uses the latest, as long as it was not called since logging was first configured. -/
  uncalled : ∀ before setup since, inForce before = none → (∀ e, .call e ∈ since → e.source ≠ source) →
    setupAfter source (before ++ .configure setup :: since) = inForce (.configure setup :: since)
  /-- From its first call on it uses the one in force at that call, whatever is configured later. -/
  called : ∀ before setup since e later, inForce before = none → (∀ e, .call e ∈ since → e.source ≠ source) →
    e.source = source →
      setupAfter source (before ++ .configure setup :: since ++ .call e :: later) = inForce (.configure setup :: since)
  /-- Calls of other loggers make no difference to it. -/
  alone : ∀ actions, setupAfter source (actions.filter (LogAction.concerns source)) = setupAfter source actions

theorem keepsFirstSetup (source : Source) : KeepsFirstSetup source := by
  have huncalled : ∀ {before since : List LogAction} (setup : LogSetup), inForce before = none →
      (∀ e, .call e ∈ since → e.source ≠ source) →
        isCalled source false (before ++ .configure setup :: since) = false := by
    intro before since setup hbefore hsince
    rw [isCalled_append, isCalled_of_inForce_eq_none hbefore, isCalled, isCalled_of_forall_ne hsince, Bool.or_false]
  have hinForce : ∀ {before since : List LogAction} (setup : LogSetup), inForce before = none →
      inForce (before ++ .configure setup :: since) = inForce (.configure setup :: since) := by
    intro before since setup hbefore
    rw [inForce_append, hbefore, Option.or_none]
  constructor
  case unconfigured =>
    intro before h
    rw [setupAfter_of_not_isCalled (isCalled_of_inForce_eq_none h), h]
  case uncalled =>
    intro before setup since hbefore hsince
    rw [setupAfter_of_not_isCalled (huncalled setup hbefore hsince), hinForce setup hbefore]
  case called =>
    intro before setup since e later hbefore hsince he
    have hsome : (inForce (.configure setup :: since)).isSome = true := by simp [inForce_cons, LogAction.setup?]
    rw [setupAfter_append_of_not_isCalled (huncalled setup hbefore hsince), hinForce setup hbefore, hsome,
      untilFirstCall, he, beq_self_eq_true, Bool.true_and, if_pos rfl]
    rfl
  case alone => exact setupAfter_filter source

/-- What the loggers write in a session, and which setup each of them uses after it, is said by what was done with
them: each uses the setup that was in force at its own first call after logging was configured. -/
theorem session_logging (host : Host) (steps : List Step) :
    (Session.start host).written steps = writtenIn [] ((Session.start host).logHistory [] steps) ∧
      (Session.start host).untaken steps = untakenIn [] ((Session.start host).logHistory [] steps) ∧
      ∀ source, ((Session.start host).after steps).setupOf source =
          setupAfter source ((Session.start host).logHistory [] steps) ∧
        KeepsFirstSetup source := by
  obtain ⟨hagrees, hwritten, huntaken⟩ := (Session.agrees_start host).after steps
  rw [List.nil_append] at hagrees
  exact ⟨hwritten, huntaken, fun source => ⟨hagrees.setupOf source, keepsFirstSetup source⟩⟩

/-- A first call that writes nothing counts: the evaluator goes on without events for debugging, the comparator writes
them. -/
theorem session_logging_first_calls :
    ∃ steps : List Step,
      steps = [.setUpLogging (.text "INFO") (.text "json") (.bool true), .log ⟨.evaluator, .debug, "first", []⟩,
        .setUpLogging (.text "DEBUG") (.text "json") (.bool true), .log ⟨.evaluator, .debug, "second", []⟩,
        .log ⟨.comparator, .debug, "third", []⟩] ∧
      (Session.start .bare).written steps =
        ["\x7b\"event\": \"third\", \"level\": \"debug\", \"timestamp\": \"<TS>\"\x7d"] ∧
      ((Session.start .bare).after steps).setupOf .evaluator = some ⟨20, true, true⟩ ∧
      ((Session.start .bare).after steps).setupOf .comparator = some ⟨10, true, true⟩ := by
  refine ⟨_, rfl, ?_⟩
  obtain ⟨hwritten, -, hsetup⟩ := session_logging .bare
    [.setUpLogging (.text "INFO") (.text "json") (.bool true), .log ⟨.evaluator, .debug, "first", []⟩,
      .setUpLogging (.text "DEBUG") (.text "json") (.bool true), .log ⟨.evaluator, .debug, "second", []⟩,
      .log ⟨.comparator, .debug, "third", []⟩]
  rw [hwritten, (hsetup .evaluator).1, (hsetup .comparator).1]
  decide +kernel

end Rulebook
