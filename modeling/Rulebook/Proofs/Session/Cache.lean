import Mathlib.Order.Nat
import Rulebook.Proofs.Outcome
import Rulebook.Proofs.Session.Step

/-!
# Settings and evaluators that last

Which settings a session keeps, and which evaluator a thread has, is said by what happened: settings are kept since they
were loaded, until they are cleared; a thread has an evaluator since it was made for the thread, until the thread gives
it up. Nothing else that happens in between makes a difference.
-/

namespace Rulebook

/-- The settings of the files and variables of a host as they are. -/
def Config.currentSettings (host : Host) : Except Config.Obstacle Settings :=
  match Config.load host with
  | .error f => .error (.fault f)
  | .ok files => Config.loadSettings files host.environment []

namespace Session

/-- What a session holds for settings and evaluators. -/
def store (s : Session) : Host × Value × Option (Created Settings) × List (Thread × Created LogicConfig) × Nat :=
  (s.host, s.loaded, s.cached, s.evaluators, s.nextSerial)

theorem store_bindLogger (s : Session) (source : Source) : (s.bindLogger source).store = s.store := by
  rw [bindLogger]
  split <;> rfl

end Session

namespace Act

open Session (store)

variable {α : Type}

/-! ### Calls that leave settings and evaluators alone -/

theorem keeps_store_log (e : Event) : Keeps store (log e) := by
  intro s
  rw [log]
  split
  · rfl
  · dsimp only
    split <;> exact s.store_bindLogger e.source

theorem keeps_store_logAll (events : List Event) : Keeps store (logAll events) := by
  induction events with
  | nil => exact keeps_pure ()
  | cons e rest ih => exact (keeps_store_log e).bind fun _ => ih

theorem keeps_store_ofTraced (t : Traced α) : Keeps store (ofTraced t) := by
  refine (keeps_store_logAll t.events).bind fun _ => ?_
  split
  · exact keeps_pure _
  · exact keeps_stop _

theorem keeps_store_setUpLogging (setup : LogSetup) : Keeps store (setUpLogging setup) := fun _ => rfl

theorem keeps_store_begin (settings : Settings) : Keeps store (begin settings) :=
  (keeps_store_setUpLogging _).bind fun _ => (keeps_store_log _).bind fun _ => keeps_pure _

theorem keeps_store_evaluate (config : LogicConfig) (rule bindings : Value) :
    Keeps store (evaluate config rule bindings) := by
  intro s
  rw [evaluate, change_bind]
  exact keeps_store_ofTraced _ _

theorem keeps_store_settingsWith (arguments : List (Value × Value)) : Keeps store (settingsWith arguments) := by
  intro s
  rw [settingsWith_eq]

/-! ### Loading settings -/

variable {s : Session}

theorem settings_of_cached {c : Created Settings} (h : s.cached = some c) : settings s = ⟨s, [], [], .ok c⟩ := by
  rw [settings, session_bind, h]
  rfl

theorem settings_of_not_cached (h : s.cached = none) : settings s = loadSettings s := by
  rw [settings, session_bind, h]

theorem reloadSettings_eq (s : Session) : reloadSettings s = settings { s with cached := none } := rfl

theorem loadSettings_ok {v : Settings} (h : Config.currentSettings s.host = .ok v) :
    ∃ files, loadSettings s =
      ⟨{ s with loaded := files, cached := some ⟨s.nextSerial, v⟩, nextSerial := s.nextSerial + 1 }, [], [],
        .ok ⟨s.nextSerial, v⟩⟩ := by
  rw [Config.currentSettings] at h
  cases hfiles : Config.load s.host with
  | error f => simp [hfiles] at h
  | ok files =>
    rw [hfiles] at h
    refine ⟨files, ?_⟩
    have hsettings : settingsWith [] { s with loaded := files } = ⟨{ s with loaded := files }, [], [], .ok v⟩ := by
      rw [settingsWith_eq]
      simp only [h, Except.mapError]
    rw [loadSettings, session_bind, hfiles, bind_of_silent (ofFault_ok files s), change_bind,
      bind_of_silent hsettings]
    rfl

theorem loadSettings_error {o : Config.Obstacle} (h : Config.currentSettings s.host = .error o) :
    ∃ files, loadSettings s = ⟨{ s with loaded := files }, [], [], .error (stopOf o)⟩ := by
  rw [Config.currentSettings] at h
  cases hfiles : Config.load s.host with
  | error f =>
    simp only [hfiles, Except.error.injEq] at h
    subst h
    refine ⟨s.loaded, ?_⟩
    rw [loadSettings, session_bind, hfiles]
    rfl
  | ok files =>
    rw [hfiles] at h
    refine ⟨files, ?_⟩
    have hsettings : settingsWith [] { s with loaded := files } =
        ⟨{ s with loaded := files }, [], [], .error (stopOf o)⟩ := by
      rw [settingsWith_eq]
      simp only [h, Except.mapError]
    rw [loadSettings, session_bind, hfiles, bind_of_silent (ofFault_ok files s), change_bind,
      bind_of_silent_error hsettings]

/-- What a call for settings does: it gives the ones that are kept, or loads them, or fails to. -/
theorem settings_cases (s : Session) :
    (∃ c, s.cached = some c ∧ settings s = ⟨s, [], [], .ok c⟩) ∨
      s.cached = none ∧
        ((∃ v files, Config.currentSettings s.host = .ok v ∧ settings s =
            ⟨{ s with loaded := files, cached := some ⟨s.nextSerial, v⟩, nextSerial := s.nextSerial + 1 }, [], [],
              .ok ⟨s.nextSerial, v⟩⟩) ∨
          ∃ o files, Config.currentSettings s.host = .error o ∧
            settings s = ⟨{ s with loaded := files }, [], [], .error (stopOf o)⟩) := by
  cases h : s.cached with
  | some c => exact .inl ⟨c, rfl, settings_of_cached h⟩
  | none =>
    refine .inr ⟨rfl, ?_⟩
    rw [settings_of_not_cached h]
    cases hv : Config.currentSettings s.host with
    | ok v =>
      obtain ⟨files, hload⟩ := loadSettings_ok hv
      exact .inl ⟨v, files, rfl, hload⟩
    | error o =>
      obtain ⟨files, hload⟩ := loadSettings_error hv
      exact .inr ⟨o, files, rfl, h ▸ hload⟩

theorem settings_silent (s : Session) : settings s = ⟨(settings s).session, [], [], (settings s).result⟩ := by
  rcases settings_cases s with ⟨c, -, h⟩ | ⟨-, ⟨v, files, -, h⟩ | ⟨o, files, -, h⟩⟩ <;> rw [h]

theorem evaluators_settings (s : Session) : (settings s).session.evaluators = s.evaluators := by
  rcases settings_cases s with ⟨c, -, h⟩ | ⟨-, ⟨v, files, -, h⟩ | ⟨o, files, -, h⟩⟩ <;> rw [h]

theorem nextSerial_settings (s : Session) : s.nextSerial ≤ (settings s).session.nextSerial := by
  rcases settings_cases s with ⟨c, -, h⟩ | ⟨-, ⟨v, files, -, h⟩ | ⟨o, files, -, h⟩⟩ <;> simp [h]

/-- A call for settings that ends in a result leaves just these kept. -/
theorem cached_settings_iff (s : Session) (c : Created Settings) :
    (settings s).session.cached = some c ↔ (settings s).result = .ok c := by
  rcases settings_cases s with ⟨c, hc, h⟩ | ⟨hc, ⟨v, files, -, h⟩ | ⟨o, files, -, h⟩⟩ <;> rw [h] <;> simp [hc]

end Act

namespace Session

/-- The settings that a session would load now. -/
def LoadsTo (s : Session) (c : Created Settings) : Prop :=
  Config.currentSettings s.host = .ok c.value ∧ c.serial = s.nextSerial

/-- An evaluator that a session would make now, of the settings that it has or loads for it. -/
def MakesOne (s : Session) (e : Created LogicConfig) : Prop :=
  ∃ c, (Act.settings s).result = .ok c ∧ e = ⟨(Act.settings s).session.nextSerial, c.value.logic⟩

variable (s : Session) (thread other : Thread)

theorem evaluatorOf_keepEvaluator (e : Created LogicConfig) :
    (s.keepEvaluator thread e).evaluatorOf other = if thread = other then some e else s.evaluatorOf other := by
  by_cases h : thread = other <;> simp [keepEvaluator, evaluatorOf, h]

theorem evaluatorOf_dropEvaluator :
    (s.dropEvaluator thread).evaluatorOf other = if thread = other then none else s.evaluatorOf other := by
  rw [dropEvaluator, evaluatorOf, evaluatorOf, List.find?_filter]
  by_cases h : thread = other
  · simp [h]
  · rw [if_neg h]
    congr 2
    funext e
    by_cases he : e.1 = other <;> simp [he, Ne.symm h]

end Session

namespace Act

/-! ### The evaluator of a thread -/

variable {s : Session} {thread : Thread}

theorem defaultEvaluator_of_some {e : Created LogicConfig} (h : s.evaluatorOf thread = some e) :
    defaultEvaluator thread s = ⟨s, [], [], .ok e⟩ := by
  rw [defaultEvaluator, session_bind, h]
  rfl

theorem defaultEvaluator_of_ok {c : Created Settings} (h : s.evaluatorOf thread = none)
    (hc : (settings s).result = .ok c) :
    defaultEvaluator thread s =
      ⟨Session.keepEvaluator { (settings s).session with nextSerial := (settings s).session.nextSerial + 1 } thread
        ⟨(settings s).session.nextSerial, c.value.logic⟩, [], [],
        .ok ⟨(settings s).session.nextSerial, c.value.logic⟩⟩ := by
  have hs := settings_silent s
  rw [hc] at hs
  rw [defaultEvaluator, session_bind, h]
  exact bind_of_silent hs

theorem defaultEvaluator_of_error {e : Stop} (h : s.evaluatorOf thread = none) (he : (settings s).result = .error e) :
    defaultEvaluator thread s = ⟨(settings s).session, [], [], .error e⟩ := by
  have hs := settings_silent s
  rw [he] at hs
  rw [defaultEvaluator, session_bind, h]
  exact bind_of_silent_error hs

end Act

namespace Step

/-- The settings are needed for the step. -/
def Asks (s : Session) : Step → Prop
  | settings => True
  | reloadSettings => True
  | bootstrap none => True
  | defaultEvaluator thread => s.evaluatorOf thread = none
  | evaluateDefault thread _ _ => s.evaluatorOf thread = none
  | _ => False

/-- The settings that were kept are given up by the step. -/
def Clears : Step → Prop
  | clearSettings => True
  | reloadSettings => True
  | _ => False

/-- The step loads settings from the files and variables as they are. -/
def Loads (c : Created Settings) (s : Session) (step : Step) : Prop :=
  step.Asks s ∧ (s.cached = none ∨ step = reloadSettings) ∧ s.LoadsTo c

/-- The step makes an evaluator for a thread that has none. -/
def Makes (thread : Thread) (e : Created LogicConfig) (s : Session) (step : Step) : Prop :=
  (step = defaultEvaluator thread ∨ ∃ rule bindings, step = evaluateDefault thread rule bindings) ∧
    s.evaluatorOf thread = none ∧ s.MakesOne e

end Step

namespace Session

/-! ### What a step does to settings and evaluators -/

/-- The session after what a step does to settings and evaluators. -/
def settle (s : Session) : Step → Session
  | .alter f => { s with host := f s.host }
  | .settings => (Act.settings s).session
  | .bootstrap none => (Act.settings s).session
  | .reloadSettings => (Act.settings { s with cached := none }).session
  | .clearSettings => { s with cached := none }
  | .defaultEvaluator thread => (Act.defaultEvaluator thread s).session
  | .evaluateDefault thread _ _ => (Act.defaultEvaluator thread s).session
  | .resetDefault thread => s.dropEvaluator thread
  | _ => s

/-- All else that a step does leaves settings and evaluators alone. -/
theorem store_next (s : Session) (step : Step) : (s.next step).store = (s.settle step).store := by
  cases step with
  | settingsWith arguments => exact (Act.keeps_store_settingsWith arguments).quiet s
  | evaluateDefault thread rule bindings =>
    have h := Act.session_bind_of_keeps (p := store) (x := Act.defaultEvaluator thread)
      (fun e => Act.keeps_store_evaluate e.value rule bindings) s
    exact h
  | evaluate config rule bindings => exact (Act.keeps_store_evaluate config rule bindings).quiet s
  | evaluateSingle config field value name => exact (Act.keeps_store_ofTraced _).quiet s
  | validate rule => exact (Act.keeps_store_ofTraced _).quiet s
  | setUpLogging level format redacts =>
    exact (Act.keeps_ofFault _).bind (fun setup => Act.keeps_store_setUpLogging setup) s
  | log e => exact Act.keeps_store_log e s
  | bootstrap arguments =>
    cases arguments with
    | none =>
      have h := Act.session_bind_of_keeps (p := store) (x := Act.settings) (fun c => Act.keeps_store_begin c.value) s
      exact h
    | some arguments =>
      have h : Act.Keeps store (Act.bootstrap (some arguments)) :=
        (Act.keeps_store_settingsWith arguments).bind Act.keeps_store_begin
      exact h s
  | _ => rfl

variable {s t : Session}

theorem cached_congr (h : s.store = t.store) : s.cached = t.cached := congrArg (fun p => p.2.2.1) h

theorem evaluatorOf_congr (h : s.store = t.store) (thread : Thread) : s.evaluatorOf thread = t.evaluatorOf thread := by
  have hevaluators : s.evaluators = t.evaluators := congrArg (fun p => p.2.2.2.1) h
  rw [evaluatorOf, evaluatorOf, hevaluators]

theorem nextSerial_congr (h : s.store = t.store) : s.nextSerial = t.nextSerial := congrArg (fun p => p.2.2.2.2) h

theorem cached_settings (s : Session) (c : Created Settings) :
    (Act.settings s).session.cached = some c ↔ s.cached = some c ∨ s.cached = none ∧ s.LoadsTo c := by
  rcases Act.settings_cases s with ⟨c', hc, h⟩ | ⟨hc, ⟨v, files, hv, h⟩ | ⟨o, files, ho, h⟩⟩
  · simp [h, hc]
  · obtain ⟨serial, value⟩ := c
    simp [h, hc, hv, LoadsTo, and_comm, eq_comm]
  · simp [h, hc, ho, LoadsTo]

theorem cached_defaultEvaluator (s : Session) (thread : Thread) :
    (Act.defaultEvaluator thread s).session.cached =
      if s.evaluatorOf thread = none then (Act.settings s).session.cached else s.cached := by
  cases h : s.evaluatorOf thread with
  | some e => simp [Act.defaultEvaluator_of_some h]
  | none =>
    cases hr : (Act.settings s).result with
    | ok c => simp [Act.defaultEvaluator_of_ok h hr, keepEvaluator]
    | error e => simp [Act.defaultEvaluator_of_error h hr]

/-- After a step the settings are kept that were kept before, unless it clears them, and those that it loads. -/
theorem cached_next (s : Session) (step : Step) (c : Created Settings) :
    (s.next step).cached = some c ↔ s.cached = some c ∧ ¬step.Clears ∨ step.Loads c s := by
  rw [cached_congr (store_next s step)]
  cases step with
  | settings => simp [settle, cached_settings, Step.Clears, Step.Loads, Step.Asks]
  | reloadSettings => simp [settle, cached_settings, Step.Clears, Step.Loads, Step.Asks, LoadsTo]
  | clearSettings => simp [settle, Step.Clears, Step.Loads, Step.Asks]
  | defaultEvaluator thread =>
    by_cases h : s.evaluatorOf thread = none <;>
      simp [settle, cached_defaultEvaluator, cached_settings, Step.Clears, Step.Loads, Step.Asks, h]
  | evaluateDefault thread rule bindings =>
    by_cases h : s.evaluatorOf thread = none <;>
      simp [settle, cached_defaultEvaluator, cached_settings, Step.Clears, Step.Loads, Step.Asks, h]
  | bootstrap arguments =>
    cases arguments <;> simp [settle, cached_settings, Step.Clears, Step.Loads, Step.Asks]
  | _ => simp [settle, Step.Clears, Step.Loads, Step.Asks, dropEvaluator]

theorem evaluatorOf_settings (s : Session) (thread : Thread) :
    (Act.settings s).session.evaluatorOf thread = s.evaluatorOf thread := by
  rw [evaluatorOf, evaluatorOf, Act.evaluators_settings]

theorem evaluatorOf_defaultEvaluator (s : Session) (thread other : Thread) (e : Created LogicConfig) :
    (Act.defaultEvaluator thread s).session.evaluatorOf other = some e ↔
      s.evaluatorOf other = some e ∨ thread = other ∧ s.evaluatorOf thread = none ∧ s.MakesOne e := by
  cases h : s.evaluatorOf thread with
  | some e' => simp [Act.defaultEvaluator_of_some h]
  | none =>
    cases hr : (Act.settings s).result with
    | error f => simp [Act.defaultEvaluator_of_error h hr, evaluatorOf_settings, MakesOne, hr]
    | ok c =>
      have hmade : evaluatorOf { (Act.settings s).session with
          nextSerial := (Act.settings s).session.nextSerial + 1 } other = s.evaluatorOf other :=
        evaluatorOf_settings s other
      rw [Act.defaultEvaluator_of_ok h hr, evaluatorOf_keepEvaluator, hmade]
      by_cases ht : thread = other
      · subst ht
        simp [h, MakesOne, hr, eq_comm]
      · simp [ht]

/-- After a step a thread has the evaluator that it had, unless it gives it up, or the one that is made for it. -/
theorem evaluatorOf_next (s : Session) (step : Step) (thread : Thread) (e : Created LogicConfig) :
    (s.next step).evaluatorOf thread = some e ↔
      s.evaluatorOf thread = some e ∧ ¬step = .resetDefault thread ∨ step.Makes thread e s := by
  rw [evaluatorOf_congr (store_next s step)]
  cases step with
  | settings => simp [settle, evaluatorOf_settings, Step.Makes]
  | reloadSettings =>
    rw [settle, evaluatorOf_settings]
    simp [evaluatorOf, Step.Makes]
  | defaultEvaluator other =>
    by_cases h : other = thread <;> simp [settle, evaluatorOf_defaultEvaluator, Step.Makes, h]
  | evaluateDefault other rule bindings =>
    by_cases h : other = thread <;> simp [settle, evaluatorOf_defaultEvaluator, Step.Makes, h]
  | resetDefault other =>
    by_cases h : other = thread <;> simp [settle, evaluatorOf_dropEvaluator, Step.Makes, h]
  | bootstrap arguments => cases arguments <;> simp [settle, evaluatorOf_settings, Step.Makes]
  | _ => simp [settle, Step.Makes, evaluatorOf]

/-! ### Numbers of creations -/

theorem nextSerial_settings_of_loadsTo {c : Created Settings} (h : s.cached = none) (hc : s.LoadsTo c) :
    (Act.settings s).session.nextSerial = s.nextSerial + 1 := by
  rcases Act.settings_cases s with ⟨c', hc', -⟩ | ⟨-, ⟨v, files, hv, hs⟩ | ⟨o, files, ho, -⟩⟩
  · rw [h] at hc'
    cases hc'
  · rw [hs]
  · rw [hc.1] at ho
    cases ho

theorem nextSerial_defaultEvaluator_of_makesOne {thread : Thread} {e : Created LogicConfig}
    (h : s.evaluatorOf thread = none) (he : s.MakesOne e) :
    (Act.defaultEvaluator thread s).session.nextSerial = e.serial + 1 := by
  obtain ⟨c, hc, rfl⟩ := he
  rw [Act.defaultEvaluator_of_ok h hc]
  rfl

theorem nextSerial_settings_le_defaultEvaluator {thread : Thread} (h : s.evaluatorOf thread = none) :
    (Act.settings s).session.nextSerial ≤ (Act.defaultEvaluator thread s).session.nextSerial := by
  cases hr : (Act.settings s).result with
  | ok c => simp [Act.defaultEvaluator_of_ok h hr, keepEvaluator]
  | error f => simp [Act.defaultEvaluator_of_error h hr]

theorem nextSerial_defaultEvaluator (s : Session) (thread : Thread) :
    s.nextSerial ≤ (Act.defaultEvaluator thread s).session.nextSerial := by
  cases h : s.evaluatorOf thread with
  | some e => simp [Act.defaultEvaluator_of_some h]
  | none => exact (Act.nextSerial_settings s).trans (nextSerial_settings_le_defaultEvaluator h)

theorem nextSerial_next (s : Session) (step : Step) : s.nextSerial ≤ (s.next step).nextSerial := by
  rw [nextSerial_congr (store_next s step)]
  cases step with
  | settings => exact Act.nextSerial_settings s
  | reloadSettings => exact Act.nextSerial_settings { s with cached := none }
  | defaultEvaluator thread => exact nextSerial_defaultEvaluator s thread
  | evaluateDefault thread rule bindings => exact nextSerial_defaultEvaluator s thread
  | bootstrap arguments =>
    cases arguments with
    | none => exact Act.nextSerial_settings s
    | some arguments => exact Nat.le_refl _
  | _ => exact Nat.le_refl _

theorem nextSerial_after (s : Session) (steps : List Step) : s.nextSerial ≤ (s.after steps).nextSerial := by
  induction steps using List.reverseRecOn with
  | nil => exact Nat.le_refl _
  | append_singleton steps step ih =>
    rw [after_append_singleton]
    exact ih.trans (nextSerial_next _ step)

/-- What a step creates has a number between those of the sessions before and after it. -/
theorem serial_of_loads {step : Step} {c : Created Settings} (h : step.Loads c s) :
    s.nextSerial ≤ c.serial ∧ c.serial < (s.next step).nextSerial := by
  obtain ⟨hasks, hcached, hc⟩ := h
  refine ⟨hc.2.ge, ?_⟩
  rw [nextSerial_congr (store_next s step), hc.2]
  have hsettings : s.cached = none → s.nextSerial < (Act.settings s).session.nextSerial := fun h =>
    (nextSerial_settings_of_loadsTo h hc).ge
  cases step with
  | settings => exact hsettings (by simpa using hcached)
  | reloadSettings => exact (nextSerial_settings_of_loadsTo (s := { s with cached := none }) rfl hc).ge
  | defaultEvaluator thread =>
    exact (hsettings (by simpa using hcached)).trans_le (nextSerial_settings_le_defaultEvaluator hasks)
  | evaluateDefault thread rule bindings =>
    exact (hsettings (by simpa using hcached)).trans_le (nextSerial_settings_le_defaultEvaluator hasks)
  | bootstrap arguments =>
    cases arguments with
    | none => exact hsettings (by simpa using hcached)
    | some arguments => exact hasks.elim
  | _ => exact hasks.elim

theorem serial_of_makes {step : Step} {thread : Thread} {e : Created LogicConfig} (h : step.Makes thread e s) :
    s.nextSerial ≤ e.serial ∧ e.serial < (s.next step).nextSerial := by
  obtain ⟨hstep, hnone, he⟩ := h
  have hlow : s.nextSerial ≤ e.serial := by
    obtain ⟨c, -, rfl⟩ := he
    exact Act.nextSerial_settings s
  have hhigh := nextSerial_defaultEvaluator_of_makesOne hnone he
  refine ⟨hlow, ?_⟩
  rw [nextSerial_congr (store_next s step)]
  obtain rfl | ⟨rule, bindings, rfl⟩ := hstep <;> exact hhigh.symm ▸ Nat.lt_succ_self e.serial

end Session

/-- What is created at different steps of a session has different numbers. -/
theorem eq_of_once {α : Type} (starts : α → Session → Step → Prop) (serial : α → Nat)
    (hserial : ∀ a s step, starts a s step → s.nextSerial ≤ serial a ∧ serial a < (s.next step).nextSerial)
    (hsame : ∀ a b s step, starts a s step → starts b s step → a = b) {s : Session} {steps : List Step} {a b : α}
    (ha : Once (starts a) s steps) (hb : Once (starts b) s steps) (h : serial a = serial b) : a = b := by
  -- numbers only grow, so of two different steps the one behind has the greater number
  have hbehind : ∀ {a b : α} {before between : List Step} {step step' : Step}, starts a (s.after before) step →
      starts b (s.after (before ++ step :: between)) step' → serial a < serial b := by
    intro a b before between step step' ha hb
    have hmiddle : s.after (before ++ step :: between) = ((s.after before).next step).after between := by
      rw [Session.after_append]
      rfl
    rw [hmiddle] at hb
    exact (hserial _ _ _ ha).2.trans_le ((Session.nextSerial_after _ between).trans (hserial _ _ _ hb).1)
  obtain ⟨before, step, later, rfl, ha⟩ := ha
  obtain ⟨before', step', later', heq, hb⟩ := hb
  rcases same_or_behind heq with ⟨rfl, rfl⟩ | ⟨between, rfl⟩ | ⟨between, rfl⟩
  · exact hsame _ _ _ _ ha hb
  · exact absurd h (hbehind ha hb).ne
  · exact absurd h (hbehind hb ha).ne'

/-! ### Over whole sessions -/

/-- What a call for settings gives where none are kept: the ones of the files and variables as they are, newly made. -/
def Session.loadResult (s : Session) : Except Stop (Created Settings) :=
  ((Config.currentSettings s.host).map (Created.mk s.nextSerial)).mapError Act.stopOf

theorem Act.result_settings_of_not_cached {s : Session} (h : s.cached = none) :
    (Act.settings s).result = s.loadResult := by
  rcases Act.settings_cases s with ⟨c, hc, -⟩ | ⟨-, ⟨v, files, hv, hs⟩ | ⟨o, files, ho, hs⟩⟩
  · rw [h] at hc
    cases hc
  · rw [hs, Session.loadResult, hv]
    rfl
  · rw [hs, Session.loadResult, ho]
    rfl

theorem cached_iff_since (host : Host) (steps : List Step) (c : Created Settings) :
    ((Session.start host).after steps).cached = some c ↔
      Since (Step.Loads c) Step.Clears (.start host) steps :=
  shown_iff_since Session.cached rfl Session.cached_next c

theorem evaluatorOf_iff_since (host : Host) (steps : List Step) (thread : Thread) (e : Created LogicConfig) :
    ((Session.start host).after steps).evaluatorOf thread = some e ↔
      Since (Step.Makes thread e) (· = .resetDefault thread) (.start host) steps :=
  shown_iff_since (Session.evaluatorOf · thread) rfl (fun s step => Session.evaluatorOf_next s step thread) e

/-- How a session that began with a host and went through steps keeps settings. -/
structure KeepsSettings (host : Host) (steps : List Step) (s : Session) : Prop where
  /-- Settings that were loaded and not cleared since are given again, the very same, whatever else happened. -/
  kept : ∀ c, Since (Step.Loads c) Step.Clears (.start host) steps → Act.settings s = ⟨s, [], [], .ok c⟩
  /-- Where there are none, the files and variables are read as they are now. -/
  read : (∀ c, ¬Since (Step.Loads c) Step.Clears (.start host) steps) → (Act.settings s).result = s.loadResult
  reloaded : (Act.reloadSettings s).result = s.loadResult
  /-- A call leaves the settings kept that it gives, and none if it gives none. -/
  cached : ∀ c, (Act.settings s).session.cached = some c ↔ (Act.settings s).result = .ok c
  cached_reloaded : ∀ c, (Act.reloadSettings s).session.cached = some c ↔ (Act.reloadSettings s).result = .ok c
  /-- Settings of different loads are never taken for the same. -/
  distinct : ∀ c d, Once (Step.Loads c) (.start host) steps → Once (Step.Loads d) (.start host) steps →
    c.serial = d.serial → c = d

/-- How a session that began with a host and went through steps keeps the evaluator of a thread. -/
structure KeepsEvaluator (host : Host) (steps : List Step) (s : Session) (thread : Thread) : Prop where
  /-- An evaluator that was made for the thread is given to it again, the very same, until the thread gives it up. -/
  kept : ∀ e, Since (Step.Makes thread e) (· = .resetDefault thread) (.start host) steps →
    Act.defaultEvaluator thread s = ⟨s, [], [], .ok e⟩ ∧
      ∀ rule bindings, Act.evaluateDefault thread rule bindings s = Act.evaluate e.value rule bindings s
  /-- Where it has none, one is made of the settings that are kept from then on. -/
  made : (∀ e, ¬Since (Step.Makes thread e) (· = .resetDefault thread) (.start host) steps) →
    ∀ c, (Act.settings s).result = .ok c →
      ∃ e, e.value = c.value.logic ∧ (Act.defaultEvaluator thread s).result = .ok e ∧
        (Act.defaultEvaluator thread s).session.evaluatorOf thread = some e ∧
        (Act.defaultEvaluator thread s).session.cached = some c
  /-- Without settings none is made. -/
  failed : (∀ e, ¬Since (Step.Makes thread e) (· = .resetDefault thread) (.start host) steps) →
    ∀ stop, (Act.settings s).result = .error stop →
      (Act.defaultEvaluator thread s).result = .error stop ∧
        (Act.defaultEvaluator thread s).session.evaluatorOf thread = none
  /-- No other thread was ever given an evaluator that was made for the thread. -/
  distinct : ∀ other e d, Once (Step.Makes thread e) (.start host) steps →
    Once (Step.Makes other d) (.start host) steps → e.serial = d.serial → thread = other ∧ e = d

theorem loads_unique {c d : Created Settings} {s : Session} {step : Step} (hc : step.Loads c s) (hd : step.Loads d s) :
    c = d := by
  obtain ⟨-, -, hcv, hcs⟩ := hc
  obtain ⟨-, -, hdv, hds⟩ := hd
  have hvalue : c.value = d.value := Except.ok.inj (hcv.symm.trans hdv)
  have hserial : c.serial = d.serial := hcs.trans hds.symm
  cases c
  cases d
  simp_all

theorem makes_unique {thread other : Thread} {e d : Created LogicConfig} {s : Session} {step : Step}
    (he : step.Makes thread e s) (hd : step.Makes other d s) : thread = other ∧ e = d := by
  obtain ⟨hthread, -, c, hc, rfl⟩ := he
  obtain ⟨hother, -, c', hc', rfl⟩ := hd
  obtain rfl : c = c' := Except.ok.inj (hc.symm.trans hc')
  refine ⟨?_, rfl⟩
  rcases hthread with rfl | ⟨rule, bindings, rfl⟩ <;> rcases hother with h | ⟨rule', bindings', h⟩ <;> cases h <;> rfl

theorem keepsSettings_after (host : Host) (steps : List Step) :
    KeepsSettings host steps ((Session.start host).after steps) where
  kept c h := Act.settings_of_cached ((cached_iff_since host steps c).2 h)
  read h := by
    refine Act.result_settings_of_not_cached (Option.eq_none_iff_forall_ne_some.2 fun c hc => ?_)
    exact h c ((cached_iff_since host steps c).1 hc)
  reloaded := by
    rw [Act.reloadSettings_eq, Act.result_settings_of_not_cached rfl]
    rfl
  cached := Act.cached_settings_iff _
  cached_reloaded := by
    rw [Act.reloadSettings_eq]
    exact Act.cached_settings_iff _
  distinct _ _ :=
    eq_of_once Step.Loads Created.serial (fun _ _ _ => Session.serial_of_loads) fun _ _ _ _ => loads_unique

theorem keepsEvaluator_after (host : Host) (steps : List Step) (thread : Thread) :
    KeepsEvaluator host steps ((Session.start host).after steps) thread := by
  have hnone : (∀ e, ¬Since (Step.Makes thread e) (· = .resetDefault thread) (.start host) steps) →
      ((Session.start host).after steps).evaluatorOf thread = none := fun h =>
    Option.eq_none_iff_forall_ne_some.2 fun e he => h e ((evaluatorOf_iff_since host steps thread e).1 he)
  constructor
  case kept =>
    intro e h
    have he := (evaluatorOf_iff_since host steps thread e).2 h
    exact ⟨Act.defaultEvaluator_of_some he, fun rule bindings => Act.bind_of_silent (Act.defaultEvaluator_of_some he)⟩
  case made =>
    intro h c hc
    rw [Act.defaultEvaluator_of_ok (hnone h) hc]
    refine ⟨_, rfl, rfl, ?_, (Act.cached_settings_iff _ c).2 hc⟩
    rw [Session.evaluatorOf_keepEvaluator, if_pos rfl]
  case failed =>
    intro h stop hstop
    rw [Act.defaultEvaluator_of_error (hnone h) hstop]
    exact ⟨rfl, (Session.evaluatorOf_settings _ thread).trans (hnone h)⟩
  case distinct =>
    intro other e d he hd h
    have hsame : (thread, e) = (other, d) :=
      eq_of_once (fun p => Step.Makes p.1 p.2) (fun p => p.2.serial)
        (fun _ _ _ => Session.serial_of_makes)
        (fun _ _ _ _ hp hq => Prod.ext (makes_unique hp hq).1 (makes_unique hp hq).2) he hd h
    exact Prod.mk.inj hsame

/-- A session keeps settings and the evaluators of its threads through whatever happens in it. -/
theorem session_keeps (host : Host) (steps : List Step) :
    KeepsSettings host steps ((Session.start host).after steps) ∧
      ∀ thread, KeepsEvaluator host steps ((Session.start host).after steps) thread :=
  ⟨keepsSettings_after host steps, keepsEvaluator_after host steps⟩

/-- The name of the program is set, the first thread gives up an evaluator, and the second goes on with the settings
and the evaluator that it had. -/
theorem session_keeps_over_changes :
    (Config.currentSettings (Host.bare.setVariable "CONFLOGIC_APP_NAME" "other")).toOption.map Settings.appName =
        some "other" ∧
      ∃ s, s = (Session.start .bare).after [.defaultEvaluator 1, .alter (·.setVariable "CONFLOGIC_APP_NAME" "other"),
          .resetDefault 0] ∧
        Act.settings s = ⟨s, [], [], .ok ⟨0, .standard⟩⟩ ∧
        Act.defaultEvaluator 1 s = ⟨s, [], [], .ok ⟨1, .standard⟩⟩ := by
  have hload : Config.currentSettings Host.bare = .ok .standard := rfl
  have hkept := session_keeps .bare
    [.defaultEvaluator 1, .alter (·.setVariable "CONFLOGIC_APP_NAME" "other"), .resetDefault 0]
  refine ⟨by decide +kernel, _, rfl, hkept.1.kept _ ⟨[], _, _, rfl, ?_, ?_⟩,
    ((hkept.2 1).kept _ ⟨[], _, _, rfl, ?_, ?_⟩).1⟩
  · exact ⟨rfl, .inl rfl, hload, rfl⟩
  · simp [Step.Clears]
  · exact ⟨.inl rfl, rfl, ⟨0, .standard⟩, rfl, rfl⟩
  · simp

end Rulebook
