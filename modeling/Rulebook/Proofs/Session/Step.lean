import Mathlib.Data.List.Induction
import Rulebook.Session.Evaluation

/-!
# Steps of sessions

A session goes on by steps: calls of its user and changes of what is around it, in any order. A call that stops does
not end the session. What a step leaves as it is, is said by projections of the session that the step keeps.
-/

namespace Rulebook

/-- A change of the host, or a call. -/
inductive Step where
  | alter (change : Host → Host)
  | settings
  | reloadSettings
  | clearSettings
  | settingsWith (arguments : List (Value × Value))
  | defaultEvaluator (thread : Thread)
  | resetDefault (thread : Thread)
  | evaluateDefault (thread : Thread) (rule bindings : Value)
  | evaluate (config : LogicConfig) (rule bindings : Value)
  | evaluateSingle (config : LogicConfig) (field value name : Value)
  | validate (rule : Value)
  | setUpLogging (level format redacts : Value)
  | bootstrap (arguments : Option (List (Value × Value)))
  | log (e : Event)

namespace Act

variable {α β γ : Type}

/-- A call whose result is not looked at. -/
def quiet (x : Act α) : Act Unit := fun s => ⟨(x s).session, (x s).events, (x s).written, (x s).result.map fun _ => ()⟩

/-! ### Calls in sequence -/

theorem bind_of_ok {x : Act α} {f : α → Act β} {s : Session} {a : α} (h : (x s).result = .ok a) :
    (x >>= f) s = ⟨(f a (x s).session).session, (x s).events ++ (f a (x s).session).events,
      (x s).written ++ (f a (x s).session).written, (f a (x s).session).result⟩ := by
  show Act.bind x f s = _
  rw [Act.bind]
  simp only [h]

theorem bind_of_error {x : Act α} {f : α → Act β} {s : Session} {e : Stop} (h : (x s).result = .error e) :
    (x >>= f) s = ⟨(x s).session, (x s).events, (x s).written, .error e⟩ := by
  show Act.bind x f s = _
  rw [Act.bind]
  simp only [h]

/-- A call that reports and writes nothing goes on where it ended. -/
theorem bind_of_silent {x : Act α} {f : α → Act β} {s t : Session} {a : α} (h : x s = ⟨t, [], [], .ok a⟩) :
    (x >>= f) s = f a t := by
  rw [bind_of_ok (by rw [h]), h]
  rfl

theorem bind_of_silent_error {x : Act α} {f : α → Act β} {s t : Session} {e : Stop}
    (h : x s = ⟨t, [], [], .error e⟩) : (x >>= f) s = ⟨t, [], [], .error e⟩ := by
  rw [bind_of_error (by rw [h]), h]

/-- A call that looks at the session goes on with it. -/
theorem session_bind (f : Session → Act α) (s : Session) : (session >>= f) s = f s s := rfl

/-- A call that changes the session goes on with the changed one. -/
theorem change_bind (g : Session → Session) (f : Unit → Act α) (s : Session) : (change g >>= f) s = f () (g s) := rfl

theorem ofFault_ok (a : α) (s : Session) : ofFault (.ok a) s = ⟨s, [], [], .ok a⟩ := rfl

/-! ### What a call keeps -/

/-- A call does not change what a projection shows of the session. -/
def Keeps (p : Session → γ) (x : Act α) : Prop := ∀ s, p (x s).session = p s

section Keeps

variable {p : Session → γ}

theorem keeps_pure (a : α) : Keeps p (pure a : Act α) := fun _ => rfl

theorem keeps_stop (e : Stop) : Keeps p (stop e : Act α) := fun _ => rfl

theorem keeps_ofFault (r : Except Fault α) : Keeps p (ofFault r) := by
  cases r <;> exact fun _ => rfl

/-- Behind a call that is followed by calls that keep what is shown, the same is shown. -/
theorem session_bind_of_keeps {x : Act α} {f : α → Act β} (hf : ∀ a, Keeps p (f a)) (s : Session) :
    p ((x >>= f) s).session = p (x s).session := by
  cases h : (x s).result with
  | ok a =>
    rw [bind_of_ok h]
    exact hf a _
  | error e => rw [bind_of_error h]

theorem Keeps.bind {x : Act α} {f : α → Act β} (hx : Keeps p x) (hf : ∀ a, Keeps p (f a)) : Keeps p (x >>= f) :=
  fun s => (session_bind_of_keeps hf s).trans (hx s)

theorem Keeps.quiet {x : Act α} (hx : Keeps p x) : Keeps p (quiet x) := hx

end Keeps

/-- The stop for what is in the way of settings. -/
def stopOf : Config.Obstacle → Stop
  | .invalid errors => .invalid errors
  | .fault f => .failure (.fault f)

theorem ofObstacle_eq (r : Except Config.Obstacle α) (s : Session) :
    ofObstacle r s = ⟨s, [], [], r.mapError stopOf⟩ := by
  cases r with
  | ok a => rfl
  | error o => cases o <;> rfl

theorem settingsWith_eq (arguments : List (Value × Value)) (s : Session) :
    settingsWith arguments s =
      ⟨s, [], [], (Config.loadSettings s.loaded s.host.environment arguments).mapError stopOf⟩ := by
  rw [settingsWith, session_bind, ofObstacle_eq]

end Act

namespace Step

/-- The call of a step. -/
def act : Step → Act Unit
  | alter f => Act.change fun s => { s with host := f s.host }
  | settings => Act.settings.quiet
  | reloadSettings => Act.reloadSettings.quiet
  | clearSettings => Act.clearSettings
  | settingsWith arguments => (Act.settingsWith arguments).quiet
  | defaultEvaluator thread => (Act.defaultEvaluator thread).quiet
  | resetDefault thread => Act.resetDefault thread
  | evaluateDefault thread rule bindings => (Act.evaluateDefault thread rule bindings).quiet
  | evaluate config rule bindings => (Act.evaluate config rule bindings).quiet
  | evaluateSingle config field value name => (Act.evaluateSingle config field value name).quiet
  | validate rule => (Act.validate rule).quiet
  | setUpLogging level format redacts => Act.setUpLoggingByData level format redacts
  | bootstrap arguments => (Act.bootstrap arguments).quiet
  | log e => Act.log e

end Step

namespace Session

/-- The session after a step. -/
def next (s : Session) (step : Step) : Session := (step.act s).session

/-- The session after steps. -/
def after (s : Session) (steps : List Step) : Session := steps.foldl next s

@[simp] theorem after_nil (s : Session) : s.after [] = s := rfl

theorem after_append (s : Session) (steps more : List Step) : s.after (steps ++ more) = (s.after steps).after more :=
  List.foldl_append

theorem after_append_singleton (s : Session) (steps : List Step) (step : Step) :
    s.after (steps ++ [step]) = (s.after steps).next step :=
  after_append s steps [step]

end Session

/-! ### What happened in a session -/

section History

variable (starts : Session → Step → Prop) (ends : Step → Prop)

/-- A step of a certain kind was taken. -/
def Once (s : Session) (steps : List Step) : Prop :=
  ∃ before step later, steps = before ++ step :: later ∧ starts (s.after before) step

/-- A step of a certain kind was taken, and none behind it ends what it started. -/
def Since (s : Session) (steps : List Step) : Prop :=
  ∃ before step later, steps = before ++ step :: later ∧ starts (s.after before) step ∧ ∀ l ∈ later, ¬ends l

variable {starts ends} {s : Session} {steps : List Step}

theorem not_since_nil : ¬Since starts ends s [] := by
  rintro ⟨before, step, later, h, -⟩
  exact absurd h (by simp)

theorem since_append_singleton {step : Step} :
    Since starts ends s (steps ++ [step]) ↔ Since starts ends s steps ∧ ¬ends step ∨ starts (s.after steps) step := by
  constructor
  · rintro ⟨before, x, later, h, hstart, hlater⟩
    rcases List.eq_nil_or_concat later with rfl | ⟨later, y, rfl⟩
    · obtain ⟨rfl, hx⟩ := List.append_inj' h rfl
      obtain rfl : step = x := by simpa using hx
      exact .inr hstart
    · rw [List.concat_eq_append, ← List.cons_append, ← List.append_assoc] at h
      obtain ⟨rfl, hy⟩ := List.append_inj' h rfl
      obtain rfl : step = y := by simpa using hy
      refine .inl ⟨⟨before, x, later, rfl, hstart, fun l hl => hlater l (by simp [hl])⟩, hlater step (by simp)⟩
  · rintro (⟨⟨before, x, later, rfl, hstart, hlater⟩, hstep⟩ | hstart)
    · refine ⟨before, x, later ++ [step], by simp, hstart, fun l hl => ?_⟩
      rcases List.mem_append.1 hl with hl | hl
      · exact hlater l hl
      · rwa [List.mem_singleton.1 hl]
    · exact ⟨steps, step, [], rfl, hstart, by simp⟩

/-- What a session shows is there since it was started, if each step starts it, ends it or leaves it. -/
theorem shown_iff_since {α : Type} (shows : Session → Option α) {starts : α → Session → Step → Prop}
    (hstart : shows s = none)
    (hnext : ∀ t step a, shows (t.next step) = some a ↔ shows t = some a ∧ ¬ends step ∨ starts a t step) (a : α) :
    shows (s.after steps) = some a ↔ Since (starts a) ends s steps := by
  -- from the end: the last step starts what is shown behind it, or leaves what was shown
  induction steps using List.reverseRecOn with
  | nil => simp [hstart, not_since_nil]
  | append_singleton steps step ih =>
    rw [Session.after_append_singleton, hnext, ih, since_append_singleton]

/-- Two steps of a session are the same, or one of them stands behind the other. -/
theorem same_or_behind {before before' later later' : List Step} {step step' : Step}
    (h : before ++ step :: later = before' ++ step' :: later') :
    (before = before' ∧ step = step') ∨ (∃ between, before' = before ++ step :: between) ∨
      ∃ between, before = before' ++ step' :: between := by
  rcases List.append_eq_append_iff.1 h with ⟨a, rfl, ha⟩ | ⟨a, rfl, ha⟩
  · cases a with
    | nil => exact .inl ⟨by simp, (List.cons.inj ha).1⟩
    | cons x a =>
      obtain ⟨rfl, -⟩ := List.cons.inj ha
      exact .inr (.inl ⟨a, rfl⟩)
  · cases a with
    | nil => exact .inl ⟨by simp, (List.cons.inj ha).1.symm⟩
    | cons x a =>
      obtain ⟨rfl, -⟩ := List.cons.inj ha
      exact .inr (.inr ⟨a, rfl⟩)

end History

end Rulebook
