import Rulebook.Log.Traced
import Rulebook.Proofs.Outcome

/-!
# How traced computations end

A computation in sequence ends as its parts do: in the first failure, or as the last part does. The events
only ever grow.
-/

namespace Rulebook.Traced

variable {α β : Type}

@[simp] theorem result_pure (a : α) : (pure a : Traced α).result = .ok a := rfl

@[simp] theorem result_fail (e : Failure) : (fail e : Traced α).result = .error e := rfl

@[simp] theorem result_logicError (e : LogicError) : (logicError e : Traced α).result = .error (.logic e) := rfl

@[simp] theorem result_lift (r : Except Failure α) : (lift r).result = r := rfl

@[simp] theorem result_report (source : Source) (level : Level) (name : Text) (fields : List (Text × Value)) :
    (report source level name fields).result = .ok () := rfl

@[simp] theorem result_bind (x : Traced α) (f : α → Traced β) :
    (x >>= f).result = x.result.bind fun a => (f a).result := by
  show (Traced.bind x f).result = _
  unfold Traced.bind
  cases x.result <;> rfl

/-- A step in sequence with a computation that ends in a result. -/
theorem result_bind_ok {x : Traced α} {f : α → Traced β} {a : α} (h : x.result = .ok a) :
    (x >>= f).result = (f a).result := by
  rw [result_bind, h]; rfl

/-- A step in sequence with a computation that fails. -/
theorem result_bind_error {x : Traced α} {f : α → Traced β} {e : Failure} (h : x.result = .error e) :
    (x >>= f).result = .error e := by
  rw [result_bind, h]; rfl

/-- A sequence that fails does so in its first part, or behind its result. -/
theorem result_bind_eq_error_iff {x : Traced α} {f : α → Traced β} {e : Failure} :
    (x >>= f).result = .error e ↔ x.result = .error e ∨ ∃ a, x.result = .ok a ∧ (f a).result = .error e := by
  rw [result_bind]
  exact bind_eq_error_iff

/-- All failures that the computation can end in have a property. -/
def FailsOnly (P : Failure → Prop) (x : Traced α) : Prop := ∀ e, x.result = .error e → P e

section FailsOnly
variable {P : Failure → Prop}

theorem failsOnly_pure (a : α) : FailsOnly P (pure a) := nofun

theorem failsOnly_report (source : Source) (level : Level) (name : Text) (fields : List (Text × Value)) :
    FailsOnly P (report source level name fields) := nofun

theorem failsOnly_fail {e : Failure} (h : P e) : FailsOnly P (fail e : Traced α) := by
  rintro _ ⟨⟩
  exact h

theorem FailsOnly.bind {x : Traced α} {f : α → Traced β} (hx : x.FailsOnly P) (hf : ∀ a, (f a).FailsOnly P) :
    (x >>= f).FailsOnly P := by
  intro e h
  rcases result_bind_eq_error_iff.1 h with h | ⟨a, -, h⟩
  · exact hx e h
  · exact hf a e h

/-- A failure that is reported before the computation ends in it. -/
theorem failsOnly_reported {source : Source} {level : Level} {name : Text} {fields : List (Text × Value)}
    {e : LogicError} (h : P (.logic e)) :
    FailsOnly P (do report source level name fields; (logicError e : Traced α)) :=
  .bind (failsOnly_report source level name fields) fun _ => failsOnly_fail h

end FailsOnly

/-! ### Events -/

@[simp] theorem events_pure (a : α) : (pure a : Traced α).events = [] := rfl

@[simp] theorem events_fail (e : Failure) : (fail e : Traced α).events = [] := rfl

@[simp] theorem events_lift (r : Except Failure α) : (lift r).events = [] := rfl

@[simp] theorem events_report (source : Source) (level : Level) (name : Text) (fields : List (Text × Value)) :
    (report source level name fields).events = [⟨source, level, name, fields⟩] := rfl

/-- Behind a computation that ends in a result stand the events of what goes on with it. -/
theorem events_bind_ok {x : Traced α} {f : α → Traced β} {a : α} (h : x.result = .ok a) :
    (x >>= f).events = x.events ++ (f a).events := by
  show (Traced.bind x f).events = _
  rw [Traced.bind, h]

/-- Behind a computation that fails stands nothing. -/
theorem events_bind_error {x : Traced α} {f : α → Traced β} {e : Failure} (h : x.result = .error e) :
    (x >>= f).events = x.events := by
  show (Traced.bind x f).events = _
  rw [Traced.bind, h]

/-- All events of the computation have a property. -/
def EventsOnly (P : Event → Prop) (x : Traced α) : Prop := ∀ e ∈ x.events, P e

section EventsOnly
variable {P : Event → Prop}

theorem eventsOnly_pure (a : α) : EventsOnly P (pure a) := nofun

theorem eventsOnly_fail (e : Failure) : EventsOnly P (fail e : Traced α) := nofun

theorem eventsOnly_report {source : Source} {level : Level} {name : Text} {fields : List (Text × Value)}
    (h : P ⟨source, level, name, fields⟩) : EventsOnly P (report source level name fields) := by
  intro e he
  obtain rfl := List.mem_singleton.1 he
  exact h

theorem EventsOnly.bind {x : Traced α} {f : α → Traced β} (hx : x.EventsOnly P) (hf : ∀ a, (f a).EventsOnly P) :
    (x >>= f).EventsOnly P := by
  intro e he
  cases h : x.result with
  | ok a =>
    rw [events_bind_ok h, List.mem_append] at he
    exact he.elim (hx e) (hf a e)
  | error f =>
    rw [events_bind_error h] at he
    exact hx e he

end EventsOnly

end Rulebook.Traced
