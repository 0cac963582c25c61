import Rulebook.Proofs.Comparison.Caught
import Rulebook.Proofs.Rule.Grammar
import Rulebook.Proofs.Rule.Reached

/-!
# What the events of an evaluation tell

An evaluation reports one event for each comparison that comes to an end, one for the condition that does not hold, and
one for the error that it ends in. So its events tell how it ended, and where.
-/

namespace Rulebook
open Traced

/-- The event that reports the comparison of a condition. -/
inductive Condition.Compared (c : Condition) : Event → Prop
  | relation (h : c.comparison.operator ≠ .search) (expression : Text) :
      Compared c ⟨.comparator, .debug, "rule_comparison",
        [("expression", .text expression), ("operator", .text c.comparison.operator.spelling)]⟩
  | search (h : c.comparison.operator = .search) (field pattern : Text) :
      Compared c ⟨.comparator, .debug, "rule_regex_match", [("field", .text field), ("pattern", .text pattern)]⟩

/-- The event that reports the condition at a place, which does not hold. -/
def Condition.failedAt (c : Condition) (index : Nat) : Event :=
  ⟨.evaluator, .debug, "rule_condition_failed",
    [("index", .int index), ("operator", .text c.comparison.operator.spelling), ("negated", .bool c.field.negated)]⟩

/-- The event that reports the error of a rule. -/
def LogicError.reported (e : LogicError) : Event :=
  ⟨.evaluator, .error, "rule_evaluation_error", [("error_type", .text e.errorClass.label), ("error", .text e.message)]⟩

/-- The names of the events that report how an evaluation ends. -/
def endingNames : List Text := ["rule_condition_failed", "rule_evaluation_error"]

/-- The event reports neither a condition that does not hold nor an error that the evaluation ends in. -/
def Event.IsInner (e : Event) : Prop := e.name ∉ endingNames

variable {config : LogicConfig} {bindings : Value} {limit : Int} {field value : Text} {op : Operator}

/-! ### What a comparison reports -/

theorem eventsOnly_reportInner {source : Source} {level : Level} {name : Text} {fields : List (Text × Value)}
    (h : name ∉ endingNames) : (report source level name fields).EventsOnly Event.IsInner :=
  eventsOnly_report h

/-- An error that is reported, under a name of its own, before the computation ends in it. -/
theorem eventsOnly_reported {α : Type} {source : Source} {level : Level} {name : Text} {fields : List (Text × Value)}
    (h : name ∉ endingNames) (e : LogicError) :
    EventsOnly Event.IsInner (do report source level name fields; (logicError e : Traced α)) :=
  .bind (eventsOnly_reportInner h) fun _ => eventsOnly_fail _

theorem eventsOnly_renderOperand (t : Text) (op : Operator) : (renderOperand t op).EventsOnly Event.IsInner := by
  unfold renderOperand
  split
  · exact eventsOnly_pure _
  · split
    · exact eventsOnly_pure _
    · split
      · exact eventsOnly_pure _
      · exact eventsOnly_reported (by decide) _

theorem eventsOnly_evaluatePolicy (expression : Text) : (evaluatePolicy expression).EventsOnly Event.IsInner := by
  rw [evaluatePolicy_eq]
  split
  · exact eventsOnly_pure _
  · exact eventsOnly_reported (by decide) _

theorem eventsOnly_relate (field value : Text) (op : Operator) : (relate field value op).EventsOnly Event.IsInner :=
  .bind (eventsOnly_renderOperand field op) fun _ => .bind (eventsOnly_renderOperand value op) fun _ =>
    .bind (eventsOnly_reportInner (by decide)) fun _ => .bind (eventsOnly_evaluatePolicy _) fun _ => eventsOnly_pure _

theorem eventsOnly_searchPattern (limit : Int) (field pattern : Text) :
    (searchPattern limit field pattern).EventsOnly Event.IsInner := by
  unfold searchPattern
  split
  · exact eventsOnly_reported (by decide) _
  · split
    · exact eventsOnly_reported (by decide) _
    · split
      · split
        · exact eventsOnly_reported (by decide) _
        · exact eventsOnly_fail _
      · exact .bind (eventsOnly_reportInner (by decide)) fun _ => eventsOnly_pure _

theorem eventsOnly_compareTexts (limit : Int) (field value : Text) (op : Operator) (negate : Bool) :
    (compareTexts limit field value op negate).EventsOnly Event.IsInner := by
  unfold compareTexts
  cases op.isRegex with
  | true => exact .bind (eventsOnly_searchPattern limit field value) fun _ => eventsOnly_pure _
  | false => exact .bind (eventsOnly_relate field value op) fun _ => eventsOnly_pure _

theorem interpolationEvent?_not_mem {kind : FaultKind} {name : String} (h : interpolationEvent? kind = some name) :
    (name : Text) ∉ endingNames := by
  cases kind <;> cases h <;> decide

theorem eventsOnly_interpolate (policy : UndefinedPolicy) (token : Text) (bindings : Value) :
    (interpolate policy token bindings).EventsOnly Event.IsInner := by
  unfold interpolate
  split
  · split
    · exact eventsOnly_pure _
    · split
      · next h => exact eventsOnly_reported (interpolationEvent?_not_mem h) _
      · exact eventsOnly_fail _
  · exact eventsOnly_pure _

theorem eventsOnly_holds (config : LogicConfig) (bindings : Value) (c : Condition) :
    (c.holds config bindings).EventsOnly Event.IsInner :=
  .bind (eventsOnly_interpolate _ _ _) fun _ => .bind (eventsOnly_interpolate _ _ _) fun _ =>
    eventsOnly_compareTexts _ _ _ _ _

/-! ### What a comparison that comes to an end reports -/

/-- A token that stands for a text is interpolated without an event. -/
theorem events_interpolate {policy : UndefinedPolicy} {token t : Text} :
    (interpolate policy token bindings).result = .ok t → (interpolate policy token bindings).events = [] := by
  unfold interpolate
  split
  · split
    · exact fun _ => rfl
    · split <;> (intro h; cases h)
  · exact fun _ => rfl

theorem events_renderOperand {t literal : Text} :
    (renderOperand t op).result = .ok literal → (renderOperand t op).events = [] := by
  unfold renderOperand
  split
  · exact fun _ => rfl
  · split
    · exact fun _ => rfl
    · split
      · exact fun _ => rfl
      · intro h
        cases h

theorem events_evaluatePolicy {expression : Text} {v : Value} :
    (evaluatePolicy expression).result = .ok v → (evaluatePolicy expression).events = [] := by
  rw [evaluatePolicy_eq]
  split
  · exact fun _ => rfl
  · nofun

/-- A relation between two texts reports the expression that it evaluates. -/
theorem exists_events_relate {b : Bool} (h : (relate field value op).result = .ok b) :
    ∃ expression : Text, (relate field value op).events =
      [⟨.comparator, .debug, "rule_comparison", [("expression", .text expression), ("operator", .text op.spelling)]⟩] := by
  unfold relate at h ⊢
  rw [result_bind] at h
  obtain ⟨left, hleft, h⟩ := bind_eq_ok_iff.1 h
  rw [result_bind] at h
  obtain ⟨right, hright, h⟩ := bind_eq_ok_iff.1 h
  rw [result_bind_ok rfl, result_bind] at h
  obtain ⟨v, hv, -⟩ := bind_eq_ok_iff.1 h
  rw [events_bind_ok hleft, events_bind_ok hright, events_bind_ok rfl, events_bind_ok hv, events_renderOperand hleft,
    events_renderOperand hright, events_evaluatePolicy hv]
  exact ⟨_, rfl⟩

theorem events_searchPattern {b : Bool} :
    (searchPattern limit field value).result = .ok b → (searchPattern limit field value).events =
      [⟨.comparator, .debug, "rule_regex_match", [("field", .text field), ("pattern", .text value)]⟩] := by
  unfold searchPattern
  split
  · nofun
  · split
    · nofun
    · split
      · split <;> nofun
      · exact fun _ => rfl

/-- A condition that ends in a truth value reports its comparison and nothing else. -/
theorem exists_compared_of_holds {c : Condition} {b : Bool} (h : (c.holds config bindings).result = .ok b) :
    ∃ event, c.Compared event ∧ (c.holds config bindings).events = [event] := by
  obtain ⟨field, value, hfield, hvalue⟩ := exists_resolves_of_holds h
  have hcompare := (Condition.Resolves.result_holds ⟨hfield, hvalue⟩).symm.trans h
  rw [Condition.holds, events_bind_ok hfield, events_bind_ok hvalue, events_interpolate hfield,
    events_interpolate hvalue, List.nil_append, List.nil_append]
  unfold compareTexts at hcompare ⊢
  by_cases hop : c.comparison.operator = .search
  · rw [if_pos (Operator.isRegex_iff.2 hop)] at hcompare ⊢
    rw [result_bind] at hcompare
    obtain ⟨found, hfound, -⟩ := bind_eq_ok_iff.1 hcompare
    rw [events_bind_ok hfound, events_searchPattern hfound]
    exact ⟨_, .search hop field value, rfl⟩
  · have hregex : ¬c.comparison.operator.isRegex = true := fun h => hop (Operator.isRegex_iff.1 h)
    rw [if_neg hregex] at hcompare ⊢
    rw [result_bind] at hcompare
    obtain ⟨related, hrelated, -⟩ := bind_eq_ok_iff.1 hcompare
    obtain ⟨expression, hevents⟩ := exists_events_relate hrelated
    rw [events_bind_ok hrelated, hevents]
    exact ⟨_, .relation hop expression, rfl⟩

/-! ### What the conditions of a rule report -/

section conditions
variable {index : Nat} {c : Condition} {rest conditions : List Condition}

theorem events_allHold_cons_true (h : (c.holds config bindings).result = .ok true) :
    (allHold config bindings index (c :: rest)).events =
      (c.holds config bindings).events ++ (allHold config bindings (index + 1) rest).events := by
  rw [allHold, events_bind_ok h, if_pos rfl]

theorem events_allHold_cons_false (h : (c.holds config bindings).result = .ok false) :
    (allHold config bindings index (c :: rest)).events = (c.holds config bindings).events ++ [c.failedAt index] := by
  rw [allHold, events_bind_ok h]
  rfl

theorem events_allHold_cons_error {e : Failure} (h : (c.holds config bindings).result = .error e) :
    (allHold config bindings index (c :: rest)).events = (c.holds config bindings).events := by
  rw [allHold, events_bind_error h]

/-- Conditions that all hold report one comparison each, in order. -/
theorem compared_of_allHold_true (h : (allHold config bindings index conditions).result = .ok true) :
    List.Forall₂ Condition.Compared conditions (allHold config bindings index conditions).events := by
  induction conditions generalizing index with
  | nil => exact .nil
  | cons c rest ih =>
    rw [result_allHold_cons] at h
    obtain ⟨b, hc, h⟩ := bind_eq_ok_iff.1 h
    cases b with
    | false => cases h
    | true =>
      obtain ⟨event, hevent, hevents⟩ := exists_compared_of_holds hc
      rw [events_allHold_cons_true hc, hevents]
      exact .cons hevent (ih h)

/-- Conditions that do not all hold report the comparisons up to the first that does not hold, and then that one. -/
theorem events_of_allHold_false (h : (allHold config bindings index conditions).result = .ok false) :
    ∃ before c after compared, conditions = before ++ c :: after ∧
      (∀ b ∈ before, (b.holds config bindings).result = .ok true) ∧ (c.holds config bindings).result = .ok false ∧
      List.Forall₂ Condition.Compared (before ++ [c]) compared ∧
      (allHold config bindings index conditions).events = compared ++ [c.failedAt (index + before.length)] := by
  induction conditions generalizing index with
  | nil => cases h
  | cons c rest ih =>
    rw [result_allHold_cons] at h
    obtain ⟨b, hc, h⟩ := bind_eq_ok_iff.1 h
    obtain ⟨event, hevent, hevents⟩ := exists_compared_of_holds hc
    cases b with
    | false =>
      refine ⟨[], c, rest, [event], rfl, nofun, hc, .cons hevent .nil, ?_⟩
      rw [events_allHold_cons_false hc, hevents]
      rfl
    | true =>
      obtain ⟨before, d, after, compared, rfl, hbefore, hd, hcompared, hrest⟩ := ih h
      refine ⟨c :: before, d, after, event :: compared, rfl, List.forall_mem_cons.2 ⟨hc, hbefore⟩, hd,
        .cons hevent hcompared, ?_⟩
      rw [events_allHold_cons_true hc, hevents, hrest, List.length_cons, Nat.add_right_comm, Nat.add_assoc]
      rfl

/-- Conditions that end in a failure do not report one that does not hold. -/
theorem eventsOnly_of_allHold_error {e : Failure} (h : (allHold config bindings index conditions).result = .error e) :
    (allHold config bindings index conditions).EventsOnly Event.IsInner := by
  induction conditions generalizing index with
  | nil => cases h
  | cons c rest ih =>
    have hfirst := eventsOnly_holds config bindings c
    rw [result_allHold_cons] at h
    rcases bind_eq_error_iff.1 h with hc | ⟨b, hc, h⟩
    · intro event hevent
      rw [events_allHold_cons_error hc] at hevent
      exact hfirst event hevent
    · cases b with
      | false => cases h
      | true =>
        intro event hevent
        rw [events_allHold_cons_true hc, List.mem_append] at hevent
        exact hevent.elim (hfirst event) (ih h event)

end conditions

/-! ### What an evaluation reports -/

section evaluation
variable {data : Value}

theorem events_reportingErrors_ok {x : Traced Bool} {b : Bool} (h : x.result = .ok b) :
    (reportingErrors x).events = x.events := by
  rw [reportingErrors, h]

theorem events_reportingErrors_error {x : Traced Bool} {e : LogicError} (h : x.result = .error (.logic e)) :
    (reportingErrors x).events = x.events ++ [e.reported] := by
  rw [reportingErrors, h]
  rfl

/-- An evaluation that ends in a truth value reports what the conditions of its rule report. -/
theorem events_evaluateRule_ok {b : Bool} (h : (evaluateRule config data bindings).result = .ok b) :
    ∃ r, Rule.ofData data = .ok r ∧
      (allHold config (variablesOrNone bindings) 0 r.conditions).result = .ok b ∧
      (evaluateRule config data bindings).events =
        (allHold config (variablesOrNone bindings) 0 r.conditions).events := by
  rw [evaluateRule, result_reportingErrors] at h
  rw [evaluateRule, events_reportingErrors_ok h]
  rw [result_bind] at h
  obtain ⟨r, hr, h⟩ := bind_eq_ok_iff.1 h
  exact ⟨r, hr, h, by rw [events_bind_ok hr]; rfl⟩

/-- The events of an evaluation tell how it ended: a rule that holds reports one comparison for each condition; one that
does not hold, the comparisons up to the first condition that does not hold, and then that condition; an error, itself at
the end and nowhere else. -/
theorem evaluateRule_events (config : LogicConfig) (data bindings : Value) :
    ((evaluateRule config data bindings).result = .ok true →
      ∃ r, Rule.ofData data = .ok r ∧
        List.Forall₂ Condition.Compared r.conditions (evaluateRule config data bindings).events) ∧
    ((evaluateRule config data bindings).result = .ok false →
      ∃ r before c after compared, Rule.ofData data = .ok r ∧ r.conditions = before ++ c :: after ∧
        (∀ b ∈ before, (b.holds config (variablesOrNone bindings)).result = .ok true) ∧
        (c.holds config (variablesOrNone bindings)).result = .ok false ∧
        List.Forall₂ Condition.Compared (before ++ [c]) compared ∧
        (evaluateRule config data bindings).events = compared ++ [c.failedAt before.length]) ∧
    ∀ e : LogicError, (evaluateRule config data bindings).result = .error (.logic e) →
      ∃ earlier, (evaluateRule config data bindings).events = earlier ++ [e.reported] ∧
        ∀ event ∈ earlier, event.name ≠ "rule_condition_failed" ∧ event.name ≠ "rule_evaluation_error" := by
  refine ⟨fun h => ?_, fun h => ?_, fun e h => ?_⟩
  · obtain ⟨r, hr, hconditions, hevents⟩ := events_evaluateRule_ok h
    rw [hevents]
    exact ⟨r, hr, compared_of_allHold_true hconditions⟩
  · obtain ⟨r, hr, hconditions, hevents⟩ := events_evaluateRule_ok h
    obtain ⟨before, c, after, compared, hsplit, hbefore, hc, hcompared, htold⟩ := events_of_allHold_false hconditions
    rw [Nat.zero_add] at htold
    exact ⟨r, before, c, after, compared, hr, hsplit, hbefore, hc, hcompared, hevents.trans htold⟩
  · rw [evaluateRule, result_reportingErrors] at h
    have hinner : EventsOnly Event.IsInner (do
        let parsed ← lift (Rule.ofData data)
        allHold config (variablesOrNone bindings) 0 parsed.conditions) := by
      rcases result_bind_eq_error_iff.1 h with hread | ⟨r, hr, hconditions⟩
      · intro event hevent
        rw [events_bind_error hread] at hevent
        cases hevent
      · intro event hevent
        rw [events_bind_ok hr] at hevent
        exact eventsOnly_of_allHold_error hconditions event hevent
    refine ⟨_, events_reportingErrors_error h, fun event hevent => ?_⟩
    have hname := hinner event hevent
    rw [Event.IsInner, endingNames, List.mem_cons, List.mem_singleton, not_or] at hname
    exact hname

/-- A rule that holds, one whose second condition does not, and one with a pattern that is too long. -/
theorem evaluateRule_events_outcomes :
    (∃ r, Rule.ofData (.list [.text "a", .text "a"]) = .ok r ∧
      List.Forall₂ Condition.Compared r.conditions
        (evaluateRule .standard (.list [.text "a", .text "a"]) (.mapping [])).events) ∧
    (∃ r before c after compared, Rule.ofData (.list [.text "a", .text "a", .text "!b", .text "b"]) = .ok r ∧
      r.conditions = before ++ c :: after ∧
      (∀ b ∈ before, (b.holds .standard (.mapping [])).result = .ok true) ∧
      (c.holds .standard (.mapping [])).result = .ok false ∧
      List.Forall₂ Condition.Compared (before ++ [c]) compared ∧
      (evaluateRule .standard (.list [.text "a", .text "a", .text "!b", .text "b"]) (.mapping [])).events =
        compared ++ [c.failedAt before.length]) ∧
    ∃ earlier,
      (evaluateRule ⟨.strict, 0⟩ (.list [.text "a", .text "a", .text "a", .mapping [(.text "=~", .text "a")]])
        (.mapping [])).events = earlier ++ [(LogicError.patternTooLong 0 "a").reported] ∧
      ∀ event ∈ earlier, event.name ≠ "rule_condition_failed" ∧ event.name ≠ "rule_evaluation_error" :=
  ⟨(evaluateRule_events .standard _ _).1 (by decide +kernel),
    (evaluateRule_events .standard _ (.mapping [])).2.1 (by decide +kernel),
    (evaluateRule_events ⟨.strict, 0⟩ _ _).2.2 _ (by decide +kernel)⟩

end evaluation

end Rulebook
