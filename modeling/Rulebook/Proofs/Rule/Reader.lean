import Rulebook.Proofs.Value.Display
import Rulebook.Rule.Reader

/-!
# Which rule data is read

Rule data is read or refused with an error of rules, with one exception: an integer of more than 4300 digits that
is to be written out, as a scalar or in a message about the data, and that no earlier offence hides.
-/

namespace Rulebook

namespace Value

/-- The value is an integer with too many digits. -/
def IsTooMany (v : Value) : Prop := ∃ n, v = int n ∧ TooManyDigits n

/-- The comparand is read as far as an integer with too many digits: it is one itself, or has one as the name of its
operator or behind such a name, or it is a mapping of the wrong size that shows one. -/
def ComparandTooMany : Value → Prop
  | mapping [(k, comparand)] =>
    k.IsTooMany ∨
      (∃ name op, scalarText .operator k = .ok name ∧ parseOperator name = .ok op) ∧ comparand.IsTooMany
  | mapping entries => ShowsTooMany (mapping entries)
  | v => v.IsTooMany

/-- The elements are read as far as an integer with too many digits. -/
def PairsTooMany : List Value → Prop
  | f :: c :: rest =>
    f.IsTooMany ∨
      (∃ raw, scalarText .field f = .ok raw) ∧
        (c.ComparandTooMany ∨ (∃ comparison, parseComparison c = .ok comparison) ∧ PairsTooMany rest)
  | _ => False

/-- The rule data is read as far as an integer with too many digits. -/
def RuleTooMany (data : Value) : Prop :=
  match data.asSequence? with
  | none => ShowsTooMany data
  | some items => items.length % 2 = 0 ∧ PairsTooMany items

end Value

variable {f : Fault}

@[simp] theorem liftFault_eq_fault_iff {α : Type} {x : Except Fault α} :
    liftFault x = .error (.fault f) ↔ x = .error f := by
  cases x <;> simp [liftFault]

theorem liftLogic_ne_fault {α : Type} (x : Except LogicError α) : liftLogic x ≠ .error (.fault f) := by
  cases x <;> simp [liftLogic]

theorem parseOperator_ne_fault (name : Text) : parseOperator name ≠ .error (.fault f) := by
  unfold parseOperator
  split <;> simp

/-- A scalar is refused with an error of rules, unless it is an integer with too many digits. -/
theorem scalarText_eq_fault_iff (role : Role) {v : Value} :
    scalarText role v = .error (.fault f) ↔ f = Fault.tooManyDigits ∧ v.IsTooMany := by
  cases v with
  | int n =>
    rw [scalarText, liftFault_eq_fault_iff, integerText_eq_error_iff]
    exact and_congr_right fun _ => ⟨fun h => ⟨n, rfl, h⟩, fun ⟨_, hn, h⟩ => Value.int.inj hn ▸ h⟩
  | _ => simp [scalarText, Value.IsTooMany]

theorem parseComparison_eq_fault_iff {v : Value} :
    parseComparison v = .error (.fault f) ↔ f = Fault.tooManyDigits ∧ v.ComparandTooMany := by
  unfold parseComparison
  split
  · next k comparand =>
    rw [Value.ComparandTooMany]
    constructor
    · intro h
      rcases bind_eq_error_iff.1 h with h | ⟨name, hname, h⟩
      · obtain ⟨rfl, hk⟩ := (scalarText_eq_fault_iff _).1 h
        exact ⟨rfl, .inl hk⟩
      rcases bind_eq_error_iff.1 h with h | ⟨op, hop, h⟩
      · exact absurd h (parseOperator_ne_fault _)
      rcases bind_eq_error_iff.1 h with h | ⟨value, -, h⟩
      · obtain ⟨rfl, hc⟩ := (scalarText_eq_fault_iff _).1 h
        exact ⟨rfl, .inr ⟨⟨name, op, hname, hop⟩, hc⟩⟩
      split at h
      · rcases bind_eq_error_iff.1 h with h | ⟨_, -, h⟩
        · exact absurd h (liftLogic_ne_fault _)
        · cases h
      · cases h
    · rintro ⟨rfl, hk | ⟨⟨name, op, hname, hop⟩, hc⟩⟩
      · exact bind_eq_error_iff.2 (.inl ((scalarText_eq_fault_iff _).2 ⟨rfl, hk⟩))
      · rw [hname, ok_bind, hop, ok_bind, (scalarText_eq_fault_iff _).2 ⟨rfl, hc⟩, error_bind]
  · next entries hsize =>
    have hcomparand : (Value.mapping entries).ComparandTooMany ↔ Value.ShowsTooMany (.mapping entries) := by
      rw [Value.ComparandTooMany.eq_2 _ hsize]
    rw [hcomparand, ← Value.display_eq_error_iff, ← liftFault_eq_fault_iff, bind_eq_error_iff]
    refine or_iff_left ?_
    rintro ⟨_, -, h⟩
    cases h
  · next hsingle hmapping =>
    rw [Value.ComparandTooMany.eq_3 _ hsingle hmapping]
    split
    · next hcollection =>
      constructor
      · intro h
        cases h
      · rintro ⟨-, n, rfl, -⟩
        cases hcollection
    · rw [bind_pure_eq_error_iff, scalarText_eq_fault_iff]

theorem parseConditions_eq_fault_iff {items : List Value} {done : List Condition} :
    parseConditions items done = .error (.fault f) ↔ f = Fault.tooManyDigits ∧ Value.PairsTooMany items := by
  induction items, done using parseConditions.induct with
  | case1 field comparand rest done e he =>
    have hfield : e = .fault f ↔ f = Fault.tooManyDigits ∧ field.IsTooMany := by
      rw [← scalarText_eq_fault_iff .field, he, Except.error.injEq]
    have hnot : ¬∃ raw, scalarText .field field = .ok raw := by simp [he]
    rw [parseConditions, he, Value.PairsTooMany, Except.error.injEq, hfield]
    simp only [hnot, false_and, or_false]
  | case2 field comparand rest done raw hraw e he =>
    have hfield : ¬field.IsTooMany := fun h => by
      rw [(scalarText_eq_fault_iff _).2 ⟨rfl, h⟩] at hraw
      cases hraw
    have hcomparand : e = .fault f ↔ f = Fault.tooManyDigits ∧ comparand.ComparandTooMany := by
      rw [← parseComparison_eq_fault_iff, he, Except.error.injEq]
    have hnot : ¬∃ comparison, parseComparison comparand = .ok comparison := by simp [he]
    have hfound : ∃ raw, scalarText .field field = .ok raw := ⟨raw, hraw⟩
    rw [parseConditions, hraw, Value.PairsTooMany]
    simp only [hnot, hfield, hfound, false_or, false_and, or_false, true_and]
    simp only [he, Except.error.injEq, hcomparand]
  | case3 field comparand rest done raw hraw comparison hcomparison ih =>
    have hfield : ¬field.IsTooMany := fun h => by
      rw [(scalarText_eq_fault_iff _).2 ⟨rfl, h⟩] at hraw
      cases hraw
    have hcomparand : ¬comparand.ComparandTooMany := fun h => by
      rw [parseComparison_eq_fault_iff.2 ⟨rfl, h⟩] at hcomparison
      cases hcomparison
    have hfound : ∃ raw, scalarText .field field = .ok raw := ⟨raw, hraw⟩
    have hread : ∃ comparison, parseComparison comparand = .ok comparison := ⟨comparison, hcomparison⟩
    rw [parseConditions, hraw, Value.PairsTooMany]
    simp only [hfield, hcomparand, hfound, hread, false_or, true_and]
    simp only [hcomparison]
    exact ih
  | case4 items done h =>
    rw [parseConditions.eq_2 _ _ h, Value.PairsTooMany.eq_2 _ h]
    simp

/-- Rule data is read or refused with an error of rules, unless an integer with too many digits comes first. -/
theorem ofData_eq_fault_iff {data : Value} :
    Rule.ofData data = .error (.fault f) ↔ f = Fault.tooManyDigits ∧ data.RuleTooMany := by
  unfold Rule.ofData Value.RuleTooMany
  split
  · refine ⟨nofun, fun h => ?_⟩
    obtain ⟨w, hmem, -⟩ := (Value.showsTooMany_iff_parts (by simp)).1 h.2
    exact absurd hmem List.not_mem_nil
  · cases data.asSequence? with
    | none =>
      dsimp only
      rw [← Value.display_eq_error_iff, ← liftFault_eq_fault_iff, bind_eq_error_iff]
      exact or_iff_left fun ⟨_, _, h⟩ => nomatch h
    | some items =>
      dsimp only
      split
      · next hodd => exact ⟨nofun, fun h => absurd (hodd.symm.trans h.2.1) (by decide)⟩
      · next heven =>
        rw [bind_pure_eq_error_iff, parseConditions_eq_fault_iff]
        exact and_congr_right fun _ => (and_iff_right (by omega)).symm

end Rulebook
