import Rulebook.Proofs.Outcome
import Rulebook.Proofs.Text.Digits
import Rulebook.Value.Printer

/-!
# Which values are shown

A value is shown unless an integer of more than 4300 digits stands somewhere among what is shown of it.
-/

namespace Rulebook

/-- The integer has more digits than are written out. -/
def TooManyDigits (n : Int) : Prop := maxIntegerDigits < (Text.ofNat n.natAbs).length

/-- Ninety-three binary digits make at most twenty-eight decimal ones. -/
theorem log_lt_of_log2_lt {n k : Nat} (hk : 0 < k) (h : n.log2 < 93 * k) : Nat.log 10 n < 28 * k := by
  by_cases hn : n = 0
  · rw [hn, Nat.log_zero_right]
    omega
  refine Nat.log_lt_of_lt_pow hn ?_
  calc n < 2 ^ (93 * k) := (Nat.log2_lt hn).1 h
    _ = (2 ^ 93) ^ k := Nat.pow_mul _ _ _
    _ ≤ (10 ^ 28) ^ k := Nat.pow_le_pow_left (by decide) _
    _ = 10 ^ (28 * k) := (Nat.pow_mul _ _ _).symm

/-- A number below the threshold that spares counting has few digits. -/
theorem length_ofNat_of_log2_lt {n : Nat} (h : n.log2 < 14000) : (Text.ofNat n).length ≤ maxIntegerDigits := by
  rw [Text.length_ofNat]
  exact Nat.le_trans (log_lt_of_log2_lt (k := 151) (by decide) (Nat.lt_trans h (by decide))) (by decide)

/-- An integer is written out unless it has too many digits. -/
theorem integerText_eq_error_iff {n : Int} {f : Fault} :
    integerText n = .error f ↔ f = Fault.tooManyDigits ∧ TooManyDigits n := by
  unfold integerText
  dsimp only
  split
  · next h =>
    have hfew : ¬TooManyDigits n := Nat.not_lt.2 (length_ofNat_of_log2_lt h)
    simp [hfew]
  · split
    · next h =>
      have hfew : ¬TooManyDigits n := Nat.not_lt.2 h
      simp [hfew]
    · next h =>
      have hmany : TooManyDigits n := Nat.lt_of_not_le h
      simp [hmany, eq_comm]

theorem integerText_of_not_tooManyDigits {n : Int} (h : ¬TooManyDigits n) : integerText n = .ok (Text.ofInt n) := by
  have hfew : (Text.ofNat n.natAbs).length ≤ maxIntegerDigits := Nat.le_of_not_lt h
  simp [integerText, hfew]

namespace Value

/-- The values that are shown as parts of a value. -/
def parts : Value → List Value
  | list items => items
  | tuple items => items
  | set items => items
  | frozenSet items => items
  | view _ items => items
  | mapping entries => entries.flatMap fun e => [e.1, e.2]
  | _ => []

/-- An integer with too many digits stands among what is shown of the value. -/
inductive ShowsTooMany : Value → Prop
  | int {n : Int} (h : TooManyDigits n) : ShowsTooMany (int n)
  | part {v w : Value} (hmem : w ∈ v.parts) (h : ShowsTooMany w) : ShowsTooMany v

theorem showsTooMany_int_iff {n : Int} : ShowsTooMany (int n) ↔ TooManyDigits n := by
  refine ⟨fun h => ?_, .int⟩
  cases h with
  | int h => exact h
  | part hmem => exact absurd hmem List.not_mem_nil

theorem showsTooMany_iff_parts {v : Value} (hv : ∀ n, v ≠ int n) :
    ShowsTooMany v ↔ ∃ w ∈ v.parts, ShowsTooMany w := by
  refine ⟨fun h => ?_, fun ⟨_, hmem, h⟩ => .part hmem h⟩
  cases h with
  | int => exact absurd rfl (hv _)
  | part hmem h => exact ⟨_, hmem, h⟩

mutual

/-- A value is shown unless an integer with too many digits stands in it. -/
theorem display_eq_error_iff (v : Value) {f : Fault} :
    v.display = .error f ↔ f = Fault.tooManyDigits ∧ ShowsTooMany v := by
  cases v with
  | int n => rw [display, integerText_eq_error_iff, showsTooMany_int_iff]
  | list items =>
    rw [display, bind_pure_eq_error_iff, displayAll_eq_error_iff, showsTooMany_iff_parts (by simp)]
    rfl
  | tuple items =>
    rw [display, bind_pure_eq_error_iff, displayAll_eq_error_iff, showsTooMany_iff_parts (by simp)]
    rfl
  | set items =>
    rw [display, bind_pure_eq_error_iff, displayAll_eq_error_iff, showsTooMany_iff_parts (by simp)]
    rfl
  | frozenSet items =>
    rw [display, bind_pure_eq_error_iff, displayAll_eq_error_iff, showsTooMany_iff_parts (by simp)]
    rfl
  | view kind items =>
    rw [display, bind_pure_eq_error_iff, displayAll_eq_error_iff, showsTooMany_iff_parts (by simp)]
    rfl
  | mapping entries =>
    rw [display, bind_pure_eq_error_iff, displayEntries_eq_error_iff, showsTooMany_iff_parts (by simp)]
    simp only [parts, List.mem_flatMap, List.mem_cons, List.not_mem_nil, or_false]
    grind
  | _ =>
    rw [showsTooMany_iff_parts (by simp)]
    exact ⟨nofun, fun ⟨_, _, hmem, _⟩ => absurd hmem List.not_mem_nil⟩

theorem displayAll_eq_error_iff (items : List Value) {done : List Text} {f : Fault} :
    displayAll items done = .error f ↔ f = Fault.tooManyDigits ∧ ∃ v ∈ items, ShowsTooMany v := by
  cases items with
  | nil => simp [displayAll]
  | cons v rest =>
    have hv := fun f => display_eq_error_iff v (f := f)
    rw [displayAll]
    cases hdisplay : v.display with
    | error e =>
      obtain ⟨rfl, hmany⟩ := (hv e).1 hdisplay
      simp [hmany, eq_comm]
    | ok t =>
      have hfew : ¬ShowsTooMany v := fun h => by
        rw [(hv _).2 ⟨rfl, h⟩] at hdisplay
        cases hdisplay
      simp [displayAll_eq_error_iff rest, hfew]

theorem displayEntries_eq_error_iff (entries : List (Value × Value)) {done : List Text} {f : Fault} :
    displayEntries entries done = .error f ↔
      f = Fault.tooManyDigits ∧ ∃ e ∈ entries, ShowsTooMany e.1 ∨ ShowsTooMany e.2 := by
  cases entries with
  | nil => simp [displayEntries]
  | cons e rest =>
    obtain ⟨k, v⟩ := e
    have hk := fun f => display_eq_error_iff k (f := f)
    have hv := fun f => display_eq_error_iff v (f := f)
    rw [displayEntries]
    cases hkey : k.display with
    | error e =>
      obtain ⟨rfl, hmany⟩ := (hk e).1 hkey
      simp [hmany, eq_comm]
    | ok a =>
      have hfewk : ¬ShowsTooMany k := fun h => by
        rw [(hk _).2 ⟨rfl, h⟩] at hkey
        cases hkey
      cases hvalue : v.display with
      | error e =>
        obtain ⟨rfl, hmany⟩ := (hv e).1 hvalue
        simp [hmany, eq_comm]
      | ok b =>
        have hfewv : ¬ShowsTooMany v := fun h => by
          rw [(hv _).2 ⟨rfl, h⟩] at hvalue
          cases hvalue
        simp [displayEntries_eq_error_iff rest, hfewk, hfewv]

end

end Value

end Rulebook
