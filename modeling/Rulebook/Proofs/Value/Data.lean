import Rulebook.Proofs.Value.Display
import Rulebook.Rule.Reader

/-!
# Plain data

The values that configuration data is made of: null, truth values, numbers, texts, bytes, dates and times, and
collections of them. No integer among them has more than 4300 digits, so that all of them are shown.
-/

namespace Rulebook

theorem TooManyDigits.mono {m n : Int} (h : TooManyDigits m) (hle : m.natAbs ≤ n.natAbs) : TooManyDigits n := by
  unfold TooManyDigits at *
  rw [Text.length_ofNat] at *
  exact Nat.lt_of_lt_of_le h (Nat.succ_le_succ (Nat.log_mono_right hle))

namespace Value

/-- The value is plain data. -/
inductive IsData : Value → Prop
  | null : IsData null
  | bool (b : Bool) : IsData (bool b)
  | int {n : Int} (h : ¬TooManyDigits n) : IsData (int n)
  | float (x : Double) : IsData (float x)
  | text (t : Text) : IsData (text t)
  | bytes {data : List Nat} (h : ∀ b ∈ data, b < 256) : IsData (bytes data)
  | byteArray {data : List Nat} (h : ∀ b ∈ data, b < 256) : IsData (byteArray data)
  | date (d : Date) : IsData (date d)
  | time (t : Time) : IsData (time t)
  | dateTime (d : Date) (t : Time) (offset : Option Offset) : IsData (dateTime d t offset)
  | range {start stop step : Int} (hstart : ¬TooManyDigits start) (hstop : ¬TooManyDigits stop)
      (hstep : ¬TooManyDigits step) : IsData (range start stop step)
  | list {items : List Value} (h : ∀ v ∈ items, IsData v) : IsData (list items)
  | tuple {items : List Value} (h : ∀ v ∈ items, IsData v) : IsData (tuple items)
  | set {items : List Value} (h : ∀ v ∈ items, IsData v) : IsData (set items)
  | frozenSet {items : List Value} (h : ∀ v ∈ items, IsData v) : IsData (frozenSet items)
  | mapping {entries : List (Value × Value)} (hkeys : ∀ e ∈ entries, IsData e.1)
      (hvalues : ∀ e ∈ entries, IsData e.2) : IsData (mapping entries)

/-- The members of a range lie between its ends. -/
theorem natAbs_le_of_lt_rangeLength {start stop step : Int} {i : Nat} (h : i < rangeLength start stop step) :
    (start + step * i).natAbs ≤ start.natAbs ∨ (start + step * i).natAbs ≤ stop.natAbs := by
  unfold rangeLength at h
  split at h
  · next hpos =>
    have hquotient : (i : Int) + 1 ≤ (stop - start + step - 1) / step := by
      rw [Int.fdiv_eq_ediv_of_nonneg _ hpos.le] at h
      omega
    have hlast := (Int.le_ediv_iff_mul_le hpos).1 hquotient
    have hbefore : 0 ≤ step * i := Int.mul_nonneg hpos.le (Int.natCast_nonneg i)
    rw [Int.add_mul, Int.one_mul, Int.mul_comm] at hlast
    omega
  · split at h
    · next hneg =>
      have hpos : 0 < -step := by omega
      have hquotient : (i : Int) + 1 ≤ (start - stop - step - 1) / -step := by
        rw [Int.fdiv_eq_ediv_of_nonneg _ hpos.le] at h
        omega
      have hlast := (Int.le_ediv_iff_mul_le hpos).1 hquotient
      have hbefore : 0 ≤ -step * i := Int.mul_nonneg hpos.le (Int.natCast_nonneg i)
      rw [Int.add_mul, Int.one_mul, Int.mul_comm] at hlast
      rw [Int.neg_mul] at hlast hbefore
      omega
    · exact absurd h (Nat.not_lt_zero i)

namespace IsData

variable {v w : Value}

/-- What is shown of plain data is plain data. -/
theorem part (h : v.IsData) (hmem : w ∈ v.parts) : w.IsData := by
  cases h with
  | list h => exact h w hmem
  | tuple h => exact h w hmem
  | set h => exact h w hmem
  | frozenSet h => exact h w hmem
  | mapping hkeys hvalues =>
    obtain ⟨e, he, hw⟩ := List.mem_flatMap.1 hmem
    rcases List.mem_cons.1 hw with rfl | hw
    · exact hkeys e he
    · rw [List.mem_singleton.1 hw]
      exact hvalues e he
  | _ => exact absurd hmem List.not_mem_nil

/-- Plain data is shown. -/
theorem not_showsTooMany (h : v.IsData) : ¬v.ShowsTooMany := by
  intro hmany
  induction hmany with
  | int hn =>
    cases h with
    | int hfew => exact hfew hn
  | part hmem _ ih => exact ih (h.part hmem)

theorem ne_rule (h : v.IsData) (r : Rule) : v ≠ .rule r := by
  rintro rfl
  cases h

theorem exists_display (h : v.IsData) : ∃ shown, v.display = .ok shown := by
  cases hdisplay : v.display with
  | error f => exact absurd ((display_eq_error_iff v).1 hdisplay).2 h.not_showsTooMany
  | ok shown => exact ⟨shown, rfl⟩

/-- The elements of plain data are plain data. -/
theorem element {items : List Value} (h : v.IsData) (hitems : v.asSequence? = some items) (hmem : w ∈ items) :
    w.IsData := by
  cases h with
  | list h => cases hitems; exact h w hmem
  | tuple h => cases hitems; exact h w hmem
  | range hstart hstop _ =>
    cases hitems
    obtain ⟨i, hi, rfl⟩ := List.mem_map.1 hmem
    refine .int fun hmany => ?_
    rcases natAbs_le_of_lt_rangeLength (List.mem_range.1 hi) with hle | hle
    · exact hstart (hmany.mono hle)
    · exact hstop (hmany.mono hle)
  | byteArray h =>
    cases hitems
    obtain ⟨b, hb, rfl⟩ := List.mem_map.1 hmem
    have hbyte : ¬TooManyDigits (255 : Nat) := Nat.not_lt.2 (length_ofNat_of_log2_lt (by decide))
    exact .int fun hmany => hbyte (hmany.mono (Nat.le_of_lt_succ (h b hb)))
  | _ => cases hitems

end IsData

end Value

end Rulebook
