import Rulebook.Number.Decimal
import Rulebook.Proofs.Number.Rounding
import Rulebook.Proofs.Text.Digits

/-!
# Decimals and doubles

A decimal is read as the double nearest to its value, however its digits and its exponent are chosen and however
far the value lies beyond the range. The shortest decimal of a double in normal form reads back as that double.
-/

namespace Rulebook

namespace Decimal
open Double

/-- The number that a decimal denotes. -/
def value (d : Decimal) : ℚ := d.coefficient * 10 ^ d.exponent

theorem value_nonneg (d : Decimal) : 0 ≤ d.value := mul_nonneg (by positivity) (zpow_nonneg (by norm_num) _)

theorem value_pos {d : Decimal} (h : d.coefficient ≠ 0) : 0 < d.value :=
  mul_pos (by positivity) (zpow_pos (by norm_num) _)

theorem toFraction_div (d : Decimal) : (d.toFraction.1 / d.toFraction.2 : ℚ) = d.value := by
  unfold toFraction value
  split_ifs with h
  · obtain ⟨k, hk⟩ := Int.eq_ofNat_of_zero_le h
    simp only [hk, Int.toNat_natCast, Nat.pow_eq, zpow_natCast]
    push_cast
    ring
  · obtain ⟨k, hk⟩ : ∃ k : ℕ, d.exponent = -(k : ℤ) := ⟨(-d.exponent).toNat, by omega⟩
    simp only [hk, neg_neg, Int.toNat_natCast, Nat.pow_eq, zpow_neg, zpow_natCast]
    push_cast
    rw [div_eq_mul_inv]

theorem toFraction_pos (d : Decimal) : 0 < d.toFraction.2 := by
  unfold toFraction
  split_ifs
  · exact one_pos
  · exact Nat.pow_pos (by decide)

theorem digitCount_eq (n : ℕ) : digitCount n = Nat.log 10 n + 1 := Text.length_ofNat n

/-- The magnitude of a decimal, from its exponent and the number of its digits. -/
theorem log_value {d : Decimal} (h : d.coefficient ≠ 0) :
    Int.log 10 d.value + 1 = d.exponent + digitCount d.coefficient := by
  have hlog : Int.log 10 d.value = Nat.log 10 d.coefficient + d.exponent := log_mul_zpow (by decide) h d.exponent
  rw [hlog, digitCount_eq]
  push_cast
  ring

/-- A decimal is read as the double nearest to its value. -/
theorem toDouble_eq_nearest (d : Decimal) (negative : Bool) : d.toDouble negative = nearest negative d.value := by
  by_cases h : d.coefficient = 0
  · simp [toDouble, value, h]
  have hpos := value_pos h
  have hlog := log_value h
  simp only [toDouble, h, ↓reduceIte]
  split_ifs with hlarge hsmall
  · have hlow : (10 : ℚ) ^ (400 : ℤ) ≤ d.value :=
      (Int.zpow_le_iff_le_log (b := 10) (by decide) hpos).2 (by omega)
    rw [nearest_of_large negative (by exact_mod_cast hlow)]
  · have hhigh : d.value < (10 : ℚ) ^ (-400 : ℤ) :=
      (Int.lt_zpow_iff_log_lt (b := 10) (by decide) hpos).2 (by omega)
    rw [nearest_of_small negative hpos]
    rwa [zpow_neg, ← one_div, zpow_ofNat, lt_div_iff₀ (by positivity)] at hhigh
  · rw [ofFraction_eq_nearest negative _ d.toFraction_pos, toFraction_div]

/-- Two decimals of one value are read as one double. -/
theorem toDouble_congr {d d' : Decimal} (h : d.value = d'.value) (negative : Bool) :
    d.toDouble negative = d'.toDouble negative := by
  rw [toDouble_eq_nearest, toDouble_eq_nearest, h]

/-- Zeros at the end of a coefficient count as much as they do in the exponent. -/
theorem value_mul_ten_pow (n k : ℕ) (e : ℤ) : value ⟨n * 10 ^ k, e⟩ = value ⟨n, e + k⟩ := by
  have h10 : (10 : ℚ) ≠ 0 := by norm_num
  simp only [value, zpow_add₀ h10, zpow_natCast]
  push_cast
  ring

theorem value_trimZeros (fuel : ℕ) (d : Decimal) : (trimZeros fuel d).value = d.value := by
  induction fuel generalizing d with
  | zero => rfl
  | succ fuel ih =>
    rw [trimZeros]
    split_ifs with h
    · have hd : d.coefficient = d.coefficient / 10 * 10 ^ 1 := by omega
      have hvalue := value_mul_ten_pow (d.coefficient / 10) 1 d.exponent
      rw [← hd] at hvalue
      rw [ih]
      exact hvalue.symm
    · rfl

/-- The first decimal that is found reads back as the double. -/
theorem toDouble_of_shortestFrom {x : Double} {num den : ℕ} {magnitude : ℤ} {tries digits : ℕ} {d : Decimal}
    (h : shortestFrom x num den magnitude tries digits = some d) : d.toDouble false = x := by
  induction tries generalizing digits with
  | zero => cases h
  | succ tries ih =>
    rw [shortestFrom] at h
    split at h
    · next hfound =>
      cases h
      simpa using List.find?_some hfound
    · exact ih h

/-- A fraction over a power of two is a decimal. -/
theorem value_exact (num k : ℕ) : (exact num (2 ^ k)).value = num / (2 ^ k : ℕ) := by
  have hten : (10 : ℚ) ^ k = 5 ^ k * 2 ^ k := by rw [← mul_pow]; norm_num
  have hfive : (5 : ℚ) ^ k ≠ 0 := by positivity
  simp only [exact, value, Nat.log2_two_pow, Nat.pow_eq, zpow_neg, zpow_natCast, hten]
  push_cast
  rw [← div_eq_mul_inv, mul_comm (num : ℚ), mul_div_mul_left _ _ hfive]

theorem scaleFraction_two_pow (m : ℕ) (e : ℤ) : ∃ k, (scaleFraction m 1 e).2 = 2 ^ k := by
  unfold scaleFraction
  split_ifs
  · exact ⟨0, rfl⟩
  · exact ⟨(-e).toNat, one_mul _⟩

/-- The shortest decimal of a positive double in normal form reads back as that double. -/
theorem toDouble_shortest {m : ℕ} {e : ℤ} (h : Normal m e) (hm : m ≠ 0) :
    (shortest (.finite false m e)).toDouble false = .finite false m e := by
  have hvalue : ((scaleFraction m 1 e).1 / (scaleFraction m 1 e).2 : ℚ) = m * 2 ^ e := by
    rw [scaleFraction_div, Nat.cast_one, div_one]
  have hnum : (scaleFraction m 1 e).1 ≠ 0 := by
    intro h0
    rw [h0, Nat.cast_zero, zero_div] at hvalue
    exact mul_ne_zero (by exact_mod_cast hm) (zpow_ne_zero e two_ne_zero) hvalue.symm
  simp only [shortest, Double.abs, toFraction?, Bool.false_eq_true, ↓reduceIte, Int.natAbs_natCast, hnum]
  split
  · next d hfound => rw [toDouble_congr (value_trimZeros 20 d), toDouble_of_shortestFrom hfound]
  · obtain ⟨k, hk⟩ := scaleFraction_two_pow m e
    rw [toDouble_congr (value_trimZeros 1100 _), toDouble_eq_nearest, hk, value_exact, ← hk, hvalue,
      nearest_of_normal false h]

end Decimal

end Rulebook
