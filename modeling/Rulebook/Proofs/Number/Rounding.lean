import Rulebook.Number.Double
import Mathlib.Algebra.Order.Floor.Semifield
import Mathlib.Data.Int.Log
import Mathlib.Data.Rat.Floor
import Mathlib.Tactic.FieldSimp
import Mathlib.Tactic.Linarith
import Mathlib.Tactic.Positivity
import Mathlib.Tactic.Ring

/-!
# Rounding to doubles

The double that a fraction is rounded to depends on the rational number that the fraction denotes and on nothing
else. `nearest` says so: it finds the magnitude of the number, scales it to a mantissa, and rounds that to the
nearest natural number, a tie to the even one. Every result is in normal form, and each double in normal form is
what its own value is rounded to.
-/

namespace Rulebook.Double

/-! ### Rounding to natural numbers -/

/-- The nearest natural number, on a tie the even one. -/
def roundEven (q : ℚ) : ℕ :=
  if 2 * (q - ⌊q⌋₊) < 1 then ⌊q⌋₊
  else if 1 < 2 * (q - ⌊q⌋₊) then ⌊q⌋₊ + 1
  else if ⌊q⌋₊ % 2 = 0 then ⌊q⌋₊ else ⌊q⌋₊ + 1

theorem roundQuotient_eq {num den : ℕ} (hden : 0 < den) : roundQuotient num den = roundEven (num / den : ℚ) := by
  have hpos : (0 : ℚ) < den := by exact_mod_cast hden
  have hfloor : ⌊(num / den : ℚ)⌋₊ = num / den := Nat.floor_div_eq_div num den
  have hrest : (num / den : ℚ) - (num / den : ℕ) = (num % den : ℕ) / den := by
    have h : (den * (num / den : ℕ) + (num % den : ℕ) : ℚ) = num := by exact_mod_cast Nat.div_add_mod num den
    rw [eq_div_iff hpos.ne', sub_mul, div_mul_cancel₀ _ hpos.ne']
    linarith
  have hlow : 2 * ((num % den : ℕ) / den : ℚ) < 1 ↔ 2 * (num % den) < den := by
    rw [← mul_div_assoc, div_lt_one hpos]
    exact_mod_cast Iff.rfl
  have hhigh : 1 < 2 * ((num % den : ℕ) / den : ℚ) ↔ den < 2 * (num % den) := by
    rw [← mul_div_assoc, one_lt_div hpos]
    exact_mod_cast Iff.rfl
  simp only [roundQuotient, roundEven, hfloor, hrest, hlow, hhigh]

theorem le_roundEven {q : ℚ} {n : ℕ} (h : (n : ℚ) ≤ q) : n ≤ roundEven q := by
  have hfloor : n ≤ ⌊q⌋₊ := Nat.le_floor h
  unfold roundEven
  split_ifs <;> omega

@[simp] theorem roundEven_natCast (n : ℕ) : roundEven n = n := by simp [roundEven]

theorem roundEven_le {q : ℚ} (hq : 0 ≤ q) {n : ℕ} (h : q ≤ n) : roundEven q ≤ n := by
  rcases h.eq_or_lt with rfl | h
  · simp
  · have hfloor : ⌊q⌋₊ < n := (Nat.floor_lt hq).2 h
    unfold roundEven
    split_ifs <;> omega

theorem roundEven_eq_zero {q : ℚ} (h : q < 1 / 2) : roundEven q = 0 := by
  have hfloor : ⌊q⌋₊ = 0 := Nat.floor_eq_zero.2 (by linarith)
  have hlow : 2 * (q - (0 : ℕ)) < 1 := by push_cast; linarith
  simp only [roundEven, hfloor, hlow, ↓reduceIte]

/-! ### The magnitude of a number -/

/-- A positive number lies between two neighbouring powers of its base; the lower one gives its logarithm. -/
theorem log_eq {b : ℕ} (hb : 1 < b) {q : ℚ} {e : ℤ} (hlow : (b : ℚ) ^ e ≤ q) (hhigh : q < (b : ℚ) ^ (e + 1)) :
    Int.log b q = e := by
  have hq : 0 < q := lt_of_lt_of_le (zpow_pos (by positivity) e) hlow
  have h1 := (Int.zpow_le_iff_le_log hb hq).1 hlow
  have h2 := (Int.lt_zpow_iff_log_lt hb hq).1 hhigh
  omega

/-- A natural number times a power of the base has the logarithm of the number, shifted. -/
theorem log_mul_zpow {b : ℕ} (hb : 1 < b) {n : ℕ} (hn : n ≠ 0) (e : ℤ) :
    Int.log b ((n : ℚ) * (b : ℚ) ^ e) = Nat.log b n + e := by
  have hb0 : (b : ℚ) ≠ 0 := by positivity
  have hpos : (0 : ℚ) < (b : ℚ) ^ e := zpow_pos (by positivity) e
  refine log_eq hb ?_ ?_
  · rw [zpow_add₀ hb0, zpow_natCast]
    exact mul_le_mul_of_nonneg_right (by exact_mod_cast Nat.pow_log_le_self b hn) hpos.le
  · rw [add_right_comm, zpow_add₀ hb0]
    refine mul_lt_mul_of_pos_right ?_ hpos
    exact_mod_cast Nat.lt_pow_succ_log_self hb n

/-- The logarithm of a fraction, from those of its parts: their difference, or one less. -/
theorem log_div {b : ℕ} (hb : 1 < b) {num den : ℕ} (hnum : num ≠ 0) (hden : den ≠ 0) :
    Int.log b (num / den : ℚ) =
      if (num / den : ℚ) < (b : ℚ) ^ (Nat.log b num - Nat.log b den : ℤ) then
        (Nat.log b num - Nat.log b den : ℤ) - 1
      else Nat.log b num - Nat.log b den := by
  have hb0 : (0 : ℚ) < b := by positivity
  have hd : (0 : ℚ) < den := by positivity
  have hnumlow : (b : ℚ) ^ Nat.log b num ≤ num := by exact_mod_cast Nat.pow_log_le_self b hnum
  have hnumhigh : (num : ℚ) < (b : ℚ) ^ (Nat.log b num + 1) := by exact_mod_cast Nat.lt_pow_succ_log_self hb num
  have hdenlow : (b : ℚ) ^ Nat.log b den ≤ den := by exact_mod_cast Nat.pow_log_le_self b hden
  have hdenhigh : (den : ℚ) < (b : ℚ) ^ (Nat.log b den + 1) := by exact_mod_cast Nat.lt_pow_succ_log_self hb den
  split_ifs with h
  · refine log_eq hb ?_ (by rwa [sub_add_cancel])
    rw [sub_sub, zpow_sub₀ hb0.ne', div_le_div_iff₀ (zpow_pos hb0 _) hd]
    calc (b : ℚ) ^ (Nat.log b num : ℤ) * den ≤ num * (b : ℚ) ^ (Nat.log b den + 1) := by
          rw [zpow_natCast]; gcongr
      _ = num * (b : ℚ) ^ ((Nat.log b den : ℤ) + 1) := by norm_cast
  · refine log_eq hb (not_lt.1 h) ?_
    rw [sub_add_eq_add_sub, zpow_sub₀ hb0.ne', div_lt_div_iff₀ hd (zpow_pos hb0 _), zpow_natCast]
    calc (num : ℚ) * (b : ℚ) ^ Nat.log b den ≤ num * den := by gcongr
      _ < (b : ℚ) ^ (Nat.log b num + 1) * den := by gcongr
      _ = (b : ℚ) ^ ((Nat.log b num : ℤ) + 1) * den := by norm_cast

/-! ### Rounding to doubles -/

theorem scaleFraction_pos {num den : ℕ} (hden : 0 < den) (e : ℤ) : 0 < (scaleFraction num den e).2 := by
  unfold scaleFraction
  split_ifs
  · exact hden
  · exact Nat.mul_pos hden (Nat.pow_pos (by decide))

theorem scaleFraction_div (num den : ℕ) (e : ℤ) :
    ((scaleFraction num den e).1 / (scaleFraction num den e).2 : ℚ) = num / den * 2 ^ e := by
  unfold scaleFraction
  split_ifs with h
  · obtain ⟨k, rfl⟩ := Int.eq_ofNat_of_zero_le h
    simp only [Int.toNat_natCast, Nat.pow_eq, zpow_natCast]
    push_cast
    ring
  · obtain ⟨k, rfl⟩ : ∃ k : ℕ, e = -(k : ℤ) := ⟨(-e).toNat, by omega⟩
    simp only [neg_neg, Int.toNat_natCast, Nat.pow_eq, zpow_neg, zpow_natCast]
    push_cast
    rw [div_mul_eq_div_div, div_eq_mul_inv (_ / _)]

theorem binaryMagnitude_eq {num den : ℕ} (hnum : num ≠ 0) (hden : 0 < den) :
    binaryMagnitude num den = Int.log 2 (num / den : ℚ) := by
  have hpos : 0 < (scaleFraction num den (-((num.log2 : ℤ) - den.log2))).2 := scaleFraction_pos hden _
  have hscale := scaleFraction_div num den (-((num.log2 : ℤ) - den.log2))
  have hbelow : (scaleFraction num den (-((num.log2 : ℤ) - den.log2))).1 <
      (scaleFraction num den (-((num.log2 : ℤ) - den.log2))).2 ↔
      (num / den : ℚ) < ((2 : ℕ) : ℚ) ^ (Nat.log 2 num - Nat.log 2 den : ℤ) := by
    rw [← Nat.cast_lt (α := ℚ), ← div_lt_one (by exact_mod_cast hpos), hscale, zpow_neg, ← div_eq_mul_inv,
      div_lt_one (zpow_pos (by norm_num) _), Nat.log2_eq_log_two, Nat.log2_eq_log_two, Nat.cast_ofNat]
  simp only [log_div one_lt_two hnum hden.ne', binaryMagnitude, hbelow]
  simp only [Nat.log2_eq_log_two]

/-- The double of a rounded mantissa, which may have grown by one place, and an exponent. -/
def assemble (negative : Bool) (m : ℕ) (e : ℤ) : Double :=
  let (m, e) := if m = Nat.pow 2 53 then (Nat.pow 2 52, e + 1) else (m, e)
  if greatestExponent < e then .infinite negative else .finite negative m e

/-- The exponent of a positive number: its mantissa has 53 binary digits, or the exponent is the least. -/
def exponentOf (q : ℚ) : ℤ := max (Int.log 2 q - 52) leastExponent

/-- The double nearest to a number that is not negative, under a sign. -/
def nearest (negative : Bool) (q : ℚ) : Double :=
  if q = 0 then zero negative else assemble negative (roundEven (q * 2 ^ (-exponentOf q))) (exponentOf q)

@[simp] theorem nearest_zero (negative : Bool) : nearest negative 0 = zero negative := rfl

theorem nearest_of_pos (negative : Bool) {q : ℚ} (hq : 0 < q) :
    nearest negative q = assemble negative (roundEven (q * 2 ^ (-exponentOf q))) (exponentOf q) :=
  if_neg hq.ne'

theorem leastExponent_le_exponentOf (q : ℚ) : leastExponent ≤ exponentOf q := le_max_right _ _

/-- A fraction is rounded as the number it denotes. -/
theorem ofFraction_eq_nearest (negative : Bool) (num : ℕ) {den : ℕ} (hden : 0 < den) :
    ofFraction negative num den = nearest negative (num / den) := by
  have hd : (den : ℚ) ≠ 0 := by positivity
  by_cases hnum : num = 0
  · simp [ofFraction, hnum]
  · have hq : (num / den : ℚ) ≠ 0 := div_ne_zero (by exact_mod_cast hnum) hd
    have hround : ∀ e, roundQuotient (scaleFraction num den e).1 (scaleFraction num den e).2 =
        roundEven (num / den * 2 ^ e) := fun e => by
      rw [roundQuotient_eq (scaleFraction_pos hden e), scaleFraction_div]
    simp only [ofFraction, nearest, assemble, exponentOf, hnum, hq, ↓reduceIte, binaryMagnitude_eq hnum hden, hround]
    rfl

/-! ### Normal forms -/

/-- A mantissa and an exponent in normal form. -/
structure Normal (m : ℕ) (e : ℤ) : Prop where
  lt : m < 2 ^ 53
  least : leastExponent ≤ e
  greatest : e ≤ greatestExponent
  full : e = leastExponent ∨ 2 ^ 52 ≤ m

theorem normal_zero : Normal 0 leastExponent := ⟨by decide, le_rfl, by decide, .inl rfl⟩

theorem assemble_of_normal (negative : Bool) {m : ℕ} {e : ℤ} (h : Normal m e) :
    assemble negative m e = .finite negative m e := by
  have hm : m ≠ Nat.pow 2 53 := h.lt.ne
  simp only [assemble, hm, ↓reduceIte, not_lt.2 h.greatest]

theorem assemble_of_large (negative : Bool) (m : ℕ) {e : ℤ} (h : greatestExponent < e) :
    assemble negative m e = .infinite negative := by
  unfold assemble
  split_ifs
  · exact if_pos (by omega)
  · exact if_pos h

/-- A mantissa that is full or has the least exponent makes an infinity or a double in normal form. -/
theorem assemble_cases (negative : Bool) {m : ℕ} {e : ℤ} (hm : m ≤ 2 ^ 53) (hleast : leastExponent ≤ e)
    (hfull : e = leastExponent ∨ 2 ^ 52 ≤ m) :
    assemble negative m e = .infinite negative ∨
      ∃ m' e', assemble negative m e = .finite negative m' e' ∧ Normal m' e' := by
  by_cases hover : greatestExponent < e
  · exact .inl (assemble_of_large negative m hover)
  rcases hm.eq_or_lt with hm | hm
  · have hcarry : assemble negative m e =
        if greatestExponent < e + 1 then .infinite negative else .finite negative (2 ^ 52) (e + 1) := by
      rw [hm]; rfl
    by_cases hover' : greatestExponent < e + 1
    · exact .inl (hcarry.trans (if_pos hover'))
    · exact .inr ⟨_, _, hcarry.trans (if_neg hover'), by decide, by omega, by omega, .inr le_rfl⟩
  · have hnormal : Normal m e := ⟨hm, hleast, by omega, hfull⟩
    exact .inr ⟨m, e, assemble_of_normal negative hnormal, hnormal⟩

/-- A double in normal form is what its value is rounded to. -/
theorem nearest_of_normal (negative : Bool) {m : ℕ} {e : ℤ} (h : Normal m e) :
    nearest negative (m * 2 ^ e) = .finite negative m e := by
  by_cases hm : m = 0
  · have he : e = leastExponent := h.full.resolve_right (by rw [hm]; decide)
    simp [hm, he, zero]
  · have hq : (0 : ℚ) < m * 2 ^ e := mul_pos (by positivity) (zpow_pos two_pos _)
    have hexponent : exponentOf (m * 2 ^ e) = e := by
      have hlog : Int.log 2 (m * 2 ^ e : ℚ) = Nat.log 2 m + e := log_mul_zpow one_lt_two hm e
      have hlt : Nat.log 2 m < 53 := Nat.log_lt_of_lt_pow hm h.lt
      have hfull : e = leastExponent ∨ 52 ≤ Nat.log 2 m := h.full.imp_right fun h => Nat.le_log_of_pow_le one_lt_two h
      have hleast := h.least
      unfold exponentOf
      omega
    have hscale : (m * 2 ^ e * 2 ^ (-e) : ℚ) = m := by
      rw [mul_assoc, ← zpow_add₀ two_ne_zero, add_neg_cancel, zpow_zero, mul_one]
    rw [nearest_of_pos negative hq, hexponent, hscale, roundEven_natCast, assemble_of_normal negative h]

/-- The rounded mantissa has at most one binary digit too many, and is full unless the exponent is the least. -/
theorem roundEven_bounds {q : ℚ} (hq : 0 < q) :
    roundEven (q * 2 ^ (-exponentOf q)) ≤ 2 ^ 53 ∧
      (exponentOf q = leastExponent ∨ 2 ^ 52 ≤ roundEven (q * 2 ^ (-exponentOf q))) := by
  have hlow : (2 : ℚ) ^ Int.log 2 q ≤ q := by exact_mod_cast Int.zpow_log_le_self one_lt_two hq
  have hhigh : q < (2 : ℚ) ^ (Int.log 2 q + 1) := by exact_mod_cast Int.lt_zpow_succ_log_self one_lt_two q
  have hscale : (0 : ℚ) < 2 ^ (-exponentOf q) := zpow_pos two_pos _
  constructor
  · have hexponent : Int.log 2 q - 52 ≤ exponentOf q := le_max_left _ _
    refine roundEven_le (by positivity) ?_
    calc q * 2 ^ (-exponentOf q) ≤ 2 ^ (Int.log 2 q + 1) * 2 ^ (-exponentOf q) := by gcongr
      _ = 2 ^ (Int.log 2 q + 1 - exponentOf q) := by rw [← zpow_add₀ two_ne_zero]; rfl
      _ ≤ 2 ^ (53 : ℤ) := zpow_le_zpow_right₀ one_le_two (by omega)
      _ = ((2 ^ 53 : ℕ) : ℚ) := by norm_num
  · refine (max_choice (Int.log 2 q - 52) leastExponent).symm.imp_right fun h => le_roundEven ?_
    have hexponent : Int.log 2 q - exponentOf q = 52 := by unfold exponentOf; omega
    calc ((2 ^ 52 : ℕ) : ℚ) = 2 ^ (52 : ℤ) := by norm_num
      _ = 2 ^ Int.log 2 q * 2 ^ (-exponentOf q) := by rw [← zpow_add₀ two_ne_zero, ← sub_eq_add_neg, hexponent]
      _ ≤ q * 2 ^ (-exponentOf q) := by gcongr

/-- A number is rounded to an infinity or to a double in normal form. -/
theorem nearest_cases (negative : Bool) {q : ℚ} (hq : 0 ≤ q) :
    nearest negative q = .infinite negative ∨ ∃ m e, nearest negative q = .finite negative m e ∧ Normal m e := by
  rcases hq.eq_or_lt with rfl | hq
  · exact .inr ⟨0, leastExponent, rfl, normal_zero⟩
  · obtain ⟨hle, hfull⟩ := roundEven_bounds hq
    rw [nearest_of_pos negative hq]
    exact assemble_cases negative hle (leastExponent_le_exponentOf q) hfull

/-! ### Far beyond the range -/

theorem two_pow_le_ten_pow : (2 : ℚ) ^ 1075 ≤ 10 ^ 400 := by
  calc (2 : ℚ) ^ 1075 ≤ 2 ^ (3 * 400) := pow_le_pow_right₀ one_le_two (by norm_num)
    _ = 8 ^ 400 := by rw [pow_mul]; norm_num only
    _ ≤ 10 ^ 400 := pow_le_pow_left₀ (by norm_num) (by norm_num) 400

/-- A number of more than four hundred digits is rounded to an infinity. -/
theorem nearest_of_large (negative : Bool) {q : ℚ} (h : 10 ^ 400 ≤ q) : nearest negative q = .infinite negative := by
  have hq : 0 < q := lt_of_lt_of_le (by positivity) h
  have hlog : 1075 ≤ Int.log 2 q := by
    refine (Int.zpow_le_iff_le_log one_lt_two hq).1 (le_trans ?_ (two_pow_le_ten_pow.trans h))
    exact (zpow_ofNat _ _).le
  have hexponent : greatestExponent < exponentOf q := by
    have hgreatest : greatestExponent = 971 := rfl
    unfold exponentOf
    omega
  rw [nearest_of_pos negative hq, assemble_of_large negative _ hexponent]

/-- A number with four hundred zeros behind its point is rounded to zero. -/
theorem nearest_of_small (negative : Bool) {q : ℚ} (hq : 0 < q) (h : q * 10 ^ 400 < 1) :
    nearest negative q = zero negative := by
  have hsmall : q * 2 ^ 1075 < 1 := lt_of_le_of_lt (mul_le_mul_of_nonneg_left two_pow_le_ten_pow hq.le) h
  have hlog : Int.log 2 q < -1075 := by
    refine (Int.lt_zpow_iff_log_lt one_lt_two hq).1 ?_
    rw [zpow_neg, ← one_div, lt_div_iff₀ (zpow_pos (by norm_num) _), zpow_ofNat]
    exact hsmall
  have hexponent : exponentOf q = leastExponent := by
    have hleast : leastExponent = -1074 := rfl
    unfold exponentOf
    omega
  have hround : roundEven (q * 2 ^ (-exponentOf q)) = 0 := by
    refine roundEven_eq_zero ?_
    rw [hexponent, lt_div_iff₀ two_pos, mul_assoc, show -leastExponent = 1074 from rfl, zpow_ofNat, ← pow_succ]
    exact hsmall
  rw [nearest_of_pos negative hq, hround, hexponent]
  rfl

end Rulebook.Double
