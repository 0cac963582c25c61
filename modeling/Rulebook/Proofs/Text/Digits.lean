import Rulebook.Text.Basic
import Mathlib.Data.Nat.Log
import Mathlib.Tactic.Ring

/-!
# Decimal digits of numbers

The digits that a number is written with denote it, there are as many as its logarithm says, and none stands in
front without need.
-/

namespace Rulebook.Text

/-! ### The value of digits -/

theorem foldl_digits (n : Nat) (ds : List Nat) :
    ds.foldl (fun n d => 10 * n + d) n = n * 10 ^ ds.length + valueOfDigits ds := by
  unfold valueOfDigits
  induction ds generalizing n with
  | nil => simp
  | cons d ds ih =>
    rw [List.foldl_cons, List.foldl_cons, ih, ih (10 * 0 + d), List.length_cons]
    ring

@[simp] theorem valueOfDigits_nil : valueOfDigits [] = 0 := rfl

theorem valueOfDigits_append (ds es : List Nat) :
    valueOfDigits (ds ++ es) = valueOfDigits ds * 10 ^ es.length + valueOfDigits es := by
  rw [valueOfDigits, List.foldl_append, foldl_digits]
  rfl

theorem valueOfDigits_cons (d : Nat) (ds : List Nat) :
    valueOfDigits (d :: ds) = d * 10 ^ ds.length + valueOfDigits ds := by
  have h := valueOfDigits_append [d] ds
  simpa [valueOfDigits] using h

/-- Digits denote a number with no more digits than they are. -/
theorem valueOfDigits_lt {ds : List Nat} (h : ∀ d ∈ ds, d < 10) : valueOfDigits ds < 10 ^ ds.length := by
  induction ds with
  | nil => simp
  | cons d ds ih =>
    have hd : d < 10 := h d List.mem_cons_self
    have hds := ih fun e he => h e (List.mem_cons_of_mem d he)
    rw [valueOfDigits_cons, List.length_cons, Nat.pow_succ]
    have hmul := Nat.mul_le_mul_right (10 ^ ds.length) (Nat.le_of_lt_succ hd)
    omega

theorem digitsValue_append (s t : Text) : digitsValue (s ++ t) = digitsValue s * 10 ^ t.length + digitsValue t := by
  simp [digitsValue, valueOfDigits_append]

@[simp] theorem digitsValue_zeros (n : Nat) : digitsValue (List.replicate n 0x30) = 0 := by
  induction n with
  | zero => rfl
  | succ n ih =>
    rw [List.replicate_succ', digitsValue_append, ih]
    simp [digitsValue, valueOfDigits]

/-! ### The digits of a number -/

theorem decimalLoop_append (n : Nat) (s t : Text) : decimalLoop n (s ++ t) = decimalLoop n s ++ t := by
  induction n using Nat.strongRecOn generalizing s with
  | ind n ih =>
    rw [decimalLoop, decimalLoop.eq_def n s]
    split_ifs with h
    · rfl
    · exact ih (n / 10) (by omega) ((0x30 + n % 10) :: s)

theorem ofNat_of_lt {n : Nat} (h : n < 10) : ofNat n = [0x30 + n] := by
  rw [ofNat, decimalLoop, if_pos h]

/-- The last digit of a number of several digits, and those before it. -/
theorem ofNat_of_le {n : Nat} (h : 10 ≤ n) : ofNat n = ofNat (n / 10) ++ [0x30 + n % 10] := by
  rw [ofNat, decimalLoop, if_neg (by omega), ofNat, ← decimalLoop_append]
  rfl

/-- Induction on the digits of a number. -/
theorem digits_induction {P : Nat → Prop} (small : ∀ n < 10, P n) (step : ∀ n, 10 ≤ n → P (n / 10) → P n)
    (n : Nat) : P n := by
  induction n using Nat.strongRecOn with
  | ind n ih =>
    by_cases h : n < 10
    · exact small n h
    · exact step n (by omega) (ih (n / 10) (by omega))

theorem isAsciiDigit_ofNat (n : Nat) : ∀ c ∈ ofNat n, isAsciiDigit c = true := by
  have hdigit : ∀ d < 10, isAsciiDigit (0x30 + d) = true := by decide
  induction n using digits_induction with
  | small n h => simp [ofNat_of_lt h, hdigit n h]
  | step n h ih =>
    rw [ofNat_of_le h]
    intro c hc
    rcases List.mem_append.1 hc with hc | hc
    · exact ih c hc
    · rw [List.mem_singleton.1 hc]
      exact hdigit _ (Nat.mod_lt n (by decide))

/-- The digits of a number denote it. -/
@[simp] theorem digitsValue_ofNat (n : Nat) : digitsValue (ofNat n) = n := by
  induction n using digits_induction with
  | small n h => simp [ofNat_of_lt h, digitsValue, valueOfDigits]
  | step n h ih =>
    rw [ofNat_of_le h, digitsValue_append, ih]
    simp [digitsValue, valueOfDigits]
    omega

theorem length_ofNat (n : Nat) : (ofNat n).length = Nat.log 10 n + 1 := by
  induction n using digits_induction with
  | small n h => rw [ofNat_of_lt h, Nat.log_of_lt h]; rfl
  | step n h ih => rw [ofNat_of_le h, List.length_append, ih, Nat.log_of_one_lt_of_le (by decide) h]; rfl

theorem ofNat_ne_nil (n : Nat) : ofNat n ≠ [] := by
  rw [← List.length_pos_iff, length_ofNat]
  exact Nat.succ_pos _

/-- A number other than zero is written without a zero in front. -/
theorem head_ofNat {n : Nat} (hn : n ≠ 0) : (ofNat n).head (ofNat_ne_nil n) ≠ 0x30 := by
  induction n using digits_induction with
  | small n h => simp [ofNat_of_lt h, hn]
  | step n h ih =>
    simp only [ofNat_of_le h]
    rw [List.head_append_of_ne_nil (ofNat_ne_nil _)]
    exact ih (by omega)

end Rulebook.Text
