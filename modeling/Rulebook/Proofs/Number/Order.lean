import Rulebook.Proofs.Expression.Literal
import Rulebook.Proofs.Number.Rounding
import Mathlib.Order.Compare
import Mathlib.Order.WithBot

/-!
# The order of numbers

Integers and doubles are compared by the numbers they denote, each exactly: neither is rounded to the kind of the
other.
-/

namespace Rulebook

/-- The rational numbers with an infinity on either side. -/
abbrev ExtendedRational := WithBot (WithTop ℚ)

/-- A rational number as one of the extended numbers. -/
def ExtendedRational.ofRat (q : ℚ) : ExtendedRational := ((q : WithTop ℚ) : WithBot (WithTop ℚ))

/-- The number that a finite double denotes. -/
def Double.finiteValue (negative : Bool) (m : ℕ) (e : ℤ) : ℚ := if negative then -(m * 2 ^ e) else m * 2 ^ e

/-- The value is an integer or a double that denotes the number. -/
inductive IsNumber : Value → ExtendedRational → Prop
  | int (n : ℤ) : IsNumber (.int n) (.ofRat n)
  | finite (negative : Bool) (m : ℕ) (e : ℤ) :
      IsNumber (.float (.finite negative m e)) (.ofRat (Double.finiteValue negative m e))
  | infinite (negative : Bool) : IsNumber (.float (.infinite negative)) (if negative then ⊥ else ⊤)

namespace ExtendedRational

theorem ofRat_lt {p q : ℚ} : ofRat p < ofRat q ↔ p < q := by
  rw [ofRat, ofRat, WithBot.coe_lt_coe, WithTop.coe_lt_coe]

theorem cmp_ofRat (p q : ℚ) : cmp (ofRat p) (ofRat q) = cmp p q := by
  unfold cmp cmpUsing
  simp only [ofRat_lt]

theorem cmp_ofRat_infinite (q : ℚ) (t : Bool) :
    cmp (ofRat q) (if t then ⊥ else ⊤) = if t then .gt else .lt := by
  cases t
  · exact (cmp_eq_lt_iff _ _).2 (WithBot.coe_lt_coe.2 (WithTop.coe_lt_top q))
  · exact (cmp_eq_gt_iff _ _).2 (WithBot.bot_lt_coe _)

theorem cmp_infinite_ofRat (s : Bool) (q : ℚ) :
    cmp (if s then ⊥ else ⊤) (ofRat q) = if s then .lt else .gt := by
  rw [← cmp_swap, cmp_ofRat_infinite]
  cases s <;> rfl

theorem cmp_infinite (s t : Bool) :
    cmp (if s then ⊥ else ⊤ : ExtendedRational) (if t then ⊥ else ⊤) =
      if s = t then .eq else if s then .lt else .gt := by
  cases s <;> cases t
  · exact cmp_self_eq_eq _
  · exact (cmp_eq_gt_iff _ _).2 bot_lt_top
  · exact (cmp_eq_lt_iff _ _).2 bot_lt_top
  · exact cmp_self_eq_eq _

end ExtendedRational

namespace Double

theorem toFraction?_finite (negative : Bool) (m : ℕ) (e : ℤ) :
    ∃ a : ℤ, ∃ b : ℕ, 0 < b ∧ (finite negative m e).toFraction? = some (a, b) ∧
      (a / b : ℚ) = finiteValue negative m e := by
  have hvalue := scaleFraction_div m 1 e
  rw [Nat.cast_one, div_one] at hvalue
  refine ⟨if negative then -((scaleFraction m 1 e).1 : ℤ) else (scaleFraction m 1 e).1, (scaleFraction m 1 e).2,
    scaleFraction_pos one_pos e, rfl, ?_⟩
  cases negative <;> simp [finiteValue, ← hvalue, neg_div]

/-- Fractions are compared crosswise. -/
theorem compare_mul {a c : ℤ} {b d : ℕ} (hb : 0 < b) (hd : 0 < d) :
    compare (a * d) (c * b) = cmp (a / b : ℚ) (c / d) := by
  have hb' : (0 : ℚ) < b := by exact_mod_cast hb
  have hd' : (0 : ℚ) < d := by exact_mod_cast hd
  have hlt : (a / b : ℚ) < c / d ↔ a * d < c * b := by rw [div_lt_div_iff₀ hb' hd']; exact_mod_cast Iff.rfl
  have hgt : (c / d : ℚ) < a / b ↔ c * b < a * d := by rw [div_lt_div_iff₀ hd' hb']; exact_mod_cast Iff.rfl
  rw [← cmp_eq_compare]
  unfold cmp cmpUsing
  simp only [hlt, hgt]

theorem orderFraction_finite (negative : Bool) (m : ℕ) (e : ℤ) (num : ℤ) {den : ℕ} (hden : 0 < den) :
    (finite negative m e).orderFraction num den = some (cmp (finiteValue negative m e) (num / den)) := by
  obtain ⟨a, b, hb, hfraction, hvalue⟩ := toFraction?_finite negative m e
  have horder : (finite negative m e).orderFraction num den = some (compare (a * den) (num * b)) := by
    simp only [orderFraction, hfraction]
  rw [horder, compare_mul hb hden, hvalue]

theorem order_finite (x : Double) (negative : Bool) (m : ℕ) (e : ℤ) :
    ∃ a : ℤ, ∃ b : ℕ, 0 < b ∧ (a / b : ℚ) = finiteValue negative m e ∧
      x.order (finite negative m e) = x.orderFraction a b := by
  obtain ⟨a, b, hb, hfraction, hvalue⟩ := toFraction?_finite negative m e
  exact ⟨a, b, hb, hvalue, by simp only [order, hfraction]⟩

end Double

open ExtendedRational Double

variable {v w : Value} {x y : ExtendedRational}

/-- Two numbers are ordered as what they denote. -/
theorem numberOrder?_eq (hv : IsNumber v x) (hw : IsNumber w y) :
    Expression.numberOrder? v w = some (some (cmp x y)) := by
  cases hv with
  | int m =>
    cases hw with
    | int n =>
      have h := compare_mul (a := m) (c := n) one_pos one_pos
      rw [Nat.cast_one, Nat.cast_one, mul_one, mul_one, div_one, div_one] at h
      rw [cmp_ofRat, ← h]
      rfl
    | finite t n f =>
      have h := orderFraction_finite t n f m one_pos
      rw [Nat.cast_one, div_one] at h
      have horder : Expression.numberOrder? (.int m) (.float (Double.finite t n f)) =
          some (((Double.finite t n f).orderFraction m 1).map Ordering.swap) := rfl
      rw [horder, h, Option.map_some, cmp_swap, cmp_ofRat]
    | infinite t =>
      rw [cmp_ofRat_infinite]
      cases t <;> rfl
  | finite s m e =>
    cases hw with
    | int n =>
      have h := orderFraction_finite s m e n one_pos
      rw [Nat.cast_one, div_one] at h
      rw [cmp_ofRat, ← h]
      rfl
    | finite t n f =>
      obtain ⟨a, b, hb, hvalue, horder⟩ := order_finite (.finite s m e) t n f
      rw [Expression.numberOrder?, horder, orderFraction_finite s m e a hb, hvalue, cmp_ofRat]
    | infinite t =>
      rw [cmp_ofRat_infinite]
      rfl
  | infinite s =>
    cases hw with
    | int n =>
      rw [cmp_infinite_ofRat]
      rfl
    | finite t n f =>
      obtain ⟨a, b, -, -, horder⟩ := order_finite (.infinite s) t n f
      rw [Expression.numberOrder?, horder, orderFraction, cmp_infinite_ofRat]
    | infinite t =>
      rw [cmp_infinite]
      rfl

theorem equal_eq_numberOrder? (hv : IsNumber v x) (hw : IsNumber w y) :
    Value.equal v w = (Expression.numberOrder? v w == some (some .eq)) := by
  have hswap : ∀ o : Option Ordering, (some (o.map Ordering.swap) == some (some Ordering.eq)) = (o == some .eq) := by
    rintro (_ | _ | _ | _) <;> rfl
  have hsome : ∀ o : Option Ordering, (some o == some (some Ordering.eq)) = (o == some .eq) := fun _ => rfl
  have hvalue : Value.equal v w = Value.equalReals v w := by
    cases hv <;> cases hw <;> simp [Value.equal, Value.equalNumbers]
  rw [hvalue]
  cases hv with
  | int m =>
    cases hw with
    | int n => simp [Value.equalReals, Expression.numberOrder?, Value.asInteger?]
    | finite t n f => simp [Value.equalReals, Expression.numberOrder?, Value.asInteger?, hswap]
    | infinite t => simp [Value.equalReals, Expression.numberOrder?, Value.asInteger?, hswap]
  | finite s m e => cases hw <;> simp [Value.equalReals, Expression.numberOrder?, Value.asInteger?, hsome]
  | infinite s => cases hw <;> simp [Value.equalReals, Expression.numberOrder?, Value.asInteger?, hsome]

/-- Two numbers are equal if they denote the same. -/
theorem equal_eq (hv : IsNumber v x) (hw : IsNumber w y) : Value.equal v w = decide (x = y) := by
  rw [equal_eq_numberOrder? hv hw, numberOrder?_eq hv hw, Bool.eq_iff_iff, beq_iff_eq, Option.some_inj,
    Option.some_inj, cmp_eq_eq_iff, decide_eq_true_eq]

namespace Expression

/-- Numbers are related as what they denote. -/
theorem Relation.holds_number (rel : Relation) (hv : IsNumber v x) (hw : IsNumber w y) :
    rel.holds v w = .ok (decide (rel.On x y)) := by
  have horder : order? v w = some (some (cmp x y)) := by
    rw [← numberOrder?_eq hv hw]
    cases hv <;> rfl
  have hlt : (some (cmp x y) == some Ordering.lt) = decide (x < y) := by
    rw [Bool.eq_iff_iff, beq_iff_eq, Option.some_inj, cmp_eq_lt_iff, decide_eq_true_eq]
  have hgt : (some (cmp x y) == some Ordering.gt) = decide (y < x) := by
    rw [Bool.eq_iff_iff, beq_iff_eq, Option.some_inj, cmp_eq_gt_iff, decide_eq_true_eq]
  cases rel with
  | equal =>
    rw [holds, equal_eq hv hw]
    exact congrArg Except.ok (decide_eq_decide.2 Iff.rfl)
  | notEqual =>
    rw [holds, equal_eq hv hw, ← decide_not]
    exact congrArg Except.ok (decide_eq_decide.2 Iff.rfl)
  | less =>
    rw [less_holds_of_order horder, hlt]
    exact congrArg Except.ok (decide_eq_decide.2 Iff.rfl)
  | greater =>
    rw [greater_holds_of_order horder, hgt]
    exact congrArg Except.ok (decide_eq_decide.2 Iff.rfl)

end Expression

end Rulebook
