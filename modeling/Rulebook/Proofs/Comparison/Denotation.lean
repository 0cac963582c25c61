import Rulebook.Proofs.Comparison.Conversion
import Rulebook.Proofs.Expression.Number
import Rulebook.Proofs.Number.Order

/-!
# What number texts denote

A text that looks like a number denotes an integer or a double. Within the limit on integers it is written as a
literal that reads as a value of that number.
-/

namespace Rulebook
open Expression Text

/-- The number that a number text denotes: the integer, if it is only a sign and digits, and else the double that
it is read as. -/
inductive Denotes (t : Text) : ExtendedRational → Prop
  | integer {n : NumberText} (h : Spells t n) (hn : n.isInteger = true) : Denotes t (.ofRat n.toInt)
  | real {n : NumberText} {x : Double} {q : ExtendedRational} (h : Spells t n) (hn : n.isInteger = false)
      (hx : readReal? t = some x) (hq : IsNumber (.float x) q) : Denotes t q

/-- The text is beyond a limit: an integer text of more than 4300 digits, or a text that looks like no number and
has more than 100000 code points. -/
def Oversized (t : Text) : Prop :=
  (∃ n, Spells t n ∧ n.isInteger = true ∧ 4300 < n.whole.length) ∨ (¬NumberLike t ∧ 100000 < t.length)

theorem Spells.unique {t : Text} {n n' : NumberText} (h : Spells t n) (h' : Spells t n') : n = n' :=
  Option.some.inj ((NumberText.read?_of_spells h).symm.trans (NumberText.read?_of_spells h'))

theorem not_oversized_of_spells {t : Text} {n : NumberText} (h : Spells t n) (hlength : n.whole.length ≤ 4300) :
    ¬Oversized t := by
  rintro (⟨n', hn', -, hlong⟩ | ⟨hlike, -⟩)
  · rw [h.unique hn'] at hlength
    exact Nat.not_lt.2 hlength hlong
  · exact hlike ⟨n, h⟩

theorem IsNumber.unique {v : Value} {x y : ExtendedRational} (hx : IsNumber v x) (hy : IsNumber v y) : x = y := by
  cases hx <;> cases hy <;> rfl

theorem IsNumber.constant_eq {v : Value} {x : ExtendedRational} (h : IsNumber v x) : constant v = .ok v := by
  cases h <;> rfl

theorem Denotes.numberLike {t : Text} {x : ExtendedRational} (h : Denotes t x) : NumberLike t := by
  cases h with
  | integer h => exact ⟨_, h⟩
  | real h => exact ⟨_, h⟩

/-- A number text denotes one number. -/
theorem Denotes.unique {t : Text} {x y : ExtendedRational} (hx : Denotes t x) (hy : Denotes t y) : x = y := by
  cases hx with
  | integer h hn =>
    cases hy with
    | integer h' hn' => rw [h.unique h']
    | real h' hn' _ _ =>
      rw [h.unique h', hn'] at hn
      exact absurd hn Bool.false_ne_true
  | real h hn hd hq =>
    cases hy with
    | integer h' hn' =>
      rw [h.unique h', hn'] at hn
      exact absurd hn.symm Bool.false_ne_true
    | real h' hn' hd' hq' =>
      cases hd.symm.trans hd'
      exact hq.unique hq'

/-- The decimal that a number text denotes is read as an infinity or as a finite double in normal form. -/
theorem NumberText.toDouble_cases (n : NumberText) :
    n.toDouble = .infinite n.negative ∨ ∃ m e, n.toDouble = .finite n.negative m e ∧ Double.Normal m e := by
  rw [NumberText.toDouble_eq, Decimal.toDouble_eq_nearest]
  exact Double.nearest_cases n.negative n.decimal.value_nonneg

/-- Only digits are counted in an integer that is written again. -/
theorem length_ofNat_valueOfDigits {ds : List Nat} (h : ∀ d ∈ ds, d < 10) (hne : ds ≠ []) :
    (ofNat (valueOfDigits ds)).length ≤ ds.length := by
  have hpos : 0 < ds.length := List.length_pos_iff.2 hne
  rw [length_ofNat]
  by_cases h0 : valueOfDigits ds = 0
  · rw [h0, Nat.log_zero_right]
    exact hpos
  · exact Nat.log_lt_of_lt_pow h0 (valueOfDigits_lt h)

theorem IsMantissa.whole_lt {t : Text} {w f : List Nat} {pointed : Bool} (h : IsMantissa t w f pointed) :
    ∀ d ∈ w, d < 10 := by
  cases h with
  | pointDigits hf => exact fun d hd => absurd hd List.not_mem_nil
  | _ => exact digitValues_lt

theorem exists_literal_integer {t : Text} {n : NumberText} (h : Spells t n) (hn : n.isInteger = true)
    (hlength : n.whole.length ≤ 4300) :
    n.literal = .ok (ofInt n.toInt) ∧ IsLiteral (ofInt n.toInt) (.int n.toInt) := by
  obtain ⟨before, sign, mantissa, exponent, after, -, -, -, -, hmantissa, -⟩ := h
  have hlimit : ¬maxIntegerDigits < n.whole.length := Nat.not_lt.2 hlength
  have habs : n.toInt.natAbs = valueOfDigits n.whole := by
    simp only [NumberText.toInt]
    split_ifs <;> simp
  have hne : n.whole ≠ [] := by
    obtain ⟨negative, whole, fraction, pointed, e⟩ := n
    simp only [NumberText.isInteger, Bool.and_eq_true, Bool.not_eq_true'] at hn
    obtain ⟨rfl, -⟩ := hn
    cases hmantissa with
    | digits hw => exact List.isEmpty_eq_false_iff.1 hw.isEmpty
  refine ⟨by simp only [NumberText.literal, hn, hlimit, ↓reduceIte], isLiteral_ofInt ?_⟩
  rw [habs]
  exact (length_ofNat_valueOfDigits hmantissa.whole_lt hne).trans hlength

/-- A number text that is not beyond the limit is written as a literal of the number it denotes. -/
theorem exists_literal {t : Text} {n : NumberText} (h : Spells t n)
    (hlength : n.isInteger = true → n.whole.length ≤ 4300) :
    ∃ l v x, n.literal = .ok l ∧ IsLiteral l v ∧ IsNumber v x ∧ Denotes t x := by
  by_cases hn : n.isInteger = true
  · obtain ⟨hliteral, hreads⟩ := exists_literal_integer h hn (hlength hn)
    exact ⟨_, _, _, hliteral, hreads, .int _, .integer h hn⟩
  · have hn' : n.isInteger = false := by simpa using hn
    have hread : readReal? t = some n.toDouble := readReal?_of_spells h
    rcases n.toDouble_cases with hinfinite | ⟨m, e, hfinite, hnormal⟩
    · refine ⟨_, _, _, ?_, isLiteral_infinite n.negative, .infinite n.negative,
        .real h hn' (hread.trans (congrArg some hinfinite)) (.infinite n.negative)⟩
      simp only [NumberText.literal, hn', hinfinite, Bool.false_eq_true, ↓reduceIte]
    · refine ⟨_, _, _, ?_, isLiteral_text n.negative hnormal, .finite n.negative m e,
        .real h hn' (hread.trans (congrArg some hfinite)) (.finite n.negative m e)⟩
      simp only [NumberText.literal, hn', hfinite, Bool.false_eq_true, ↓reduceIte]

/-- A number text denotes exactly one number. -/
theorem NumberLike.existsUnique_denotes {t : Text} (h : NumberLike t) : ∃! x, Denotes t x := by
  obtain ⟨n, hn⟩ := h
  obtain ⟨x, hx⟩ : ∃ x, Denotes t x := by
    by_cases hi : n.isInteger = true
    · exact ⟨_, .integer hn hi⟩
    · obtain ⟨-, -, x, -, -, -, hx⟩ := exists_literal hn fun h => absurd h hi
      exact ⟨x, hx⟩
  exact ⟨x, hx, fun y hy => hy.unique hx⟩

end Rulebook
