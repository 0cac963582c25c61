import Rulebook.Proofs.Comparison.Numeric
import Rulebook.Rule.Reader

/-!
# Numbers as they are shown

The text that shows an integer or a finite double looks like a number and denotes the number it shows, whatever its
layout. The text of an infinity is a word like any other.
-/

namespace Rulebook
open Expression Text

/-! ### Runs of digits -/

theorem digitValue?_of_isAsciiDigit : ∀ c < 0x3a, isAsciiDigit c = true → digitValue? c = some (c - 0x30) := by
  decide

theorem isAsciiDigit_lt {c : CodePoint} (h : isAsciiDigit c = true) : c < 0x3a := by
  simp only [isAsciiDigit, Bool.and_eq_true, decide_eq_true_eq] at h
  exact Nat.lt_succ_of_le h.2

variable {s : Text}

theorem digitValues_of_isAsciiDigit (h : ∀ c ∈ s, isAsciiDigit c = true) : digitValues s = s.map (· - 0x30) := by
  induction s with
  | nil => rfl
  | cons c s ih =>
    obtain ⟨hc, hs⟩ := List.forall_mem_cons.1 h
    have hvalue := digitValue?_of_isAsciiDigit c (isAsciiDigit_lt hc) hc
    have hrest := ih hs
    rw [digitValues] at hrest ⊢
    rw [List.filterMap_cons_some hvalue, hrest, List.map_cons]

theorem isDigit_of_isAsciiDigit {c : CodePoint} (h : isAsciiDigit c = true) : isDigit c = true := by
  rw [isDigit, digitValue?_of_isAsciiDigit c (isAsciiDigit_lt h) h]
  rfl

theorem isDigits_of_isAsciiDigit (hne : s ≠ []) (h : ∀ c ∈ s, isAsciiDigit c = true) : IsDigits s :=
  ⟨hne, fun c hc => isDigit_of_isAsciiDigit (h c hc)⟩

theorem valueOfDigits_digitValues (h : ∀ c ∈ s, isAsciiDigit c = true) :
    valueOfDigits (digitValues s) = digitsValue s := by
  rw [digitValues_of_isAsciiDigit h]
  rfl

theorem valueOfDigits_append_digitValues {t : Text} (hs : ∀ c ∈ s, isAsciiDigit c = true)
    (ht : ∀ c ∈ t, isAsciiDigit c = true) : valueOfDigits (digitValues s ++ digitValues t) = digitsValue (s ++ t) := by
  rw [digitValues_of_isAsciiDigit hs, digitValues_of_isAsciiDigit ht, ← List.map_append]
  rfl

theorem length_digitValues (h : ∀ c ∈ s, isAsciiDigit c = true) : (digitValues s).length = s.length := by
  rw [digitValues_of_isAsciiDigit h, List.length_map]

/-! ### Integers -/

/-- The parts of an integer as it is shown. -/
def integerParts (n : ℤ) : NumberText := ⟨n < 0, digitValues (ofNat n.natAbs), [], false, none⟩

theorem spells_ofInt (n : ℤ) : Spells (ofInt n) (integerParts n) := by
  have hdigits := isDigits_of_isAsciiDigit (ofNat_ne_nil n.natAbs) (isAsciiDigit_ofNat n.natAbs)
  cases n with
  | ofNat n => exact ⟨[], [], ofNat n, [], [], by simp [ofInt], nofun, nofun, .absent, .digits hdigits, .absent⟩
  | negSucc n =>
    have hnegative : (integerParts (.negSucc n)).negative = true := decide_eq_true (Int.negSucc_lt_zero n)
    exact ⟨[], [0x2d], ofNat (n + 1), [], [], by simp [ofInt, cp], nofun, nofun, hnegative ▸ .minus, .digits hdigits,
      .absent⟩

theorem toInt_integerParts (n : ℤ) : (integerParts n).toInt = n := by
  have hvalue : valueOfDigits (digitValues (ofNat n.natAbs)) = n.natAbs := by
    rw [valueOfDigits_digitValues (isAsciiDigit_ofNat n.natAbs), digitsValue_ofNat]
  simp only [NumberText.toInt, integerParts, hvalue, decide_eq_true_eq]
  split_ifs <;> omega

/-- An integer is shown by a text that denotes it. -/
theorem denotes_ofInt (n : ℤ) : Denotes (ofInt n) (.ofRat n) := by
  have h := Denotes.integer (spells_ofInt n) rfl
  rwa [toInt_integerParts] at h

theorem not_oversized_ofInt {n : ℤ} (h : (ofNat n.natAbs).length ≤ 4300) : ¬Oversized (ofInt n) := by
  refine not_oversized_of_spells (spells_ofInt n) ?_
  rwa [integerParts, length_digitValues (isAsciiDigit_ofNat n.natAbs)]

/-! ### Doubles -/

theorem isMantissa_point {whole fraction : Text} (hwhole : ∀ c ∈ whole, isAsciiDigit c = true) (hne : whole ≠ [])
    (hfraction : ∀ c ∈ fraction, isAsciiDigit c = true) :
    IsMantissa (whole ++ 0x2e :: fraction) (digitValues whole) (digitValues fraction) true := by
  have hw := isDigits_of_isAsciiDigit hne hwhole
  by_cases hf : fraction = []
  · rw [hf]
    exact .digitsPoint hw
  · exact .digitsPointDigits hw (isDigits_of_isAsciiDigit hf hfraction)

theorem isExponent_exponentText (e : ℤ) : IsExponent (Decimal.exponentText e) (some e) := by
  have hdigits := isDigits_of_isAsciiDigit (exponentDigits_ne_nil e) (isAsciiDigit_exponentDigits e)
  have hvalue : valueOfDigits (digitValues (exponentDigits e)) = e.natAbs := by
    rw [valueOfDigits_digitValues (isAsciiDigit_exponentDigits e), digitsValue_exponentDigits]
  rw [exponentText_eq]
  by_cases he : e < 0
  · have h := IsExponent.present (.inl rfl) .minus hdigits
    rw [hvalue, if_pos rfl, show -(e.natAbs : ℤ) = e by omega] at h
    rw [if_pos he]
    exact h
  · have h := IsExponent.present (.inl rfl) .plus hdigits
    rw [hvalue, if_neg Bool.false_ne_true, show (e.natAbs : ℤ) = e by omega] at h
    rw [if_neg he]
    exact h

/-- A written decimal, under a sign or not, spells a number of its value that is no integer text. -/
theorem Expression.Writes.spells {d : Decimal} {t : Text} (h : Writes d t) (negative : Bool) :
    ∃ n, Spells (if negative then 0x2d :: t else t) n ∧ n.negative = negative ∧ n.isInteger = false ∧
      n.decimal.value = d.value := by
  have hspells : ∀ {mantissa exponent : Text} {w f : List Nat} {pointed : Bool} {e : Option ℤ},
      t = mantissa ++ exponent → IsMantissa mantissa w f pointed → IsExponent exponent e →
        Spells (if negative then 0x2d :: t else t) ⟨negative, w, f, pointed, e⟩ := by
    intro mantissa exponent w f pointed e ht hmantissa hexponent
    cases negative with
    | false => exact ⟨[], [], mantissa, exponent, [], by simp [ht], nofun, nofun, .absent, hmantissa, hexponent⟩
    | true => exact ⟨[], [0x2d], mantissa, exponent, [], by simp [ht], nofun, nofun, .minus, hmantissa, hexponent⟩
  cases h with
  | @point whole fraction hwhole hne hfraction hvalue =>
    refine ⟨_, hspells (List.append_nil _).symm (isMantissa_point hwhole hne hfraction) .absent, rfl, rfl, ?_⟩
    rw [← hvalue, NumberText.decimal, valueOfDigits_append_digitValues hwhole hfraction, length_digitValues hfraction]
    simp
  | @pointExponent whole fraction e hwhole hne hfraction hvalue =>
    refine ⟨_, hspells (by simp) (isMantissa_point hwhole hne hfraction) (isExponent_exponentText e), rfl, rfl, ?_⟩
    rw [← hvalue, NumberText.decimal, valueOfDigits_append_digitValues hwhole hfraction, length_digitValues hfraction]
    rfl
  | @exponent whole e hwhole hne hvalue =>
    have hmantissa := IsMantissa.digits (isDigits_of_isAsciiDigit hne hwhole)
    refine ⟨_, hspells rfl hmantissa (isExponent_exponentText e), rfl, rfl, ?_⟩
    rw [← hvalue, NumberText.decimal]
    simp [valueOfDigits_digitValues hwhole]

/-- The sign of a double is that under which its value is rounded. -/
theorem Double.nearest_sign {q : ℚ} {m : ℕ} {e : ℤ} (h : nearest false q = .finite false m e) (negative : Bool) :
    nearest negative q = .finite negative m e := by
  have hassemble : ∀ {m' : ℕ} {e' : ℤ}, assemble false m' e' = .finite false m e →
      assemble negative m' e' = .finite negative m e := by
    intro m' e' h
    simp only [assemble] at h ⊢
    split_ifs at h ⊢
    all_goals
      cases h
      rfl
  by_cases hq : q = 0
  · rw [nearest, if_pos hq] at h ⊢
    cases h
    rfl
  · rw [nearest, if_neg hq] at h ⊢
    exact hassemble h

/-- A finite double in normal form is shown by a text that denotes it. -/
theorem denotes_text (negative : Bool) {m : ℕ} {e : ℤ} (h : Double.Normal m e) :
    Denotes (Double.finite negative m e).text (.ofRat (Double.finiteValue negative m e)) ∧
      ¬Oversized (Double.finite negative m e).text := by
  obtain ⟨d, t, hwrites, hread, htext⟩ := exists_writes h
  obtain ⟨n, hspells, hnegative, hinteger, hvalue⟩ := hwrites.spells negative
  have hdouble : n.decimal.toDouble n.negative = .finite negative m e := by
    rw [Decimal.toDouble_eq_nearest] at hread ⊢
    rw [hvalue, hnegative]
    exact Double.nearest_sign hread negative
  rw [← htext] at hspells
  refine ⟨.real hspells hinteger ((readReal?_of_spells hspells).trans (congrArg some hdouble)) (.finite _ _ _), ?_⟩
  rintro (⟨n', hn', hinteger', -⟩ | ⟨hlike, -⟩)
  · rw [hspells.unique hn', hinteger'] at hinteger
    cases hinteger
  · exact hlike ⟨n, hspells⟩

/-- An infinity is shown by a word. -/
theorem not_numberLike_infinite (negative : Bool) :
    ¬NumberLike (Double.infinite negative).text ∧ ¬Oversized (Double.infinite negative).text := by
  have hread : ∀ negative, NumberText.read? (Double.infinite negative).text = none := by decide
  have hlike : ¬NumberLike (Double.infinite negative).text := by
    rintro ⟨n, hn⟩
    rw [← NumberText.read?_eq_some_iff, hread] at hn
    cases hn
  refine ⟨hlike, ?_⟩
  rintro (⟨n, hn, -⟩ | ⟨-, hlong⟩)
  · exact hlike ⟨n, hn⟩
  · revert hlong
    cases negative <;> decide

/-! ### Numbers -/

/-- The value is an integer of at most 4300 digits or a double, and denotes the number. -/
inductive IsNumeral : Value → ExtendedRational → Prop
  | int {n : ℤ} (h : (ofNat n.natAbs).length ≤ 4300) : IsNumeral (.int n) (.ofRat n)
  | finite (negative : Bool) {m : ℕ} {e : ℤ} (h : Double.Normal m e) :
      IsNumeral (.float (.finite negative m e)) (.ofRat (Double.finiteValue negative m e))
  | infinite (negative : Bool) : IsNumeral (.float (.infinite negative)) (if negative then ⊥ else ⊤)

/-- The value is an infinity. -/
def Value.isInfinite : Value → Bool
  | .float (.infinite _) => true
  | _ => false

/-- The text shows the value, which denotes the number: a number text of that number, or the word of an infinity. -/
inductive Shows : Text → Value → ExtendedRational → Prop
  | finite {t : Text} {a : Value} {q : ℚ} (ha : a.isInfinite = false) (h : Denotes t (.ofRat q)) (hsize : ¬Oversized t) :
      Shows t a (.ofRat q)
  | infinite (negative : Bool) :
      Shows (Double.infinite negative).text (.float (.infinite negative)) (if negative then ⊥ else ⊤)

/-- A number is shown by one text, in templates and as a comparand. -/
theorem IsNumeral.exists_shows {a : Value} {x : ExtendedRational} (h : IsNumeral a x) :
    ∃ t, Shows t a x ∧ a.plain = .ok t ∧ ∀ role, scalarText role a = .ok t := by
  cases h with
  | @int n hlength =>
    have htext : integerText n = .ok (ofInt n) := by
      have hlimit : (ofNat n.natAbs).length ≤ maxIntegerDigits := hlength
      simp [integerText, hlimit]
    exact ⟨ofInt n, .finite rfl (denotes_ofInt n) (not_oversized_ofInt hlength), htext,
      fun _ => by rw [scalarText, htext]; rfl⟩
  | finite negative hnormal =>
    obtain ⟨hdenotes, hsize⟩ := denotes_text negative hnormal
    exact ⟨_, .finite rfl hdenotes hsize, rfl, fun _ => rfl⟩
  | infinite negative => exact ⟨_, .infinite negative, rfl, fun _ => rfl⟩

/-- White space, digits and marks are all that a number text is made of. -/
theorem NumberLike.mem (h : NumberLike s) {c : CodePoint} (hc : c ∈ s) :
    isSpace c = true ∨ isDigit c = true ∨ c ∈ numberMarks := by
  obtain ⟨n, before, sign, mantissa, exponent, after, rfl, hbefore, hafter, hsign, hmantissa, hexponent⟩ := h
  rcases List.mem_append.1 hc with hc | hc
  · exact .inl (hbefore c hc)
  · rcases List.mem_append.1 hc with hc | hc
    · exact .inr (NumberText.mem_number hsign hmantissa hexponent c hc)
    · exact .inl (hafter c hc)

/-- The text of a number refers to no variable. -/
theorem Shows.not_isReference {a : Value} {x : ExtendedRational} (h : Shows s a x) : isReference s = false := by
  cases h with
  | finite ha h hsize =>
    cases s with
    | nil => rfl
    | cons c s =>
      have hmark : c ≠ variableMark := by
        rintro rfl
        exact absurd (h.numberLike.mem List.mem_cons_self) (by decide)
      simpa [isReference] using hmark
  | infinite negative => cases negative <;> decide

/-! ### Comparisons -/

/-- Exactly one of the values is an infinity, and they are to be ordered. -/
def Unordered (a b : Value) (op : Operator) : Prop := a.isInfinite ≠ b.isInfinite ∧ op ≠ .numEq

section comparisons
variable (limit : Int) {a b : Value} {x y : ExtendedRational} {f v : Text} {op : Operator}
  (hop : op ∈ Operator.numeric)
include hop

/-- The words of two infinities are ordered as the infinities are. -/
theorem result_compareTexts_infinite (negative negative' : Bool) :
    (compareTexts limit (Double.infinite negative).text (Double.infinite negative').text op false).result =
      .ok (decide (op.relation.On (if negative then ⊥ else ⊤ : ExtendedRational) (if negative' then ⊥ else ⊤))) := by
  obtain ⟨hlike, hsize⟩ := not_numberLike_infinite negative
  obtain ⟨hlike', hsize'⟩ := not_numberLike_infinite negative'
  rw [result_compareTexts_texts limit hop false hsize hsize' hlike hlike', Bool.xor_false]
  congr 1
  refine decide_eq_decide.2 ?_
  have hwords : (Double.infinite true).text < (Double.infinite false).text := by decide
  have hends : (⊥ : ExtendedRational) < ⊤ := bot_lt_top
  simp only [Operator.numeric, List.mem_cons, List.not_mem_nil, or_false] at hop
  rcases hop with rfl | rfl | rfl <;> cases negative <;> cases negative' <;>
    simp [Operator.relation, Relation.On, hwords, hends, hwords.ne, hwords.ne', hwords.not_gt, hends.ne, hends.ne']

/-- Two numbers that can be ordered compare as they are, although it is their texts that are compared. -/
theorem result_compareTexts_shown (hf : Shows f a x) (hv : Shows v b y) (h : ¬Unordered a b op) :
    (compareTexts limit f v op false).result = .ok (decide (op.relation.On x y)) := by
  have hequal : a.isInfinite ≠ b.isInfinite → op = .numEq := fun hne => not_not.1 fun hop => h ⟨hne, hop⟩
  have hne : ∀ {q : ℚ} (negative : Bool), (ExtendedRational.ofRat q) ≠ if negative then ⊥ else ⊤ := by
    rintro q (_ | _) <;> simp [ExtendedRational.ofRat]
  cases hf with
  | finite ha hx hsize =>
    cases hv with
    | finite hb hy hsize' =>
      rw [result_compareTexts_numbers limit hop false hsize hsize' hx hy, Bool.xor_false]
    | infinite negative =>
      obtain ⟨hlike, hsize'⟩ := not_numberLike_infinite negative
      obtain rfl := hequal fun heq => absurd (ha.symm.trans heq) Bool.false_ne_true
      rw [result_compareTexts_mixed limit hop false hsize hsize' ⟨fun _ => hlike, fun _ => hx.numberLike⟩ rfl]
      simp [Operator.relation, Relation.On, hne]
  | infinite negative =>
    cases hv with
    | finite hb hy hsize =>
      obtain ⟨hlike, hsize'⟩ := not_numberLike_infinite negative
      obtain rfl := hequal fun heq => absurd (heq.trans hb).symm Bool.false_ne_true
      rw [result_compareTexts_mixed limit hop false hsize' hsize
        ⟨fun h => absurd h hlike, fun h => absurd hy.numberLike h⟩ rfl]
      simp [Operator.relation, Relation.On, (hne _).symm]
    | infinite negative' => exact result_compareTexts_infinite limit hop negative negative'

/-- An infinity and another number cannot be ordered: its word is no number text. -/
theorem evaluationError_of_unordered (hf : Shows f a x) (hv : Shows v b y) (h : Unordered a b op) :
    EndsInEvaluationError (compareTexts limit f v op false) := by
  obtain ⟨hne, hop'⟩ := h
  cases hf with
  | finite ha hx hsize =>
    cases hv with
    | finite hb hy hsize' => exact absurd (ha.trans hb.symm) hne
    | infinite negative =>
      obtain ⟨hlike, hsize'⟩ := not_numberLike_infinite negative
      exact evaluationError_of_mixed limit hop false hsize hsize' ⟨fun _ => hlike, fun _ => hx.numberLike⟩ hop'
  | infinite negative =>
    obtain ⟨hlike, hsize'⟩ := not_numberLike_infinite negative
    cases hv with
    | finite hb hy hsize =>
      exact evaluationError_of_mixed limit hop false hsize' hsize
        ⟨fun h => absurd h hlike, fun h => absurd hy.numberLike h⟩ hop'
    | infinite negative' => exact absurd rfl hne

end comparisons

end Rulebook
