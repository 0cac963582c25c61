import Rulebook.Proofs.Expression.Literal
import Rulebook.Proofs.Number.Decimal

/-!
# Number literals

A written number reads as a literal of that number: an integer in decimal digits as itself, and a double as the
decimal it is written with, wherever the point stands and whether there is an exponent or not.
-/

namespace Rulebook.Expression
open Text

/-! ### Runs of digits -/

theorem spanDigits_append {s rest : Text} (hs : ∀ c ∈ s, isAsciiDigit c = true)
    (hrest : rest.takeWhile isAsciiDigit = []) : spanDigits (s ++ rest) = (s, rest) := by
  obtain ⟨htake, hdrop⟩ := takeWhile_dropWhile_append rest hs (takeWhile_eq_nil_iff_head?.1 hrest)
  rw [spanDigits, htake, hdrop]

theorem Bounded.takeWhile_isAsciiDigit {rest : Text} (h : Bounded rest) : rest.takeWhile isAsciiDigit = [] := by
  rcases h with rfl | ⟨t, rfl⟩
  · rfl
  · exact List.takeWhile_cons_of_neg (by decide)

theorem Bounded.readExponent {rest : Text} (h : Bounded rest) : readExponent rest = none := by
  rcases h with rfl | ⟨t, rfl⟩ <;> rfl

/-- The digits of a written exponent. -/
def exponentDigits (e : Int) : Text :=
  if (ofNat e.natAbs).length < 2 then cp '0' :: ofNat e.natAbs else ofNat e.natAbs

theorem exponentText_eq (e : Int) :
    Decimal.exponentText e = 0x65 :: (if e < 0 then 0x2d else 0x2b) :: exponentDigits e := rfl

theorem isAsciiDigit_exponentDigits (e : Int) : ∀ c ∈ exponentDigits e, isAsciiDigit c = true := by
  unfold exponentDigits
  split_ifs
  · exact List.forall_mem_cons.2 ⟨by decide, isAsciiDigit_ofNat _⟩
  · exact isAsciiDigit_ofNat _

theorem exponentDigits_ne_nil (e : Int) : exponentDigits e ≠ [] := by
  unfold exponentDigits
  split_ifs
  · exact List.cons_ne_nil _ _
  · exact ofNat_ne_nil _

theorem digitsValue_exponentDigits (e : Int) : digitsValue (exponentDigits e) = e.natAbs := by
  unfold exponentDigits
  split_ifs
  · rw [← List.singleton_append, digitsValue_append, digitsValue_ofNat]
    simp [digitsValue, valueOfDigits, cp]
  · exact digitsValue_ofNat _

theorem exponentAfter_exponentDigits (negative : Bool) (e : Int) {rest : Text} (h : Bounded rest) :
    readExponent.exponentAfter negative (exponentDigits e ++ rest) =
      some (if negative then -(e.natAbs : Int) else e.natAbs, rest) := by
  have hspan := spanDigits_append (isAsciiDigit_exponentDigits e) h.takeWhile_isAsciiDigit
  have hempty : (exponentDigits e).isEmpty = false := List.isEmpty_eq_false_iff.2 (exponentDigits_ne_nil e)
  simp only [readExponent.exponentAfter, hspan, hempty, Bool.false_eq_true, ↓reduceIte, digitsValue_exponentDigits]

/-- A written exponent is read back. -/
theorem readExponent_exponentText (e : Int) {rest : Text} (h : Bounded rest) :
    readExponent (Decimal.exponentText e ++ rest) = some (e, rest) := by
  rw [exponentText_eq]
  by_cases he : e < 0
  · have hread := exponentAfter_exponentDigits true e h
    rw [if_pos rfl, show -(e.natAbs : Int) = e by omega] at hread
    rw [if_pos he]
    exact hread
  · have hread := exponentAfter_exponentDigits false e h
    rw [if_neg Bool.false_ne_true, show (e.natAbs : Int) = e by omega] at hread
    rw [if_neg he]
    exact hread

/-! ### Numbers without a sign -/

section unsigned
variable {whole fraction rest : Text} (hwhole : ∀ c ∈ whole, isAsciiDigit c = true) (hne : whole ≠ [])
include hwhole hne

theorem readUnsigned_point (hfraction : ∀ c ∈ fraction, isAsciiDigit c = true) (h : Bounded rest) :
    readUnsigned (whole ++ 0x2e :: (fraction ++ rest)) =
      some (.float ((⟨digitsValue (whole ++ fraction), -(fraction.length : Int)⟩ : Decimal).toDouble false), rest) := by
  have hspan : spanDigits (whole ++ 0x2e :: (fraction ++ rest)) = (whole, 0x2e :: (fraction ++ rest)) :=
    spanDigits_append hwhole (List.takeWhile_cons_of_neg (by decide))
  have hfspan := spanDigits_append hfraction h.takeWhile_isAsciiDigit
  obtain ⟨first, more, rfl⟩ := List.exists_cons_of_ne_nil hne
  simp only [readUnsigned, hspan, hfspan, h.readExponent, ↓reduceIte]

theorem readUnsigned_point_exponent (hfraction : ∀ c ∈ fraction, isAsciiDigit c = true) (e : Int)
    (h : Bounded rest) :
    readUnsigned (whole ++ 0x2e :: (fraction ++ (Decimal.exponentText e ++ rest))) =
      some (.float ((⟨digitsValue (whole ++ fraction), e - fraction.length⟩ : Decimal).toDouble false), rest) := by
  have hspan : spanDigits (whole ++ 0x2e :: (fraction ++ (Decimal.exponentText e ++ rest))) =
      (whole, 0x2e :: (fraction ++ (Decimal.exponentText e ++ rest))) :=
    spanDigits_append hwhole (List.takeWhile_cons_of_neg (by decide))
  have hfspan : spanDigits (fraction ++ (Decimal.exponentText e ++ rest)) =
      (fraction, Decimal.exponentText e ++ rest) :=
    spanDigits_append hfraction (List.takeWhile_cons_of_neg (by decide))
  obtain ⟨first, more, rfl⟩ := List.exists_cons_of_ne_nil hne
  simp only [readUnsigned, hspan, hfspan, readExponent_exponentText e h]

theorem readUnsigned_exponent (e : Int) (h : Bounded rest) :
    readUnsigned (whole ++ (Decimal.exponentText e ++ rest)) =
      some (.float ((⟨digitsValue whole, e⟩ : Decimal).toDouble false), rest) := by
  have hspan : spanDigits (whole ++ (Decimal.exponentText e ++ rest)) = (whole, Decimal.exponentText e ++ rest) :=
    spanDigits_append hwhole (List.takeWhile_cons_of_neg (by decide))
  have hread := readExponent_exponentText e h
  obtain ⟨mark, hmark⟩ : ∃ t, Decimal.exponentText e ++ rest = 0x65 :: t := ⟨_, rfl⟩
  obtain ⟨first, more, rfl⟩ := List.exists_cons_of_ne_nil hne
  rw [hmark] at hspan hread ⊢
  simp only [readUnsigned, hspan, hread, List.append_nil, List.length_nil, Nat.cast_zero, sub_zero]

theorem readUnsigned_whole (hzero : whole.length = 1 ∨ whole.head hne ≠ 0x30) (hlength : whole.length ≤ 4300)
    (h : Bounded rest) : readUnsigned (whole ++ rest) = some (.int (digitsValue whole), rest) := by
  have hspan := spanDigits_append hwhole h.takeWhile_isAsciiDigit
  obtain ⟨first, more, rfl⟩ := List.exists_cons_of_ne_nil hne
  have hlead : ¬((first = 0x30 ∧ (!more.isEmpty) = true) ∨ 4300 < (first :: more).length) := by
    rintro (⟨hfirst, hmore⟩ | hlong)
    · rcases hzero with hone | hhead
      · simp [List.length_eq_zero_iff.1 (Nat.succ.inj hone)] at hmore
      · exact hhead hfirst
    · omega
  have hexponent := h.readExponent
  rcases h with rfl | ⟨t, rfl⟩
  · simp only [readUnsigned, hspan, hexponent, hlead, Bool.false_eq_true, ↓reduceIte]
  · simp only [readUnsigned, hspan, hexponent, hlead, Bool.false_eq_true, ↓reduceIte]

end unsigned

/-! ### Written decimals -/

/-- The text is a decimal of the same value, with a point, an exponent or both. -/
inductive Writes (d : Decimal) : Text → Prop
  | point {whole fraction : Text} (hwhole : ∀ c ∈ whole, isAsciiDigit c = true) (hne : whole ≠ [])
      (hfraction : ∀ c ∈ fraction, isAsciiDigit c = true)
      (hvalue : Decimal.value ⟨digitsValue (whole ++ fraction), -(fraction.length : Int)⟩ = d.value) :
      Writes d (whole ++ 0x2e :: fraction)
  | pointExponent {whole fraction : Text} (e : Int) (hwhole : ∀ c ∈ whole, isAsciiDigit c = true) (hne : whole ≠ [])
      (hfraction : ∀ c ∈ fraction, isAsciiDigit c = true)
      (hvalue : Decimal.value ⟨digitsValue (whole ++ fraction), e - fraction.length⟩ = d.value) :
      Writes d (whole ++ 0x2e :: (fraction ++ Decimal.exponentText e))
  | exponent {whole : Text} (e : Int) (hwhole : ∀ c ∈ whole, isAsciiDigit c = true) (hne : whole ≠ [])
      (hvalue : Decimal.value ⟨digitsValue whole, e⟩ = d.value) : Writes d (whole ++ Decimal.exponentText e)

/-- A written decimal reads as the double of its value. -/
theorem Writes.readUnsigned {d : Decimal} {t rest : Text} (hwrites : Writes d t) (h : Bounded rest) :
    readUnsigned (t ++ rest) = some (.float (d.toDouble false), rest) := by
  cases hwrites with
  | point hwhole hne hfraction hvalue =>
    rw [List.append_assoc, List.cons_append, readUnsigned_point hwhole hne hfraction h, Decimal.toDouble_congr hvalue]
  | pointExponent e hwhole hne hfraction hvalue =>
    rw [List.append_assoc, List.cons_append, List.append_assoc, readUnsigned_point_exponent hwhole hne hfraction e h,
      Decimal.toDouble_congr hvalue]
  | exponent e hwhole hne hvalue =>
    rw [List.append_assoc, readUnsigned_exponent hwhole hne e h, Decimal.toDouble_congr hvalue]

theorem isSpace_of_isAsciiDigit {c : CodePoint} (h : isAsciiDigit c = true) : isSpace c = false := by
  have htable : ∀ d < 0x3a, isAsciiDigit d = true → isSpace d = false := by decide
  have hlt : c ≤ 0x39 := by
    simp only [isAsciiDigit, Bool.and_eq_true, decide_eq_true_eq] at h
    exact h.2
  exact htable c (Nat.lt_succ_of_le hlt) h

theorem not_isSpace_exponentText (e : Int) : ∀ c ∈ Decimal.exponentText e, isSpace c = false := by
  rw [exponentText_eq, List.forall_mem_cons, List.forall_mem_cons]
  refine ⟨by decide, ?_, fun c hc => isSpace_of_isAsciiDigit (isAsciiDigit_exponentDigits e c hc)⟩
  split_ifs <;> decide

/-- A written decimal has no white space in it. -/
theorem Writes.not_isSpace {d : Decimal} {t : Text} (hwrites : Writes d t) : ∀ c ∈ t, isSpace c = false := by
  cases hwrites with
  | point hwhole _ hfraction _ =>
    rw [List.forall_mem_append, List.forall_mem_cons]
    exact ⟨fun c hc => isSpace_of_isAsciiDigit (hwhole c hc), by decide,
      fun c hc => isSpace_of_isAsciiDigit (hfraction c hc)⟩
  | pointExponent e hwhole _ hfraction _ =>
    rw [List.forall_mem_append, List.forall_mem_cons, List.forall_mem_append]
    exact ⟨fun c hc => isSpace_of_isAsciiDigit (hwhole c hc), by decide,
      fun c hc => isSpace_of_isAsciiDigit (hfraction c hc), not_isSpace_exponentText e⟩
  | exponent e hwhole _ _ =>
    rw [List.forall_mem_append]
    exact ⟨fun c hc => isSpace_of_isAsciiDigit (hwhole c hc), not_isSpace_exponentText e⟩

/-- A written decimal starts with a digit. -/
theorem Writes.head {d : Decimal} {t : Text} (hwrites : Writes d t) : ∃ c s, t = c :: s ∧ isAsciiDigit c = true := by
  have hcons : ∀ {whole : Text} (s : Text), (∀ c ∈ whole, isAsciiDigit c = true) → whole ≠ [] →
      ∃ c s', whole ++ s = c :: s' ∧ isAsciiDigit c = true := by
    intro whole s hwhole hne
    obtain ⟨c, more, rfl⟩ := List.exists_cons_of_ne_nil hne
    exact ⟨c, more ++ s, rfl, hwhole c List.mem_cons_self⟩
  cases hwrites with
  | point hwhole hne _ _ => exact hcons _ hwhole hne
  | pointExponent e hwhole hne _ _ => exact hcons _ hwhole hne
  | exponent e hwhole hne _ => exact hcons _ hwhole hne

theorem isAsciiDigit_zeros (n : Nat) : ∀ c ∈ List.replicate n 0x30, isAsciiDigit c = true := by
  intro c hc
  rw [List.eq_of_mem_replicate hc]
  decide

theorem digitsValue_append_zeros (s : Text) (n : Nat) :
    digitsValue (s ++ List.replicate n 0x30) = digitsValue s * 10 ^ n := by
  rw [digitsValue_append, digitsValue_zeros, List.length_replicate, Nat.add_zero]

/-- Zeros up to the point, and one behind it. -/
theorem writes_zeros_behind (c k : Nat) : Writes ⟨c, k⟩ ((ofNat c ++ List.replicate k 0x30) ++ 0x2e :: [0x30]) := by
  have hvalue : digitsValue (ofNat c ++ List.replicate k 0x30 ++ [0x30]) = c * 10 ^ (k + 1) := by
    rw [List.append_assoc, ← List.replicate_succ', digitsValue_append_zeros, digitsValue_ofNat]
  refine .point (List.forall_mem_append.2 ⟨isAsciiDigit_ofNat c, isAsciiDigit_zeros k⟩) (by simp [ofNat_ne_nil])
    (by decide) ?_
  rw [hvalue, Decimal.value_mul_ten_pow]
  congr 2
  simp

/-- The point among the digits. -/
theorem writes_point_among (c : Nat) {e : Int} {k : Nat} (hk : (k : Int) = e + (ofNat c).length) (hpos : 0 < k)
    (hle : k ≤ (ofNat c).length) : Writes ⟨c, e⟩ ((ofNat c).take k ++ 0x2e :: (ofNat c).drop k) := by
  have hdigits := isAsciiDigit_ofNat c
  refine .point (fun x hx => hdigits x (List.mem_of_mem_take hx)) ?_ (fun x hx => hdigits x (List.mem_of_mem_drop hx)) ?_
  · rw [ne_eq, List.take_eq_nil_iff]
    exact not_or.2 ⟨by omega, ofNat_ne_nil c⟩
  · rw [List.take_append_drop, digitsValue_ofNat, List.length_drop]
    congr 2
    omega

/-- The point before the digits, with zeros between them. -/
theorem writes_zeros_before (c : Nat) {e : Int} {k : Nat} (hk : e = -(k + (ofNat c).length : Int)) :
    Writes ⟨c, e⟩ ([0x30] ++ 0x2e :: (List.replicate k 0x30 ++ ofNat c)) := by
  have hvalue : digitsValue ([0x30] ++ (List.replicate k 0x30 ++ ofNat c)) = c := by
    rw [← List.append_assoc, List.singleton_append, ← List.replicate_succ, digitsValue_append, digitsValue_zeros,
      digitsValue_ofNat]
    omega
  refine .point (by decide) (by decide) (List.forall_mem_append.2 ⟨isAsciiDigit_zeros k, isAsciiDigit_ofNat c⟩) ?_
  rw [hvalue, List.length_append, List.length_replicate]
  congr 2
  omega

/-- An exponent behind a single digit. -/
theorem writes_digit_exponent {c : Nat} {x : CodePoint} (hcons : ofNat c = [x]) {e m : Int} (hm : m = e) :
    Writes ⟨c, e⟩ ([x] ++ Decimal.exponentText m) := by
  subst hm
  refine .exponent m ?_ (by simp) ?_
  · rw [← hcons]
    exact isAsciiDigit_ofNat c
  · rw [← hcons, digitsValue_ofNat]

/-- An exponent behind several digits, with the point behind the first one. -/
theorem writes_digits_exponent {c : Nat} {x : CodePoint} {more : Text} (hcons : ofNat c = x :: more) {e m : Int}
    (hm : m = e + more.length) : Writes ⟨c, e⟩ ([x] ++ 0x2e :: (more ++ Decimal.exponentText m)) := by
  have hdigits : ∀ d ∈ [x] ++ more, isAsciiDigit d = true := by
    rw [List.singleton_append, ← hcons]
    exact isAsciiDigit_ofNat c
  rw [List.forall_mem_append] at hdigits
  refine .pointExponent m hdigits.1 (by simp) hdigits.2 ?_
  rw [List.singleton_append, ← hcons, digitsValue_ofNat]
  congr 2
  omega

/-- In any layout a decimal is written as one of its value. -/
theorem writes_render (layout : Decimal.Layout) (d : Decimal) : Writes d (Decimal.render layout d) := by
  obtain ⟨c, e⟩ := d
  have hpos : 0 < (ofNat c).length := List.length_pos_iff.2 (ofNat_ne_nil c)
  unfold Decimal.render
  dsimp only
  split_ifs with hplace hwhole hpoint
  · obtain ⟨k, rfl⟩ := Int.eq_ofNat_of_zero_le hwhole
    exact writes_zeros_behind c k
  · exact writes_point_among c (by omega) (by omega) (by omega)
  · exact writes_zeros_before c (by omega)
  · rcases hcons : ofNat c with _ | ⟨x, _ | ⟨y, more⟩⟩
    · exact absurd hcons (ofNat_ne_nil c)
    · exact writes_digit_exponent hcons (by simp)
    · exact writes_digits_exponent hcons (by simp only [List.length_cons]; omega)

/-- The text reads as a number of the value, and has no white space in it. -/
structure IsUnsigned (t : Text) (a : Value) : Prop where
  reads : ∀ rest, Bounded rest → readUnsigned (t ++ rest) = some (a, rest)
  head : ∃ c s, t = c :: s ∧ isAsciiDigit c = true
  solid : ∀ c ∈ t, isSpace c = false

theorem exists_append_singleton {t : Text} (hne : t ≠ []) (h : ∀ c ∈ t, isSpace c = false) :
    ∃ s c, t = s ++ [c] ∧ isSpace c = false :=
  ⟨t.dropLast, t.getLast hne, (List.dropLast_append_getLast hne).symm, h _ (List.getLast_mem hne)⟩

namespace IsUnsigned
variable {t : Text} {a b : Value}

theorem ne_nil (h : IsUnsigned t a) : t ≠ [] := by
  obtain ⟨c, s, rfl, -⟩ := h.head
  exact List.cons_ne_nil c s

/-- A number without a sign is a literal. -/
theorem isLiteral (h : IsUnsigned t a) : IsLiteral t a where
  reads rest hrest := by
    have hread := h.reads rest hrest
    obtain ⟨c, s, rfl, hc⟩ := h.head
    have hquote : c ≠ 0x22 := by rintro rfl; exact absurd hc (by decide)
    have hminus : c ≠ 0x2d := by rintro rfl; exact absurd hc (by decide)
    rw [List.cons_append] at hread ⊢
    rw [readLiteral, hread]
    · rintro s' ⟨⟩; exact hquote rfl
    · rintro s' ⟨⟩; exact hminus rfl
  opens := by
    obtain ⟨c, s, rfl, hc⟩ := h.head
    exact ⟨c, s, rfl, isSpace_of_isAsciiDigit hc⟩
  closes := exists_append_singleton h.ne_nil h.solid

/-- A number after a minus sign is a literal of the number with its sign changed. -/
theorem isLiteral_minus (h : IsUnsigned t a) (hb : negate? a = some b) : IsLiteral (0x2d :: t) b where
  reads rest hrest := by simp [readLiteral, h.reads rest hrest, hb]
  opens := ⟨0x2d, t, rfl, by decide⟩
  closes := by
    obtain ⟨s, c, hs, hc⟩ := exists_append_singleton h.ne_nil h.solid
    exact ⟨0x2d :: s, c, by rw [hs]; rfl, hc⟩

end IsUnsigned

theorem Writes.isUnsigned {d : Decimal} {t : Text} (h : Writes d t) : IsUnsigned t (.float (d.toDouble false)) :=
  ⟨fun _ hrest => h.readUnsigned hrest, h.head, h.not_isSpace⟩

theorem isUnsigned_ofNat {n : Nat} (h : (ofNat n).length ≤ 4300) : IsUnsigned (ofNat n) (.int n) where
  reads rest hrest := by
    have hzero : (ofNat n).length = 1 ∨ (ofNat n).head (ofNat_ne_nil n) ≠ 0x30 := by
      by_cases hn : n = 0
      · exact .inl (by rw [hn, ofNat_of_lt (by decide)]; rfl)
      · exact .inr (head_ofNat hn)
    rw [readUnsigned_whole (isAsciiDigit_ofNat n) (ofNat_ne_nil n) hzero h hrest, digitsValue_ofNat]
  head := by
    obtain ⟨c, s, hcs⟩ := List.exists_cons_of_ne_nil (ofNat_ne_nil n)
    exact ⟨c, s, hcs, isAsciiDigit_ofNat n c (by rw [hcs]; exact List.mem_cons_self)⟩
  solid c hc := isSpace_of_isAsciiDigit (isAsciiDigit_ofNat n c hc)

/-- An integer with at most 4300 digits is written as a literal of itself. -/
theorem isLiteral_ofInt {n : Int} (h : (ofNat n.natAbs).length ≤ 4300) : IsLiteral (ofInt n) (.int n) := by
  cases n with
  | ofNat n => exact (isUnsigned_ofNat h).isLiteral
  | negSucc n => exact (isUnsigned_ofNat h).isLiteral_minus rfl

/-- The digits of a double in normal form, without its sign, are written as a decimal that reads back as it. -/
theorem exists_writes {m : Nat} {e : Int} (h : Double.Normal m e) :
    ∃ d t, Writes d t ∧ d.toDouble false = .finite false m e ∧
      ∀ negative, (Double.finite negative m e).text = if negative then 0x2d :: t else t := by
  by_cases hm : m = 0
  · have he : e = Double.leastExponent := h.full.resolve_right (by rw [hm]; decide)
    refine ⟨⟨0, 0⟩, [0x30] ++ 0x2e :: [0x30], .point (by decide) (by decide) (by decide) ?_, ?_, ?_⟩
    · simp [Decimal.value, digitsValue, valueOfDigits]
    · rw [hm, he]; rfl
    · intro negative
      rw [hm]; rfl
  · refine ⟨_, _, writes_render Decimal.standardLayout _,
      Decimal.toDouble_shortest h hm, fun negative => ?_⟩
    rw [Double.text, if_neg hm]
    rfl

/-- A finite double in normal form is written as a literal of itself. -/
theorem isLiteral_text (negative : Bool) {m : Nat} {e : Int} (h : Double.Normal m e) :
    IsLiteral (Double.finite negative m e).text (.float (.finite negative m e)) := by
  obtain ⟨d, t, hwrites, hread, htext⟩ := exists_writes h
  have hunsigned := hwrites.isUnsigned
  rw [hread] at hunsigned
  rw [htext]
  cases negative with
  | false => exact hunsigned.isLiteral
  | true => exact hunsigned.isLiteral_minus rfl

/-- A number beyond the range reads as an infinity. -/
theorem isUnsigned_infinite : IsUnsigned "1e999" (.float (.infinite false)) where
  reads rest hrest := by
    have hwhole : spanDigits ([0x31] ++ 0x65 :: ([0x39, 0x39, 0x39] ++ rest)) =
        ([0x31], 0x65 :: ([0x39, 0x39, 0x39] ++ rest)) :=
      spanDigits_append (by decide) (List.takeWhile_cons_of_neg (by decide))
    have hdigits : spanDigits ([0x39, 0x39, 0x39] ++ rest) = ([0x39, 0x39, 0x39], rest) :=
      spanDigits_append (by decide) hrest.takeWhile_isAsciiDigit
    have hexponent : readExponent (0x65 :: ([0x39, 0x39, 0x39] ++ rest)) = some (999, rest) := by
      show readExponent.exponentAfter false ([0x39, 0x39, 0x39] ++ rest) = _
      rw [readExponent.exponentAfter, hdigits]
      rfl
    have hinfinite : (⟨1, 999⟩ : Decimal).toDouble false = .infinite false := by
      rw [Decimal.toDouble_eq_nearest, Double.nearest_of_large]
      rw [Decimal.value, Nat.cast_one, one_mul, zpow_ofNat]
      exact pow_le_pow_right₀ (by norm_num) (by norm_num)
    show readUnsigned ([0x31] ++ 0x65 :: ([0x39, 0x39, 0x39] ++ rest)) = _
    simp only [readUnsigned, hwhole, hexponent]
    exact congrArg (fun x => some (Value.float x, rest)) hinfinite
  head := ⟨0x31, [0x65, 0x39, 0x39, 0x39], by decide, by decide⟩
  solid := by decide

/-- An infinity is written as a literal of itself. -/
theorem isLiteral_infinite (negative : Bool) :
    IsLiteral (if negative then "-1e999" else "1e999") (.float (.infinite negative)) := by
  cases negative with
  | false => exact isUnsigned_infinite.isLiteral
  | true => exact isUnsigned_infinite.isLiteral_minus rfl

end Rulebook.Expression
