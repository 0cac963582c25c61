import Rulebook.Number.Real
import Rulebook.Proofs.Comparison.NumberText
import Rulebook.Proofs.Number.Decimal

/-!
# Conversions of number texts

A number text of only a sign and digits is converted to the integer it denotes, as far as integer texts are read
at all; every number text is converted to the double nearest to the decimal it denotes.
-/

namespace Rulebook
open Text

/-! ### Digits with marks between them -/

theorem digitValue?_lt {c : CodePoint} {d : Nat} (h : digitValue? c = some d) : d < 10 := by
  simp only [digitValue?] at h
  split at h
  · split at h
    · next hc =>
      cases h
      exact Nat.sub_lt_left_of_lt_add hc.1 hc.2
    · cases h
  · cases h

theorem digitValues_lt {t : Text} : ∀ d ∈ digitValues t, d < 10 := by
  intro d hd
  obtain ⟨c, -, hc⟩ := List.mem_filterMap.1 hd
  exact digitValue?_lt hc

theorem exists_digitValue {c : CodePoint} (ds : Text) (h : isDigit c = true) :
    ∃ d, digitValue? c = some d ∧ digitValues (c :: ds) = d :: digitValues ds := by
  obtain ⟨d, hd⟩ := Option.isSome_iff_exists.1 h
  exact ⟨d, hd, List.filterMap_cons_some hd⟩

/-- Neither a digit nor a mark between digits stands at the beginning. -/
def EndsDigits (rest : Text) : Prop := ∀ c s, rest = c :: s → isDigit c = false ∧ c ≠ 0x5f

theorem endsDigits_nil : EndsDigits [] := fun _ _ h => absurd h.symm (List.cons_ne_nil _ _)

theorem endsDigits_point (s : Text) : EndsDigits (0x2e :: s) := by
  rintro c s' ⟨⟩
  decide

theorem IsExponent.endsDigits {t : Text} {e : Option Int} (h : IsExponent t e) : EndsDigits t := by
  cases h with
  | absent => exact endsDigits_nil
  | present hmark _ _ =>
    rintro c s ⟨⟩
    rcases hmark with rfl | rfl <;> decide

theorem spanMarkedDigits_append {ds rest : Text} (hds : ∀ c ∈ ds, isDigit c = true) (hrest : EndsDigits rest)
    (done : List Nat) : spanMarkedDigits done (ds ++ rest) = (done.reverse ++ digitValues ds, rest) := by
  induction ds generalizing done with
  | nil =>
    cases rest with
    | nil => simp [spanMarkedDigits, digitValues]
    | cons c s =>
      obtain ⟨hdigit, hmark⟩ := hrest c s rfl
      have hvalue : digitValue? c = none := by simpa [isDigit] using hdigit
      rw [List.nil_append, spanMarkedDigits.eq_def]
      simp [hvalue, hmark, digitValues]
  | cons c ds ih =>
    obtain ⟨hc, hds⟩ := List.forall_mem_cons.1 hds
    obtain ⟨d, hd, hvalues⟩ := exists_digitValue ds hc
    rw [List.cons_append, spanMarkedDigits.eq_def]
    simp [hd, hvalues, ih hds]

/-! ### Doubles -/

theorem wholeExponent?_of_isExponent {t : Text} {e : Option Int} (h : IsExponent t e) :
    wholeExponent? t = some (e.getD 0) := by
  cases h with
  | absent => rfl
  | @present mark sign ds negative hmark hsign hds =>
    have hspan : spanMarkedDigits [] ds = (digitValues ds, []) := by
      have h := spanMarkedDigits_append hds.digit endsDigits_nil []
      rwa [List.append_nil] at h
    have hmark' : mark = cp 'e' ∨ mark = cp 'E' := hmark
    simp [wholeExponent?, hmark', splitSign_digits hsign hds, hspan, hds.isEmpty]

/-- The decimal that a number text denotes, without its sign. -/
def NumberText.decimal (n : NumberText) : Decimal :=
  ⟨valueOfDigits (n.whole ++ n.fraction), n.exponent.getD 0 - n.fraction.length⟩

theorem NumberText.toDouble_eq (n : NumberText) : n.toDouble = n.decimal.toDouble n.negative := rfl

theorem readDecimal?_of_isMantissa {mantissa exponent : Text} {n : NumberText}
    (hmantissa : IsMantissa mantissa n.whole n.fraction n.pointed) (hexponent : IsExponent exponent n.exponent) :
    readDecimal? (mantissa ++ exponent) = some n.decimal := by
  have hends := hexponent.endsDigits
  have hread := wholeExponent?_of_isExponent hexponent
  have hnil : ∀ {rest}, EndsDigits rest → spanMarkedDigits [] rest = ([], rest) := fun h =>
    spanMarkedDigits_append (fun _ hc => absurd hc List.not_mem_nil) h []
  obtain ⟨negative, whole, fraction, pointed, e⟩ := n
  dsimp only at hmantissa hexponent hread
  cases hmantissa with
  | digits hw =>
    have hspan := spanMarkedDigits_append hw.digit hends []
    have hmark := NumberText.exponent_ne_point hexponent
    simp only [readDecimal?, hspan]
    simp [hw.isEmpty, hread, NumberText.decimal]
  | digitsPoint hw =>
    have hspan := spanMarkedDigits_append hw.digit (endsDigits_point exponent) []
    rw [List.append_assoc, List.singleton_append]
    simp only [readDecimal?, hspan, hnil hends]
    simp [hw.isEmpty, hread, NumberText.decimal]
  | @digitsPointDigits w f hw hf =>
    have hspan := spanMarkedDigits_append hw.digit (endsDigits_point (f ++ exponent)) []
    have hfraction := spanMarkedDigits_append hf.digit hends []
    rw [List.append_assoc, List.cons_append]
    simp only [readDecimal?, hspan, hfraction]
    simp [hw.isEmpty, hread, NumberText.decimal]
  | @pointDigits f hf =>
    have hspan := hnil (endsDigits_point (f ++ exponent))
    have hfraction := spanMarkedDigits_append hf.digit hends []
    rw [List.cons_append]
    simp only [readDecimal?, hspan, hfraction]
    simp [hf.isEmpty, hread, NumberText.decimal]

/-- What starts with a digit or a point is none of the words for infinity and not-a-number. -/
theorem same_asciiLower {c d : CodePoint} (s w : Text) (hc : isDigit c = true ∨ c = 0x2e)
    (hd : 0x61 ≤ d ∧ d ≤ 0x7a) : same (asciiLower (c :: s)) (d :: w) = false := by
  have htable : ∀ c < 0x7b, isDigit c = true ∨ c = 0x2e → c < 0x41 := by decide +kernel
  have hlower : ¬(0x41 ≤ c ∧ c ≤ 0x5a) := fun h =>
    absurd (htable c (Nat.lt_of_le_of_lt h.2 (by decide)) hc) (Nat.not_lt.2 h.1)
  have hne : c ≠ d := by
    rintro rfl
    exact absurd (Nat.lt_of_lt_of_le (htable c (Nat.lt_succ_of_le hd.2) hc) (by decide : 0x41 ≤ 0x61))
      (Nat.not_lt.2 hd.1)
  simp [asciiLower, hlower, same, hne]

/-- A number text is read as the double nearest to the decimal that it denotes. -/
theorem readReal?_of_spells {t : Text} {n : NumberText} (h : Spells t n) :
    readReal? t = some (n.decimal.toDouble n.negative) := by
  obtain ⟨mantissa, exponent, hsplit, hmantissa, hexponent⟩ := NumberText.exists_split_of_spells h
  have hread := readDecimal?_of_isMantissa hmantissa hexponent
  obtain ⟨c, s, hcs, hc⟩ := NumberText.mantissa_head hmantissa
  rw [hcs, List.cons_append] at hsplit hread
  have hinf : same (asciiLower (c :: (s ++ exponent))) "inf" = false := same_asciiLower _ [0x6e, 0x66] hc (by decide)
  have hinfinity : same (asciiLower (c :: (s ++ exponent))) "infinity" = false :=
    same_asciiLower _ [0x6e, 0x66, 0x69, 0x6e, 0x69, 0x74, 0x79] hc (by decide)
  have hnan : same (asciiLower (c :: (s ++ exponent))) "nan" = false := same_asciiLower _ [0x61, 0x6e] hc (by decide)
  simp [readReal?, hsplit, hinf, hinfinity, hnan, hread]

end Rulebook
