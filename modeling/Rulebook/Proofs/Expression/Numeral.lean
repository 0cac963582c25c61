import Rulebook.Expression.Lexer
import Rulebook.Expression.Literal
import Rulebook.Proofs.Expression.Number
import Rulebook.Proofs.Outcome

/-!
# Numbers as tokens

The numbers that the reader of two literals takes are numbers of the grammar: `Numeral l v` says how such a number is
put together, and of what is put together in this way both the lexer finds the end and the grammar knows the value.
-/

namespace Rulebook.Expression
open Text

/-- What stands behind a number on a line: a space or the end of the line. -/
def Stops (rest : Text) : Prop := ∃ c t, rest = c :: t ∧ (c = 0x20 ∨ c = 10)

/-- A point with digits behind it, or nothing. -/
inductive PointPart : Text → Text → Prop
  | absent : PointPart [] []
  | point {digits : Text} (h : ∀ c ∈ digits, isAsciiDigit c = true) : PointPart (0x2e :: digits) digits

/-- A mark `e` with a signed whole number behind it, or nothing. -/
inductive MarkPart : Text → Int → Prop
  | absent : MarkPart [] 0
  | plain {d : CodePoint} {ds : Text} (h : ∀ c ∈ d :: ds, isAsciiDigit c = true) :
      MarkPart (0x65 :: d :: ds) (digitsValue (d :: ds))
  | plus {d : CodePoint} {ds : Text} (h : ∀ c ∈ d :: ds, isAsciiDigit c = true) :
      MarkPart (0x65 :: 0x2b :: d :: ds) (digitsValue (d :: ds))
  | minus {d : CodePoint} {ds : Text} (h : ∀ c ∈ d :: ds, isAsciiDigit c = true) :
      MarkPart (0x65 :: 0x2d :: d :: ds) (-(digitsValue (d :: ds) : Int))

/-- A number without a sign, and its value. A whole number has no zero before other digits, and its digits are limited. -/
inductive Numeral : Text → Value → Prop
  | whole {d : CodePoint} {ds : Text} (h : ∀ c ∈ d :: ds, isAsciiDigit c = true) (hzero : d = 0x30 → ds = [])
      (hlength : (d :: ds).length ≤ 4300) : Numeral (d :: ds) (.int (digitsValue (d :: ds)))
  | pointed {d : CodePoint} {ds point fraction mark : Text} {e : Int} (h : ∀ c ∈ d :: ds, isAsciiDigit c = true)
      (hpoint : PointPart point fraction) (hmark : MarkPart mark e) (hne : point ++ mark ≠ []) :
      Numeral (d :: ds ++ (point ++ mark))
        (.float (Decimal.toDouble ⟨digitsValue (d :: ds ++ fraction), e - fraction.length⟩ false))

/-! ### Numbers that are read -/

theorem of_spanDigits {t digits rest : Text} (h : spanDigits t = (digits, rest)) :
    t = digits ++ rest ∧ ∀ c ∈ digits, isAsciiDigit c = true := by
  rw [spanDigits, Prod.mk.injEq] at h
  obtain ⟨rfl, rfl⟩ := h
  exact ⟨List.takeWhile_append_dropWhile.symm, List.all_eq_true.1 List.all_takeWhile⟩

theorem markPart_of_readExponent {t rest : Text} {e : Int} (h : readExponent t = some (e, rest)) :
    ∃ mark, t = mark ++ rest ∧ MarkPart mark e ∧ mark ≠ [] := by
  have hdigits : ∀ {negative : Bool} {t : Text}, readExponent.exponentAfter negative t = some (e, rest) →
      ∃ d ds, t = d :: ds ++ rest ∧ (∀ c ∈ d :: ds, isAsciiDigit c = true) ∧
        e = if negative then -(digitsValue (d :: ds) : Int) else digitsValue (d :: ds) := by
    intro negative t h
    obtain ⟨digits, behind, hspan⟩ : ∃ digits behind, spanDigits t = (digits, behind) := ⟨_, _, rfl⟩
    obtain ⟨rfl, hdigit⟩ := of_spanDigits hspan
    simp only [readExponent.exponentAfter, hspan] at h
    cases digits with
    | nil => cases h
    | cons d ds =>
      cases h
      exact ⟨d, ds, rfl, hdigit, rfl⟩
  unfold readExponent at h
  split at h
  · obtain ⟨d, ds, rfl, hdigit, rfl⟩ := hdigits h
    exact ⟨_, rfl, .plus hdigit, List.cons_ne_nil _ _⟩
  · obtain ⟨d, ds, rfl, hdigit, rfl⟩ := hdigits h
    exact ⟨_, rfl, .minus hdigit, List.cons_ne_nil _ _⟩
  · obtain ⟨d, ds, rfl, hdigit, rfl⟩ := hdigits h
    exact ⟨_, rfl, .plain hdigit, List.cons_ne_nil _ _⟩
  · cases h

/-- What is read as a number without a sign is one. -/
theorem numeral_of_readUnsigned {t rest : Text} {v : Value} (h : readUnsigned t = some (v, rest)) :
    ∃ l, t = l ++ rest ∧ Numeral l v := by
  obtain ⟨whole, behind, hspan⟩ : ∃ whole behind, spanDigits t = (whole, behind) := ⟨_, _, rfl⟩
  obtain ⟨rfl, hwhole⟩ := of_spanDigits hspan
  simp only [readUnsigned, hspan] at h
  cases whole with
  | nil => cases h
  | cons d ds =>
    -- With or without a point, an exponent may follow.
    have hmark : ∀ {point fraction after : Text} {e : Int}, PointPart point fraction → behind = point ++ after →
        readExponent after = some (e, rest) →
        v = .float (Decimal.toDouble ⟨digitsValue (d :: ds ++ fraction), e - fraction.length⟩ false) →
        ∃ l, d :: ds ++ behind = l ++ rest ∧ Numeral l v := by
      rintro point fraction after e hpoint rfl he rfl
      obtain ⟨mark, rfl, hmark, hne⟩ := markPart_of_readExponent he
      exact ⟨d :: ds ++ (point ++ mark), by simp, .pointed hwhole hpoint hmark (by simp [hne])⟩
    by_cases hpoint : ∃ after, behind = 0x2e :: after
    · obtain ⟨after, rfl⟩ := hpoint
      obtain ⟨fraction, behind, hspan⟩ : ∃ fraction behind, spanDigits after = (fraction, behind) := ⟨_, _, rfl⟩
      obtain ⟨rfl, hfraction⟩ := of_spanDigits hspan
      simp only [hspan] at h
      cases he : readExponent behind with
      | some found =>
        obtain ⟨e, behind⟩ := found
        rw [he] at h
        cases h
        exact hmark (.point hfraction) rfl he rfl
      | none =>
        rw [he] at h
        cases h
        refine ⟨d :: ds ++ (0x2e :: fraction ++ []), by simp, ?_⟩
        simpa using Numeral.pointed hwhole (.point hfraction) .absent (by simp)
    · have hplain : ∀ after, behind ≠ 0x2e :: after := fun after heq => hpoint ⟨after, heq⟩
      simp only at h
      cases he : readExponent behind with
      | some found =>
        obtain ⟨e, behind⟩ := found
        rw [he] at h
        cases h
        exact hmark .absent rfl he (by simp)
      | none =>
        simp only [he, Bool.false_eq_true, ↓reduceIte] at h
        split at h
        · cases h
        · next hlead =>
          cases h
          rw [not_or, not_and] at hlead
          exact ⟨d :: ds, rfl, .whole hwhole (fun hd => by simpa using hlead.1 hd) (Nat.le_of_not_lt hlead.2)⟩

/-! ### The end of a number -/

/-- What stands behind decimal digits that end there. -/
def EndsDecimal (rest : Text) : Prop := ∃ c t, rest = c :: t ∧ isAsciiDigit c = false ∧ c ≠ 0x5f

theorem Stops.endsDecimal {rest : Text} (h : Stops rest) : EndsDecimal rest := by
  obtain ⟨c, t, rfl, hc⟩ := h
  rcases hc with rfl | rfl <;> exact ⟨_, t, rfl, by decide⟩

theorem MarkPart.endsDecimal {mark rest : Text} {e : Int} (h : MarkPart mark e) (hrest : Stops rest) :
    EndsDecimal (mark ++ rest) := by
  cases h with
  | absent => exact hrest.endsDecimal
  | _ => exact ⟨0x65, _, rfl, by decide⟩

theorem skipDecimal_append {s rest : Text} (hs : ∀ c ∈ s, isAsciiDigit c = true) (hrest : EndsDecimal rest) :
    skipDecimal (s ++ rest) = .ok rest := by
  obtain ⟨c, t, rfl, hc, hline⟩ := hrest
  have hdrop : (s ++ c :: t).dropWhile isAsciiDigit = c :: t := by
    rw [List.dropWhile_append_of_pos hs, List.dropWhile_cons_of_neg (by simp [hc])]
  simp [skipDecimal, skipDigits, hdrop, hline]

/-- Nothing more belongs to the number where it stops. -/
theorem Stops.skipImaginary {rest : Text} (h : Stops rest) : skipImaginary rest = .ok rest := by
  obtain ⟨c, t, rfl, hc⟩ := h
  rcases hc with rfl | rfl <;> rfl

theorem skipExponent_append {mark rest : Text} {e : Int} (h : MarkPart mark e) (hrest : Stops rest) :
    skipExponent (mark ++ rest) = .ok rest := by
  have hdigits : ∀ {d : CodePoint} {ds : Text}, (∀ c ∈ d :: ds, isAsciiDigit c = true) →
      (skipDecimal (d :: ds ++ rest) >>= skipImaginary) = .ok rest := by
    intro d ds hds
    rw [skipDecimal_append hds hrest.endsDecimal]
    exact hrest.skipImaginary
  cases h with
  | absent =>
    obtain ⟨c, t, rfl, hc⟩ := hrest
    rcases hc with rfl | rfl <;> rfl
  | @plain d ds h =>
    have hd := h d List.mem_cons_self
    have hsign : ¬(d = 0x2b ∨ d = 0x2d) := by rintro (rfl | rfl) <;> exact absurd hd (by decide)
    simp only [skipExponent, List.cons_append, true_or, ↓reduceIte, hsign, hd]
    exact hdigits h
  | @plus d ds h =>
    simp only [skipExponent, List.cons_append, true_or, ↓reduceIte, h d List.mem_cons_self]
    exact hdigits h
  | @minus d ds h =>
    simp only [skipExponent, List.cons_append, true_or, or_true, ↓reduceIte, h d List.mem_cons_self]
    exact hdigits h

theorem skipFraction_append {fraction mark rest : Text} {e : Int} (hfraction : ∀ c ∈ fraction, isAsciiDigit c = true)
    (h : MarkPart mark e) (hrest : Stops rest) : skipFraction (fraction ++ (mark ++ rest)) = .ok rest := by
  have hend := h.endsDecimal hrest
  have hmark := skipExponent_append h hrest
  cases fraction with
  | nil =>
    obtain ⟨c, t, hct, hc, -⟩ := hend
    rw [hct] at hmark ⊢
    simp only [skipFraction, List.nil_append, hc, Bool.false_eq_true, ↓reduceIte, hmark]
  | cons d ds =>
    have hdecimal := skipDecimal_append hfraction hend
    simp only [skipFraction, List.cons_append, hfraction d List.mem_cons_self, ↓reduceIte] at hdecimal ⊢
    rw [hdecimal]
    exact hmark

theorem skipZeros_append {s rest : Text} (hs : ∀ c ∈ s, isAsciiDigit c = true) (hrest : EndsDecimal rest) (fuel : Nat)
    (hfuel : s.length < fuel) : skipZeros fuel (s ++ rest) = .ok (s.dropWhile (· == 0x30) ++ rest) := by
  induction s generalizing fuel with
  | nil =>
    obtain ⟨c, t, rfl, hc, hline⟩ := hrest
    obtain ⟨k, rfl⟩ := Nat.exists_eq_add_of_lt hfuel
    have hzero : c ≠ 0x30 := by rintro rfl; exact absurd hc (by decide)
    simp [skipZeros, hzero, hline]
  | cons d ds ih =>
    obtain ⟨hd, hds⟩ := List.forall_mem_cons.1 hs
    obtain ⟨k, rfl⟩ := Nat.exists_eq_add_of_lt hfuel
    by_cases hzero : d = 0x30
    · subst hzero
      exact ih hds _ (by simp only [List.length_cons]; omega)
    · have hline : d ≠ 0x5f := by rintro rfl; exact absurd hd (by decide)
      simp [skipZeros, hzero, hline]

section number
variable {d : CodePoint} {ds point fraction mark rest : Text} {e : Int} (h : ∀ c ∈ d :: ds, isAsciiDigit c = true)
  (hrest : Stops rest)

/-- Behind the first digits stands a point or an exponent, which is passed to its end. -/
theorem exists_tail (hrest : Stops rest) (hpoint : PointPart point fraction) (hmark : MarkPart mark e)
    (hne : point ++ mark ≠ []) : ∃ c more, point ++ (mark ++ rest) = c :: more ∧
      (c = 0x2e ∧ skipFraction more = .ok rest ∨ c = 0x65 ∧ skipExponent (c :: more) = .ok rest) := by
  have hexponent := skipExponent_append hmark hrest
  cases hpoint with
  | point hfraction => exact ⟨0x2e, _, rfl, .inl ⟨rfl, skipFraction_append hfraction hmark hrest⟩⟩
  | absent =>
    cases hmark with
    | absent => exact absurd rfl hne
    | _ => exact ⟨0x65, _, rfl, .inr ⟨rfl, hexponent⟩⟩

include h hrest

/-- Zeros may stand before the other digits of a number with a point or an exponent. -/
theorem skipZero_append (hpoint : PointPart point fraction) (hmark : MarkPart mark e) (hne : point ++ mark ≠ []) :
    skipZero (d :: ds ++ (point ++ (mark ++ rest))) = .ok rest := by
  obtain ⟨c, more, htail, hmore⟩ := exists_tail hrest hpoint hmark hne
  have hend : EndsDecimal (c :: more) := ⟨c, more, rfl, by rcases hmore with ⟨rfl, -⟩ | ⟨rfl, -⟩ <;> decide⟩
  have hzeros := skipZeros_append h hend ((d :: ds ++ c :: more).length + 1)
    (by simp only [List.length_append]; omega)
  have hdigit : ∀ x ∈ (d :: ds).dropWhile (· == 0x30), isAsciiDigit x = true := fun x hx =>
    h x (List.dropWhile_subset _ hx)
  rw [htail, skipZero, hzeros, ok_bind]
  cases hdrop : (d :: ds).dropWhile (· == 0x30) with
  | nil => rcases hmore with ⟨rfl, hmore⟩ | ⟨rfl, hmore⟩ <;> exact hmore
  | cons x xs =>
    rw [hdrop] at hdigit
    have hdecimal := skipDecimal_append hdigit hend
    simp only [List.cons_append, hdigit x List.mem_cons_self, ↓reduceIte] at hdecimal ⊢
    rw [hdecimal]
    rcases hmore with ⟨rfl, hmore⟩ | ⟨rfl, hmore⟩ <;> exact hmore

end number

/-- A number that does not start with a zero starts with its decimal digits. -/
theorem skipNumber_of_ne {d c : CodePoint} {ds more : Text} (h : ∀ c ∈ d :: ds, isAsciiDigit c = true) (hd : d ≠ 0x30)
    (hc : isAsciiDigit c = false) (hline : c ≠ 0x5f) :
    skipNumber (d :: ds ++ c :: more) = if c = 0x2e then skipFraction more else skipExponent (c :: more) := by
  rw [skipNumber, skipDecimal_append h ⟨c, more, rfl, hc, hline⟩]
  · by_cases hpoint : c = 0x2e
    · subst hpoint
      rfl
    · simp [hpoint]
  · rintro c more heq
    exact hd (List.cons.inj heq).1

/-- Behind a zero that starts a number without a base stands no mark of a base. -/
theorem skipNumber_zero {x : CodePoint} {xs : Text} (hx : isAsciiDigit x = true ∨ x < 0x3a ∨ x = 0x65) :
    skipNumber (0x30 :: x :: xs) = skipZero (0x30 :: x :: xs) := by
  have hmark : x ≠ 0x78 ∧ x ≠ 0x58 ∧ x ≠ 0x6f ∧ x ≠ 0x4f ∧ x ≠ 0x62 ∧ x ≠ 0x42 := by
    simp only [isAsciiDigit, Bool.and_eq_true, decide_eq_true_eq] at hx
    unfold CodePoint at *
    omega
  simp [skipNumber, hmark]

/-- The lexer finds the end of a number where a space or the end of the line stands behind it. -/
theorem Numeral.skipNumber {l rest : Text} {v : Value} (h : Numeral l v) (hrest : Stops rest) :
    skipNumber (l ++ rest) = .ok rest := by
  cases h with
  | @whole d ds h hzero hlength =>
    by_cases hd : d = 0x30
    · obtain rfl := hzero hd
      obtain ⟨c, t, rfl, hc⟩ := hrest
      rw [hd]
      rcases hc with rfl | rfl <;> rfl
    · obtain ⟨c, t, rfl, hc⟩ := hrest
      rcases hc with rfl | rfl <;> exact skipNumber_of_ne h hd rfl (by decide)
  | @pointed d ds point fraction mark e h hpoint hmark hne =>
    have hzeros := skipZero_append h hrest hpoint hmark hne
    obtain ⟨c, more, htail, hmore⟩ := exists_tail hrest hpoint hmark hne
    rw [htail] at hzeros
    rw [List.append_assoc, List.append_assoc, htail]
    by_cases hd : d = 0x30
    · subst hd
      obtain ⟨x, xs, hxs, hx⟩ : ∃ x xs, ds ++ c :: more = x :: xs ∧
          (isAsciiDigit x = true ∨ x < 0x3a ∨ x = 0x65) := by
        cases ds with
        | nil => exact ⟨c, more, rfl, by rcases hmore with ⟨rfl, -⟩ | ⟨rfl, -⟩ <;> decide⟩
        | cons x xs => exact ⟨x, _, rfl, .inl (h x (by simp))⟩
      rw [List.cons_append, hxs] at hzeros ⊢
      rw [skipNumber_zero hx, hzeros]
    · rcases hmore with ⟨rfl, hmore⟩ | ⟨rfl, hmore⟩
      · rw [skipNumber_of_ne h hd rfl (by decide)]
        exact hmore
      · rw [skipNumber_of_ne h hd rfl (by decide)]
        exact hmore

/-! ### The value of a number -/

/-- The signs that a number is written with. -/
def isNumberSign (c : CodePoint) : Bool := isAsciiDigit c || c == 0x2e || c == 0x65 || c == 0x2b || c == 0x2d

theorem PointPart.sign {point fraction : Text} (h : PointPart point fraction) {c : CodePoint} (hc : c ∈ point) :
    isNumberSign c = true := by
  cases h with
  | absent => cases hc
  | point hdigits =>
    rcases List.mem_cons.1 hc with rfl | hc
    · rfl
    · simp [isNumberSign, hdigits c hc]

theorem MarkPart.sign {mark : Text} {e : Int} (h : MarkPart mark e) {c : CodePoint} (hc : c ∈ mark) :
    isNumberSign c = true := by
  have hdigit : ∀ {s : Text}, (∀ c ∈ s, isAsciiDigit c = true) → c ∈ s → isNumberSign c = true :=
    fun hs hc => by simp [isNumberSign, hs c hc]
  cases h with
  | absent => cases hc
  | plain h =>
    rcases List.mem_cons.1 hc with rfl | hc
    · rfl
    · exact hdigit h hc
  | plus h | minus h =>
    rcases List.mem_cons.1 hc with rfl | hc
    · rfl
    · rcases List.mem_cons.1 hc with rfl | hc
      · rfl
      · exact hdigit h hc

theorem Numeral.sign {l : Text} {v : Value} (h : Numeral l v) {c : CodePoint} (hc : c ∈ l) :
    isNumberSign c = true := by
  cases h with
  | whole h => simp [isNumberSign, h c hc]
  | pointed h hpoint hmark =>
    rcases List.mem_append.1 hc with hc | hc
    · simp [isNumberSign, h c hc]
    · exact (List.mem_append.1 hc).elim hpoint.sign hmark.sign

theorem Numeral.head {l : Text} {v : Value} (h : Numeral l v) : ∃ d s, l = d :: s ∧ isAsciiDigit d = true := by
  cases h with
  | whole h => exact ⟨_, _, rfl, h _ List.mem_cons_self⟩
  | pointed h => exact ⟨_, _, rfl, h _ List.mem_cons_self⟩

/-- The number of a text with a point or an exponent. -/
theorem pointedNumber_append {whole point fraction mark : Text} {e : Int} (h : ∀ c ∈ whole, isAsciiDigit c = true)
    (hpoint : PointPart point fraction) (hmark : MarkPart mark e) :
    pointedNumber (whole ++ (point ++ mark)) =
      Decimal.toDouble ⟨digitsValue (whole ++ fraction), e - fraction.length⟩ false := by
  have hdigit : ∀ {c : CodePoint}, isAsciiDigit c = true → (!(c == 0x65 || c == 0x45)) = true ∧ (c != 0x2e) = true := by
    intro c hc
    simp only [isAsciiDigit, Bool.and_eq_true, decide_eq_true_eq] at hc
    unfold CodePoint at *
    simp
    omega
  have hmarkless : ∀ c ∈ whole ++ point, (!(c == 0x65 || c == 0x45)) = true := by
    intro c hc
    rcases List.mem_append.1 hc with hc | hc
    · exact (hdigit (h c hc)).1
    · cases hpoint with
      | absent => cases hc
      | point hfraction =>
        rcases List.mem_cons.1 hc with rfl | hc
        · rfl
        · exact (hdigit (hfraction c hc)).1
  have hmantissa := takeWhile_dropWhile_append mark hmarkless (by cases hmark <;> simp)
  have hpointed := takeWhile_dropWhile_append (p := (· != 0x2e)) point (fun c hc => (hdigit (h c hc)).2)
    (by cases hpoint <;> simp)
  rw [List.append_assoc] at hmantissa
  simp only [pointedNumber, hmantissa, hpointed]
  have hfraction : point.drop 1 = fraction := by cases hpoint <;> rfl
  rw [hfraction]
  cases hmark with
  | absent => rfl
  | @plain d ds hds =>
    have hd := hds d List.mem_cons_self
    have hplus : d ≠ 0x2b := by rintro rfl; exact absurd hd (by decide)
    have hminus : d ≠ 0x2d := by rintro rfl; exact absurd hd (by decide)
    simp [hplus, hminus]
  | plus => rfl
  | minus => rfl

/-- A text of the signs of numbers has no base and no imaginary mark. -/
theorem numberValue_eq {l : Text} (hsign : ∀ c ∈ l, isNumberSign c = true)
    (hlength : l.all isAsciiDigit = true → l.length ≤ 4300) (line : Nat) :
    numberValue line l = if l.all isAsciiDigit then .ok (.int (digitsValue l)) else .ok (.float (pointedNumber l)) := by
  have hother : ∀ {c : CodePoint}, c ∈ l → c ≠ 0x5f ∧ c ≠ 0x6a ∧ c ≠ 0x4a ∧ c ≠ 0x78 ∧ c ≠ 0x58 ∧ c ≠ 0x6f ∧ c ≠ 0x4f ∧
      c ≠ 0x62 ∧ c ≠ 0x42 := by
    intro c hc
    have hc := hsign c hc
    refine ⟨?_, ?_, ?_, ?_, ?_, ?_, ?_, ?_, ?_⟩ <;> rintro rfl <;> exact absurd hc (by decide)
  have hfilter : l.filter (· != 0x5f) = l := List.filter_eq_self.2 fun c hc => bne_iff_ne.2 (hother hc).1
  simp only [numberValue, hfilter]
  split
  · next n hn =>
    split at hn
    · have hmark := hother (List.mem_cons_of_mem _ List.mem_cons_self)
      simp [hmark] at hn
    · cases hn
  · next hj => exact absurd rfl (hother (List.mem_of_getLast? hj)).2.1
  · next hj => exact absurd rfl (hother (List.mem_of_getLast? hj)).2.2.1
  · split
    · next hall => rw [if_neg (Nat.not_lt.2 (hlength hall))]
    · rfl

/-- The grammar knows the value of the number. -/
theorem Numeral.numberValue {l : Text} {v : Value} (h : Numeral l v) (line : Nat) :
    Expression.numberValue line l = .ok v := by
  have hsign : ∀ c ∈ l, isNumberSign c = true := fun c hc => h.sign hc
  cases h with
  | whole h _ hlength => rw [numberValue_eq hsign fun _ => hlength, if_pos (List.all_eq_true.2 h)]
  | @pointed d ds point fraction mark e h hpoint hmark hne =>
    have hdigit : ¬(d :: ds ++ (point ++ mark)).all isAsciiDigit = true := by
      rw [List.all_append, Bool.and_eq_true, not_and]
      intro _ hall
      cases hpoint with
      | point => simp [isAsciiDigit] at hall
      | absent =>
        cases hmark with
        | absent => exact hne rfl
        | _ => simp [isAsciiDigit] at hall
    rw [numberValue_eq hsign fun hall => absurd hall hdigit, if_neg hdigit, pointedNumber_append h hpoint hmark]

end Rulebook.Expression
