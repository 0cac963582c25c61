import Rulebook.Comparison.Operand
import Rulebook.Proofs.Expression.Literal
import Rulebook.Proofs.Text.Digits
import Mathlib.Data.List.TakeWhile

/-!
# Texts that look like numbers

The grammar of number texts: a sign, digits of any script with at most one point before, among or behind them,
and an exponent, with white space around. The reader of operands recognizes exactly these texts.
-/

namespace Rulebook
open Text

/-! ### The grammar -/

/-- Digits of any script, at least one. -/
structure IsDigits (t : Text) : Prop where
  ne_nil : t ≠ []
  digit : ∀ c ∈ t, isDigit c = true

/-- A sign, if there is one, and whether it is a minus. -/
inductive IsSign : Text → Bool → Prop
  | absent : IsSign [] false
  | plus : IsSign [0x2b] false
  | minus : IsSign [0x2d] true

/-- Digits with at most one point: those before and those behind it, by value, and whether there is one. -/
inductive IsMantissa : Text → List Nat → List Nat → Bool → Prop
  | digits {w : Text} (hw : IsDigits w) : IsMantissa w (digitValues w) [] false
  | digitsPoint {w : Text} (hw : IsDigits w) : IsMantissa (w ++ [0x2e]) (digitValues w) [] true
  | digitsPointDigits {w f : Text} (hw : IsDigits w) (hf : IsDigits f) :
      IsMantissa (w ++ 0x2e :: f) (digitValues w) (digitValues f) true
  | pointDigits {f : Text} (hf : IsDigits f) : IsMantissa (0x2e :: f) [] (digitValues f) true

/-- An exponent, if there is one. -/
inductive IsExponent : Text → Option Int → Prop
  | absent : IsExponent [] none
  | present {mark : CodePoint} {sign ds : Text} {negative : Bool} (hmark : mark = 0x65 ∨ mark = 0x45)
      (hsign : IsSign sign negative) (hds : IsDigits ds) :
      IsExponent (mark :: (sign ++ ds))
        (some (if negative then -(valueOfDigits (digitValues ds) : Int) else valueOfDigits (digitValues ds)))

/-- The text spells a number with these parts, with white space around it. -/
def Spells (t : Text) (n : NumberText) : Prop :=
  ∃ before sign mantissa exponent after : Text,
    t = before ++ (sign ++ (mantissa ++ exponent) ++ after) ∧
      (∀ c ∈ before, isSpace c = true) ∧ (∀ c ∈ after, isSpace c = true) ∧ IsSign sign n.negative ∧
      IsMantissa mantissa n.whole n.fraction n.pointed ∧ IsExponent exponent n.exponent

/-- The text looks like a number. -/
def NumberLike (t : Text) : Prop := ∃ n, Spells t n

/-! ### The signs of number texts -/

/-- A sign that stands in a number text and is no digit. -/
def numberMarks : List CodePoint := [0x2b, 0x2d, 0x2e, 0x45, 0x65]

theorem tables_of_mem_numberMarks : ∀ c ∈ numberMarks, isDigit c = false ∧ isSpace c = false := by decide

/-- The white space. -/
def spaces : List Nat :=
  [9, 10, 11, 12, 13, 28, 29, 30, 31, 32, 0x85, 0xa0, 0x1680, 0x2000, 0x2001, 0x2002, 0x2003, 0x2004, 0x2005, 0x2006,
    0x2007, 0x2008, 0x2009, 0x200a, 0x2028, 0x2029, 0x202f, 0x205f, 0x3000]

theorem mem_spaces_of_isSpace {c : Nat} (h : isSpace c = true) : c ∈ spaces := by
  simp only [isSpace, Bool.or_eq_true, Bool.and_eq_true, decide_eq_true_eq, beq_iff_eq] at h
  delta CodePoint at h
  simp only [spaces, List.mem_cons, List.not_mem_nil, or_false]
  omega

/-- A digit is no white space. -/
theorem not_isSpace_of_isDigit {c : CodePoint} (h : isDigit c = true) : isSpace c = false := by
  have htable : ∀ d ∈ spaces, isDigit d = false := by decide
  by_contra hspace
  rw [htable c (mem_spaces_of_isSpace (by simpa using hspace))] at h
  exact absurd h (by decide)

theorem not_mem_numberMarks_of_isDigit {c : CodePoint} (h : isDigit c = true) : c ∉ numberMarks := by
  intro hc
  rw [(tables_of_mem_numberMarks c hc).1] at h
  exact absurd h (by decide)

/-! ### White space around a text -/

theorem strip_append {before body after : Text} (hbefore : ∀ c ∈ before, isSpace c = true) (hne : body ≠ [])
    (hbody : ∀ c ∈ body, isSpace c = false) (hafter : ∀ c ∈ after, isSpace c = true) :
    strip (before ++ (body ++ after)) = body := by
  have hleft : stripLeftBy isSpace (before ++ (body ++ after)) = body ++ after := by
    obtain ⟨c, s, rfl⟩ := List.exists_cons_of_ne_nil hne
    rw [stripLeftBy, List.dropWhile_append_of_pos hbefore, List.cons_append]
    exact dropWhile_isSpace_cons (hbody c List.mem_cons_self) (s ++ after)
  have hright : (body ++ after).reverse.dropWhile isSpace = body.reverse := by
    have hafter' : ∀ c ∈ after.reverse, isSpace c = true := fun c hc => hafter c (List.mem_reverse.1 hc)
    rw [List.reverse_append, List.dropWhile_append_of_pos hafter']
    obtain ⟨c, s, hcs⟩ := List.exists_cons_of_ne_nil (List.reverse_ne_nil_iff.2 hne)
    have hc : isSpace c = false := hbody c (List.mem_reverse.1 (by rw [hcs]; exact List.mem_cons_self))
    rw [hcs, dropWhile_isSpace_cons hc]
  rw [strip, stripBy, hleft, stripRightBy, hright, List.reverse_reverse]

/-- A text is what stripping leaves, with white space around it. -/
theorem exists_strip (t : Text) : ∃ before after : Text, t = before ++ (strip t ++ after) ∧
    (∀ c ∈ before, isSpace c = true) ∧ ∀ c ∈ after, isSpace c = true := by
  refine ⟨t.takeWhile isSpace, ((stripLeftBy isSpace t).reverse.takeWhile isSpace).reverse, ?_,
    fun c hc => List.mem_takeWhile_imp hc, fun c hc => List.mem_takeWhile_imp (List.mem_reverse.1 hc)⟩
  rw [strip, stripBy, stripRightBy, ← List.reverse_append, List.takeWhile_append_dropWhile, List.reverse_reverse,
    stripLeftBy, List.takeWhile_append_dropWhile]

/-! ### Signs and digits -/

theorem splitSign_append {sign rest : Text} {negative : Bool} (hsign : IsSign sign negative)
    (hrest : ∃ c s, rest = c :: s ∧ c ≠ 0x2d ∧ c ≠ 0x2b) : splitSign (sign ++ rest) = (negative, rest) := by
  obtain ⟨c, s, rfl, hminus, hplus⟩ := hrest
  cases hsign with
  | absent =>
    rw [List.nil_append, splitSign]
    · rintro s' ⟨⟩; exact hminus rfl
    · rintro s' ⟨⟩; exact hplus rfl
  | plus => rfl
  | minus => rfl

theorem exists_sign {t rest : Text} {negative : Bool} (h : splitSign t = (negative, rest)) :
    ∃ sign, IsSign sign negative ∧ t = sign ++ rest := by
  unfold splitSign at h
  split at h <;> cases h
  · exact ⟨[0x2d], .minus, rfl⟩
  · exact ⟨[0x2b], .plus, rfl⟩
  · exact ⟨[], .absent, rfl⟩

theorem isEmpty_digitValues {ds : Text} (h : ∀ c ∈ ds, isDigit c = true) : (digitValues ds).isEmpty = ds.isEmpty := by
  cases ds with
  | nil => rfl
  | cons c ds =>
    obtain ⟨d, hd⟩ := Option.isSome_iff_exists.1 (h c List.mem_cons_self)
    simp [digitValues, hd]

theorem IsDigits.isEmpty {ds : Text} (h : IsDigits ds) : (digitValues ds).isEmpty = false := by
  rw [isEmpty_digitValues h.digit, List.isEmpty_eq_false_iff]
  exact h.ne_nil

theorem splitSign_digits {sign ds : Text} {negative : Bool} (hsign : IsSign sign negative) (hds : IsDigits ds) :
    splitSign (sign ++ ds) = (negative, ds) := by
  obtain ⟨c, s, hcs⟩ := List.exists_cons_of_ne_nil hds.ne_nil
  have hc := not_mem_numberMarks_of_isDigit (hds.digit c (by rw [hcs]; exact List.mem_cons_self))
  refine splitSign_append hsign ⟨c, s, hcs, ?_, ?_⟩ <;> rintro rfl <;> exact hc (by decide)

namespace NumberText

/-- A run of digits ends where no digit follows. -/
theorem spanDigits_append {ds rest : Text} (hds : ∀ c ∈ ds, isDigit c = true) (hrest : rest.takeWhile isDigit = []) :
    NumberText.spanDigits (ds ++ rest) = (digitValues ds, rest) := by
  obtain ⟨htake, hdrop⟩ := takeWhile_dropWhile_append rest hds (takeWhile_eq_nil_iff_head?.1 hrest)
  rw [NumberText.spanDigits, htake, hdrop]

theorem spanDigits_nil {rest : Text} (hrest : rest.takeWhile isDigit = []) :
    NumberText.spanDigits rest = ([], rest) :=
  spanDigits_append (fun _ hc => absurd hc List.not_mem_nil) hrest

theorem exists_digits {t rest : Text} {values : List Nat} (h : NumberText.spanDigits t = (values, rest)) :
    ∃ ds, (∀ c ∈ ds, isDigit c = true) ∧ t = ds ++ rest ∧ values = digitValues ds := by
  cases h
  exact ⟨t.takeWhile isDigit, fun _ hc => List.mem_takeWhile_imp hc, List.takeWhile_append_dropWhile.symm, rfl⟩

/-! ### Exponents -/

theorem readExponent?_of_isExponent {t : Text} {e : Option Int} (h : IsExponent t e) : readExponent? t = some e := by
  cases h with
  | absent => rfl
  | @present mark sign ds negative hmark hsign hds =>
    have hspan : NumberText.spanDigits ds = (digitValues ds, []) := by
      rw [← List.append_nil ds, spanDigits_append hds.digit rfl, List.append_nil]
    have hmark' : mark = cp 'e' ∨ mark = cp 'E' := hmark
    simp [readExponent?, hmark', splitSign_digits hsign hds, hspan, hds.isEmpty]

theorem isExponent_of_readExponent? {t : Text} {e : Option Int} (h : readExponent? t = some e) : IsExponent t e := by
  cases t with
  | nil =>
    cases h
    exact .absent
  | cons mark rest =>
    rcases hsplit : splitSign rest with ⟨negative, tail⟩
    rcases hspan : NumberText.spanDigits tail with ⟨values, after⟩
    obtain ⟨sign, hsign, rfl⟩ := exists_sign hsplit
    obtain ⟨ds, hds, rfl, rfl⟩ := exists_digits hspan
    simp only [readExponent?, hsplit, hspan, isEmpty_digitValues hds] at h
    split at h
    · next hmark =>
      split at h
      · cases h
      · next hdigits =>
        simp only [Bool.not_eq_true', not_or, List.isEmpty_iff, List.isEmpty_eq_false_iff, not_not] at hdigits
        obtain ⟨hne, rfl⟩ := hdigits
        cases h
        rw [List.append_nil]
        exact .present hmark hsign ⟨hne, hds⟩
    · cases h

/-! ### Whole texts -/

/-- The first sign of a mantissa is a digit or a point. -/
theorem mantissa_head {t : Text} {w f : List Nat} {pointed : Bool} (h : IsMantissa t w f pointed) :
    ∃ c s, t = c :: s ∧ (isDigit c = true ∨ c = 0x2e) := by
  have hcons : ∀ {ds : Text} (s : Text), IsDigits ds → ∃ c s', ds ++ s = c :: s' ∧ (isDigit c = true ∨ c = 0x2e) := by
    intro ds s hds
    obtain ⟨c, more, rfl⟩ := List.exists_cons_of_ne_nil hds.ne_nil
    exact ⟨c, more ++ s, rfl, .inl (hds.digit c List.mem_cons_self)⟩
  cases h with
  | digits hw =>
    have h := hcons [] hw
    rwa [List.append_nil] at h
  | digitsPoint hw => exact hcons _ hw
  | digitsPointDigits hw hf => exact hcons _ hw
  | pointDigits hf => exact ⟨_, _, rfl, .inr rfl⟩

/-- Each sign of a number between the white space is a digit or one of the marks. -/
theorem mem_number {sign mantissa exponent : Text} {negative pointed : Bool} {w f : List Nat} {e : Option Int}
    (hsign : IsSign sign negative) (hmantissa : IsMantissa mantissa w f pointed) (hexponent : IsExponent exponent e) :
    ∀ c ∈ sign ++ (mantissa ++ exponent), isDigit c = true ∨ c ∈ numberMarks := by
  have hs : ∀ {sign : Text} {negative : Bool}, IsSign sign negative → ∀ c ∈ sign, isDigit c = true ∨ c ∈ numberMarks := by
    intro sign negative hsign
    cases hsign <;> decide
  have hd : ∀ {ds : Text}, IsDigits ds → ∀ c ∈ ds, isDigit c = true ∨ c ∈ numberMarks := fun hds c hc =>
    .inl (hds.digit c hc)
  have hpoint : isDigit 0x2e = true ∨ 0x2e ∈ numberMarks := .inr (by decide)
  rw [List.forall_mem_append, List.forall_mem_append]
  refine ⟨hs hsign, ?_, ?_⟩
  · cases hmantissa with
    | digits hw => exact hd hw
    | digitsPoint hw => exact List.forall_mem_append.2 ⟨hd hw, List.forall_mem_singleton.2 hpoint⟩
    | digitsPointDigits hw hf => exact List.forall_mem_append.2 ⟨hd hw, List.forall_mem_cons.2 ⟨hpoint, hd hf⟩⟩
    | pointDigits hf => exact List.forall_mem_cons.2 ⟨hpoint, hd hf⟩
  · cases hexponent with
    | absent => exact fun c hc => absurd hc List.not_mem_nil
    | present hmark hsign hds =>
      refine List.forall_mem_cons.2 ⟨.inr ?_, List.forall_mem_append.2 ⟨hs hsign, hd hds⟩⟩
      rcases hmark with rfl | rfl <;> decide

/-- A number text is stripped to its sign, its mantissa and its exponent. -/
theorem strip_number {before sign mantissa exponent after : Text} {negative pointed : Bool} {w f : List Nat}
    {e : Option Int} (hbefore : ∀ c ∈ before, isSpace c = true) (hafter : ∀ c ∈ after, isSpace c = true)
    (hsign : IsSign sign negative) (hmantissa : IsMantissa mantissa w f pointed) (hexponent : IsExponent exponent e) :
    strip (before ++ (sign ++ (mantissa ++ exponent) ++ after)) = sign ++ (mantissa ++ exponent) := by
  refine strip_append hbefore ?_ (fun c hc => ?_) hafter
  · obtain ⟨c, s, rfl, -⟩ := mantissa_head hmantissa
    simp
  · rcases mem_number hsign hmantissa hexponent c hc with h | h
    · exact not_isSpace_of_isDigit h
    · exact (tables_of_mem_numberMarks c h).2

theorem splitSign_number {sign mantissa exponent : Text} {negative pointed : Bool} {w f : List Nat}
    (hsign : IsSign sign negative) (hmantissa : IsMantissa mantissa w f pointed) :
    splitSign (sign ++ (mantissa ++ exponent)) = (negative, mantissa ++ exponent) := by
  obtain ⟨c, s, hcs, hc⟩ := mantissa_head hmantissa
  refine splitSign_append hsign ⟨c, s ++ exponent, by rw [hcs]; rfl, ?_⟩
  rcases hc with hc | rfl
  · have hmarks := not_mem_numberMarks_of_isDigit hc
    constructor <;> rintro rfl <;> exact hmarks (by decide)
  · decide

/-- An exponent begins with neither a point nor a digit. -/
theorem exponent_ne_point {t : Text} {e : Option Int} (h : IsExponent t e) (s : Text) : t ≠ 0x2e :: s := by
  rintro rfl
  cases h with
  | present hmark _ _ => exact absurd hmark (by decide)

theorem takeWhile_exponent {t : Text} {e : Option Int} (h : IsExponent t e) : t.takeWhile isDigit = [] := by
  cases h with
  | absent => rfl
  | present hmark hsign hds =>
    refine List.takeWhile_cons_of_neg ?_
    rcases hmark with rfl | rfl <;> decide

/-- A number text is stripped and split into a sign, a mantissa and an exponent. -/
theorem exists_split_of_spells {t : Text} {n : NumberText} (h : Spells t n) :
    ∃ mantissa exponent, splitSign (strip t) = (n.negative, mantissa ++ exponent) ∧
      IsMantissa mantissa n.whole n.fraction n.pointed ∧ IsExponent exponent n.exponent := by
  obtain ⟨before, sign, mantissa, exponent, after, rfl, hbefore, hafter, hsign, hmantissa, hexponent⟩ := h
  refine ⟨mantissa, exponent, ?_, hmantissa, hexponent⟩
  rw [strip_number hbefore hafter hsign hmantissa hexponent, splitSign_number hsign hmantissa]

section read
variable {t body rest after : Text} {negative : Bool} {whole fraction : List Nat} {e : Option Int}
  (hsplit : splitSign (strip t) = (negative, body))
include hsplit

theorem read?_point (hspan : NumberText.spanDigits body = (whole, 0x2e :: after))
    (hfraction : NumberText.spanDigits after = (fraction, rest))
    (hne : ¬(whole.isEmpty = true ∧ fraction.isEmpty = true)) (hread : readExponent? rest = some e) :
    read? t = some ⟨negative, whole, fraction, true, e⟩ := by
  simp only [read?, hsplit, hspan, hfraction, hne, hread]
  rfl

theorem read?_whole (hspan : NumberText.spanDigits body = (whole, rest)) (hpoint : ∀ s, rest ≠ 0x2e :: s)
    (hne : whole.isEmpty = false) (hread : readExponent? rest = some e) :
    read? t = some ⟨negative, whole, [], false, e⟩ := by
  simp only [read?, hsplit, hspan, hne, hread]
  rfl

end read

/-- A spelled number is read. -/
theorem read?_of_spells {t : Text} {n : NumberText} (h : Spells t n) : read? t = some n := by
  obtain ⟨mantissa, exponent, hsplit, hmantissa, hexponent⟩ := exists_split_of_spells h
  have hread := readExponent?_of_isExponent hexponent
  have hstop := takeWhile_exponent hexponent
  have hpoint : ∀ s : Text, (0x2e :: s).takeWhile isDigit = [] := fun s => List.takeWhile_cons_of_neg (by decide)
  obtain ⟨negative, whole, fraction, pointed, e⟩ := n
  dsimp only at hmantissa hexponent hsplit hread
  cases hmantissa with
  | digits hw =>
    exact read?_whole hsplit (spanDigits_append hw.digit hstop) (exponent_ne_point hexponent) hw.isEmpty hread
  | digitsPoint hw =>
    rw [List.append_assoc] at hsplit
    refine read?_point hsplit (spanDigits_append hw.digit (hpoint _)) (spanDigits_nil hstop) ?_ hread
    simp [hw.isEmpty]
  | digitsPointDigits hw hf =>
    rw [List.append_assoc, List.cons_append] at hsplit
    refine read?_point hsplit (spanDigits_append hw.digit (hpoint _)) (spanDigits_append hf.digit hstop) ?_ hread
    simp [hw.isEmpty]
  | pointDigits hf =>
    rw [List.cons_append] at hsplit
    refine read?_point hsplit (spanDigits_nil (hpoint _)) (spanDigits_append hf.digit hstop) ?_ hread
    simp [hf.isEmpty]

/-- What is read is spelled. -/
theorem spells_of_read? {t : Text} {n : NumberText} (h : read? t = some n) : Spells t n := by
  rcases hsplit : splitSign (strip t) with ⟨negative, body⟩
  rcases hspan : NumberText.spanDigits body with ⟨whole, rest⟩
  obtain ⟨before, after, ht, hbefore, hafter⟩ := exists_strip t
  obtain ⟨sign, hsign, hstrip⟩ := exists_sign hsplit
  obtain ⟨ds, hds, rfl, rfl⟩ := exists_digits hspan
  have hspells : ∀ {mantissa exponent : Text} {whole fraction : List Nat} {pointed : Bool} {e : Option Int},
      ds ++ rest = mantissa ++ exponent → IsMantissa mantissa whole fraction pointed → IsExponent exponent e →
        Spells t ⟨negative, whole, fraction, pointed, e⟩ := by
    intro mantissa exponent whole fraction pointed e heq hmantissa hexponent
    exact ⟨before, sign, mantissa, exponent, after, by rw [← heq, ← hstrip, ← ht], hbefore, hafter, hsign, hmantissa,
      hexponent⟩
  simp only [read?, hsplit, hspan] at h
  split at h
  · next behind =>
    rcases hfraction : NumberText.spanDigits behind with ⟨fraction, tail⟩
    obtain ⟨fs, hfs, rfl, rfl⟩ := exists_digits hfraction
    simp only [hfraction, isEmpty_digitValues hds, isEmpty_digitValues hfs, List.isEmpty_iff] at h
    split at h
    · cases h
    · next hne =>
      obtain ⟨e, he, hn⟩ := Option.bind_eq_some_iff.1 h
      cases hn
      have hexponent := isExponent_of_readExponent? he
      rcases eq_or_ne ds [] with rfl | hdsne
      · have hf : IsDigits fs := ⟨fun hf => hne ⟨rfl, hf⟩, hfs⟩
        refine hspells ?_ (.pointDigits hf) hexponent
        rfl
      · rcases eq_or_ne fs [] with rfl | hfsne
        · exact hspells (by simp) (.digitsPoint ⟨hdsne, hds⟩) hexponent
        · exact hspells (by simp) (.digitsPointDigits ⟨hdsne, hds⟩ ⟨hfsne, hfs⟩) hexponent
  · simp only [isEmpty_digitValues hds, List.isEmpty_iff] at h
    split at h
    · cases h
    · next hne =>
      obtain ⟨e, he, hn⟩ := Option.bind_eq_some_iff.1 h
      cases hn
      exact hspells rfl (.digits ⟨hne, hds⟩) (isExponent_of_readExponent? he)

/-- The reader of operands recognizes exactly the texts that spell a number. -/
theorem read?_eq_some_iff {t : Text} {n : NumberText} : read? t = some n ↔ Spells t n :=
  ⟨spells_of_read?, read?_of_spells⟩

end NumberText

end Rulebook
