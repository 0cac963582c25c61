import Mathlib.Data.List.TakeWhile
import Rulebook.Expression.Lexer
import Rulebook.Proofs.Expression.Literal
import Rulebook.Proofs.Outcome

/-!
# Quoted texts as tokens

What stands between double quotes on one line, in the escapes that quoting writes: `Quotes s t` says that the body
`s` spells the text `t` code point by code point. Such a body with a quote on either side is one token wherever a
space or nothing stands behind it, and the token decodes to the text. A quoted text is one of them.
-/

namespace Rulebook

/-- The text consists of code points of Unicode, lone surrogates among them. -/
def Text.IsUnicode (t : Text) : Prop := ∀ c ∈ t, c ≤ 0x10ffff

theorem Text.isUnprintable_eq_false_iff {c : Nat} :
    isUnprintable c = false ↔ 0x1f < c ∧ c ≠ 0x7f ∧ ¬ (0xd800 ≤ c ∧ c ≤ 0xdfff) := by
  simp [isUnprintable, isSurrogate, and_assoc]

namespace Expression
open Text

/-- The ways in which a code point stands between quotes: as it is, behind a backslash, or by its number in two or
in four hexadecimal digits. -/
inductive IsPiece : Text → CodePoint → Prop
  | plain {c : CodePoint} (hquote : c ≠ 0x22) (hslash : c ≠ 0x5c) (h : isUnprintable c = false) : IsPiece [c] c
  | escaped {c : CodePoint} (h : c = 0x5c ∨ c = 0x22) : IsPiece [0x5c, c] c
  | short {a b x y : Nat} (ha : hexValue? a = some x) (hb : hexValue? b = some y) :
      IsPiece [0x5c, cp 'x', a, b] (x * 16 + y)
  | long {a b c d x y z w : Nat} (ha : hexValue? a = some x) (hb : hexValue? b = some y) (hc : hexValue? c = some z)
      (hd : hexValue? d = some w) : IsPiece [0x5c, cp 'u', a, b, c, d] ((x * 16 + y) * 256 + (z * 16 + w))

/-- The body of a quoted literal, and the text that it spells. -/
inductive Quotes : Text → Text → Prop
  | nil : Quotes [] []
  | cons {p s t : Text} {c : CodePoint} (h : IsPiece p c) (hs : Quotes s t) : Quotes (p ++ s) (c :: t)

/-! ### Bodies that are written and read -/

theorem lt_of_hexValue? {c d : Nat} (h : hexValue? c = some d) : c < 0x67 ∧ 0x2f < c ∧ c ≠ 0x5c ∧ d < 16 := by
  unfold hexValue? at h
  delta CodePoint at h
  split_ifs at h <;> cases h <;> omega

theorem isPiece_numericEscape {n : Nat} (h : isUnprintable n = true) : IsPiece (numericEscape n) n := by
  have hlt := lt_of_isUnprintable h
  have hdigit : ∀ m, hexValue? (hexDigit (m % 16)) = some (m % 16) := fun m =>
    hexValue?_hexDigit _ (Nat.mod_lt m (by decide))
  unfold numericEscape
  by_cases hs : n ≤ 0xff
  · have hn : n / 16 % 16 * 16 + n % 16 = n := by omega
    have hpiece := IsPiece.short (hdigit (n / 16)) (hdigit n)
    rw [hn] at hpiece
    rwa [if_pos hs, hex_two]
  · have hn : (n / 4096 % 16 * 16 + n / 256 % 16) * 256 + (n / 16 % 16 * 16 + n % 16) = n := by omega
    have hpiece := IsPiece.long (hdigit (n / 4096)) (hdigit (n / 256)) (hdigit (n / 16)) (hdigit n)
    rw [hn] at hpiece
    rwa [if_neg hs, hex_four]

theorem isPiece_written (c : CodePoint) : IsPiece (written c) c := by
  unfold written
  by_cases hmark : c = 0x5c ∨ c = 0x22
  · rw [if_pos hmark]
    exact .escaped hmark
  · rw [if_neg hmark]
    rw [not_or] at hmark
    by_cases hu : isUnprintable c = true
    · rw [if_pos hu]
      exact isPiece_numericEscape hu
    · rw [if_neg hu]
      exact .plain hmark.2 hmark.1 (by simpa using hu)

/-- Quoting writes a body that spells the text. -/
theorem quotes_written (t : Text) : Quotes (t.flatMap written) t := by
  induction t with
  | nil => exact .nil
  | cons c t ih =>
    rw [List.flatMap_cons]
    exact .cons (isPiece_written c) ih

theorem exists_of_hexPair? {s rest : Text} {n : Nat} (h : hexPair? s = some (n, rest)) :
    ∃ a b x y, s = a :: b :: rest ∧ hexValue? a = some x ∧ hexValue? b = some y ∧ n = x * 16 + y := by
  match s, h with
  | a :: b :: rest', h =>
    simp only [hexPair?, Option.bind_eq_bind, Option.bind_eq_some_iff, Option.pure_def, Option.some.injEq,
      Prod.mk.injEq] at h
    obtain ⟨x, hx, y, hy, rfl, rfl⟩ := h
    exact ⟨a, b, x, y, rfl, hx, hy, rfl⟩

/-- What the reader of literals takes is a body with a quote behind it, and it takes the text that the body
spells. -/
theorem quotes_of_readQuoted {fuel : Nat} {s done t rest : Text} (h : readQuoted fuel done s = some (t, rest)) :
    ∃ body u, s = body ++ 0x22 :: rest ∧ Quotes body u ∧ t = done.reverse ++ u := by
  have hcons : ∀ {p s : Text} {c : CodePoint} {done : Text}, IsPiece p c →
      (∃ body u, s = body ++ 0x22 :: rest ∧ Quotes body u ∧ t = (c :: done).reverse ++ u) →
      ∃ body u, p ++ s = body ++ 0x22 :: rest ∧ Quotes body u ∧ t = done.reverse ++ u := by
    rintro p s c done hp ⟨body, u, rfl, hu, rfl⟩
    exact ⟨p ++ body, c :: u, by simp, .cons hp hu, by simp⟩
  fun_induction readQuoted fuel done s with
  | case1 => cases h
  | case2 => cases h
  | case3 fuel done rest' =>
    cases h
    exact ⟨[], [], rfl, .nil, by simp⟩
  | case4 => cases h
  | case5 fuel done e more he _ ih => exact hcons (.escaped he) (ih h)
  | case6 fuel done s c more hpair _ _ ih =>
    obtain ⟨a, b, x, y, rfl, ha, hb, rfl⟩ := exists_of_hexPair? hpair
    exact hcons (.short ha hb) (ih h)
  | case7 => cases h
  | case8 fuel done s high more hhigh low more' hlow _ _ _ ih =>
    obtain ⟨a, b, x, y, rfl, ha, hb, rfl⟩ := exists_of_hexPair? hhigh
    obtain ⟨c, d, z, w, rfl, hc, hd, rfl⟩ := exists_of_hexPair? hlow
    exact hcons (.long ha hb hc hd) (ih h)
  | case9 => cases h
  | case10 => cases h
  | case11 => cases h
  | case12 => cases h
  | case13 fuel done c more hquote hslash hu ih =>
    exact hcons (.plain hquote hslash (by simpa using hu)) (ih h)

/-! ### The end of a body -/

/-- The lexer passes one piece of a body after the other. -/
theorem IsPiece.skipQuoted {p : Text} {c : CodePoint} (h : IsPiece p c) {fuel : Nat} (lines : Nat) {s : Text}
    (hfuel : (p ++ s).length < fuel) :
    ∃ fuel', s.length < fuel' ∧
      Expression.skipQuoted 0x22 false fuel lines (p ++ s) = Expression.skipQuoted 0x22 false fuel' lines s := by
  have hstep : ∀ {d : CodePoint} {fuel : Nat} {s : Text}, d ≠ 0x22 → d ≠ 0x5c → d ≠ 10 →
      Expression.skipQuoted 0x22 false (fuel + 1) lines (d :: s) = Expression.skipQuoted 0x22 false fuel lines s := by
    intro d fuel s hquote hslash hline
    simp [Expression.skipQuoted, hquote, hslash, hline]
  have hskip : ∀ {d : CodePoint} {fuel : Nat} {s : Text}, d ≠ 10 →
      Expression.skipQuoted 0x22 false (fuel + 1) lines (0x5c :: d :: s) =
        Expression.skipQuoted 0x22 false fuel lines s := by
    intro d fuel s hline
    simp [Expression.skipQuoted, hline]
  have hhex : ∀ {d x : Nat}, hexValue? d = some x → d ≠ 0x22 ∧ d ≠ 0x5c ∧ d ≠ 10 := by
    intro d x hd
    have hlt := lt_of_hexValue? hd
    omega
  obtain ⟨k, rfl⟩ := Nat.exists_eq_add_of_lt hfuel
  rw [List.length_append]
  cases h with
  | plain hquote hslash hu =>
    have hline : c ≠ 10 := by rintro rfl; exact absurd hu (by decide)
    exact ⟨1 + s.length + k, by omega, hstep hquote hslash hline⟩
  | escaped hc =>
    have hline : c ≠ 10 := by rcases hc with rfl | rfl <;> decide
    exact ⟨2 + s.length + k, by omega, hskip hline⟩
  | short ha hb =>
    obtain ⟨ha₁, ha₂, ha₃⟩ := hhex ha
    obtain ⟨hb₁, hb₂, hb₃⟩ := hhex hb
    refine ⟨2 + s.length + k, by omega, ?_⟩
    rw [show [0x5c, cp 'x', _, _].length + s.length + k + 1 = 2 + s.length + k + 1 + 1 + 1 by simp; omega]
    exact (hskip (by decide)).trans ((hstep ha₁ ha₂ ha₃).trans (hstep hb₁ hb₂ hb₃))
  | long ha hb hc hd =>
    obtain ⟨ha₁, ha₂, ha₃⟩ := hhex ha
    obtain ⟨hb₁, hb₂, hb₃⟩ := hhex hb
    obtain ⟨hc₁, hc₂, hc₃⟩ := hhex hc
    obtain ⟨hd₁, hd₂, hd₃⟩ := hhex hd
    refine ⟨2 + s.length + k, by omega, ?_⟩
    rw [show [0x5c, cp 'u', _, _, _, _].length + s.length + k + 1 = 2 + s.length + k + 1 + 1 + 1 + 1 + 1 by simp; omega]
    exact (hskip (by decide)).trans ((hstep ha₁ ha₂ ha₃).trans ((hstep hb₁ hb₂ hb₃).trans
      ((hstep hc₁ hc₂ hc₃).trans (hstep hd₁ hd₂ hd₃))))

/-- The lexer finds the end of a body at the quote behind it. -/
theorem Quotes.skipQuoted {s t : Text} (h : Quotes s t) {fuel : Nat} (lines : Nat) {rest : Text}
    (hfuel : (s ++ 0x22 :: rest).length < fuel) :
    Expression.skipQuoted 0x22 false fuel lines (s ++ 0x22 :: rest) = .ok (lines, rest) := by
  induction h generalizing fuel with
  | nil =>
    obtain ⟨k, rfl⟩ := Nat.exists_eq_add_of_lt hfuel
    simp [Expression.skipQuoted]
  | @cons p s t c hp _ ih =>
    rw [List.append_assoc] at hfuel ⊢
    obtain ⟨fuel', hfuel', hskip⟩ := hp.skipQuoted lines hfuel
    rw [hskip, ih hfuel']

/-! ### What a body decodes to -/

/-- A hexadecimal escape is decoded in one step. -/
theorem decodeEscapesLoop_hex {e : CodePoint} {count : Nat} {reason d : Text}
    (he : hexEscape? e = some (count, reason)) (hcount : d.length = count)
    (hdigits : ∀ c ∈ d, (hexValue? c).isSome = true) (hvalue : valueInBase 16 d ≤ 0x10ffff) (fuel i : Nat)
    (done s : Text) :
    decodeEscapesLoop false (fuel + 1) i done (0x5c :: e :: (d ++ s)) =
      decodeEscapesLoop false fuel (i + 2 + count) (valueInBase 16 d :: done) s := by
  have hmark : e = cp 'x' ∨ e = cp 'u' ∨ e = cp 'U' := by
    unfold hexEscape? at he
    split_ifs at he <;> simp_all
  have hother : e ≠ 10 ∧ letterEscape? e = none ∧ isOctalDigit e = false := by
    rcases hmark with rfl | rfl | rfl <;> decide
  have hleading : leadingHex count (d ++ s) = d := by
    rw [leadingHex, ← hcount, List.take_left]
    exact List.takeWhile_eq_self_iff.2 hdigits
  have hdrop : (d ++ s).drop count = s := by rw [← hcount, List.drop_left]
  rw [decodeEscapesLoop.eq_def]
  simp [hother, he, hleading, hdrop, hcount, Nat.not_lt.2 hvalue]

theorem hexValue?_isSome_of_mem_hex {n c d : Nat} (h : d ∈ hex n c) : (hexValue? d).isSome = true := by
  rw [hex, List.mem_map] at h
  obtain ⟨i, -, rfl⟩ := h
  rw [hexValue?_hexDigit _ (Nat.mod_lt _ (by decide))]
  rfl

theorem valueInBase_hex_eight {c : Nat} (hc : c ≤ 0x10ffff) : valueInBase 16 (hex 8 c) = c := by
  have hdigit : ∀ m, hexValue? (hexDigit (m % 16)) = some (m % 16) := fun m =>
    hexValue?_hexDigit _ (Nat.mod_lt m (by decide))
  simp [valueInBase, hex, List.range_succ, hdigit]
  omega

/-- A piece in ASCII, which is decoded in one step. -/
theorem IsPiece.exists_ascii {p : Text} {c : CodePoint} (h : IsPiece p c) (hc : c ≤ 0x10ffff) :
    ∃ q : Text, q ≠ [] ∧ (∀ done s, toAscii done (p ++ s) = toAscii (q.reverse ++ done) s) ∧
      ∀ fuel i done s, ∃ j, decodeEscapesLoop false (fuel + 1) i done (q ++ s) =
        decodeEscapesLoop false fuel j (c :: done) s := by
  have hhex : ∀ {d x : Nat}, hexValue? d = some x → d < 128 ∧ d ≠ 0x5c := by
    intro d x hd
    have hlt := lt_of_hexValue? hd
    omega
  cases h with
  | plain hquote hslash hu =>
    by_cases hsmall : c < 128
    · refine ⟨[c], by simp, fun done s => ?_, fun fuel i done s => ⟨i + 1, ?_⟩⟩
      · simp [toAscii, hslash, hsmall]
      · simp [decodeEscapesLoop, hslash]
    · refine ⟨0x5c :: 0x55 :: hex 8 c, by simp, fun done s => ?_, fun fuel i done s => ⟨i + 2 + 8, ?_⟩⟩
      · simp [toAscii, hslash, hsmall]
      · have hvalue := valueInBase_hex_eight hc
        have hdecode := decodeEscapesLoop_hex (e := 0x55) (d := hex 8 c) rfl (by simp [hex])
          (fun d hd => hexValue?_isSome_of_mem_hex hd) (by rwa [hvalue]) fuel i done s
        rwa [hvalue] at hdecode
  | escaped hmark =>
    refine ⟨[0x5c, c], by simp, fun done s => ?_, fun fuel i done s => ⟨i + 2, ?_⟩⟩
    · have hsmall : c < 128 := by rcases hmark with rfl | rfl <;> decide
      simp [toAscii, hsmall]
    · have hletter : letterEscape? c = some c := by rcases hmark with rfl | rfl <;> rfl
      have hline : c ≠ 10 := by rcases hmark with rfl | rfl <;> decide
      simp [decodeEscapesLoop, hletter, hline]
  | @short a b x y ha hb =>
    refine ⟨[0x5c, cp 'x', a, b], by simp, fun done s => ?_, fun fuel i done s => ⟨i + 2 + 2, ?_⟩⟩
    · simp [toAscii, hhex ha, hhex hb, cp]
    · have hvalue : valueInBase 16 [a, b] = x * 16 + y := by simp [valueInBase, ha, hb]; omega
      have hdecode := decodeEscapesLoop_hex (e := cp 'x') (d := [a, b]) rfl rfl (by simp [ha, hb])
        (by rw [hvalue]; exact hc) fuel i done s
      rwa [hvalue] at hdecode
  | @long a b d e x y z w ha hb hd he =>
    refine ⟨[0x5c, cp 'u', a, b, d, e], by simp, fun done s => ?_, fun fuel i done s => ⟨i + 2 + 4, ?_⟩⟩
    · simp [toAscii, hhex ha, hhex hb, hhex hd, hhex he, cp]
    · have hvalue : valueInBase 16 [a, b, d, e] = (x * 16 + y) * 256 + (z * 16 + w) := by
        simp [valueInBase, ha, hb, hd, he]
        omega
      have hdecode := decodeEscapesLoop_hex (e := cp 'u') (d := [a, b, d, e]) rfl rfl (by simp [ha, hb, hd, he])
        (by rw [hvalue]; exact hc) fuel i done s
      rwa [hvalue] at hdecode

/-- A body in ASCII, which is decoded to the text. -/
theorem Quotes.exists_ascii {s t : Text} (h : Quotes s t) (ht : IsUnicode t) :
    ∃ a : Text, t.length ≤ a.length ∧ (∀ done, toAscii done s = done.reverse ++ a) ∧
      ∀ fuel i done, t.length < fuel → decodeEscapesLoop false fuel i done a = .ok (done.reverse ++ t) := by
  induction h with
  | nil =>
    refine ⟨[], Nat.le_refl _, fun done => by simp [toAscii], fun fuel i done hfuel => ?_⟩
    obtain ⟨k, rfl⟩ := Nat.exists_eq_add_of_lt hfuel
    simp [decodeEscapesLoop]
  | @cons p s t c hp hs ih =>
    obtain ⟨hc, ht⟩ := List.forall_mem_cons.1 ht
    obtain ⟨q, hq, hascii, hdecode⟩ := hp.exists_ascii hc
    obtain ⟨a, hlength, hasciis, hdecodes⟩ := ih ht
    refine ⟨q ++ a, ?_, fun done => ?_, fun fuel i done hfuel => ?_⟩
    · have hpos := List.length_pos_iff.2 hq
      simp only [List.length_cons, List.length_append]
      omega
    · rw [hascii, hasciis]
      simp
    · obtain ⟨k, rfl⟩ := Nat.exists_eq_add_of_lt hfuel
      obtain ⟨j, hj⟩ := hdecode ((c :: t).length + k) i done a
      rw [hj, hdecodes _ _ _ (by simp only [List.length_cons]; omega)]
      simp

/-- A body without a backslash spells itself. -/
theorem Quotes.eq_of_notMem {s t : Text} (h : Quotes s t) (hslash : 0x5c ∉ s) : s = t := by
  induction h with
  | nil => rfl
  | @cons p s t c hp hs ih =>
    rw [List.mem_append, not_or] at hslash
    rw [ih hslash.2]
    cases hp with
    | plain => rfl
    | _ => exact absurd List.mem_cons_self hslash.1

/-- A body decodes to the text that it spells. -/
theorem Quotes.decodeText {s t : Text} (h : Quotes s t) (ht : IsUnicode t) : Expression.decodeText false s = .ok t := by
  by_cases hslash : 0x5c ∈ s
  · obtain ⟨a, hlength, hascii, hdecode⟩ := h.exists_ascii ht
    have hdecodes : decodeEscapes (toAscii [] s) = .ok t := by
      rw [hascii []]
      exact hdecode _ 0 [] (Nat.lt_succ_of_le hlength)
    simp [Expression.decodeText, hslash, hdecodes]
  · obtain rfl := h.eq_of_notMem hslash
    simp [Expression.decodeText, hslash]

/-! ### The token -/

/-- A body between quotes. -/
def between (s : Text) : Text := 0x22 :: (s ++ [0x22])

theorem quote_eq_between (t : Text) : quote t = between (t.flatMap written) := quote_eq t

theorem IsPiece.exists_head {p : Text} {c : CodePoint} (h : IsPiece p c) : ∃ d u, p = d :: u ∧ d ≠ 0x22 := by
  cases h with
  | plain hquote _ _ => exact ⟨_, _, rfl, hquote⟩
  | _ => exact ⟨_, _, rfl, by decide⟩

theorem IsPiece.printable {p : Text} {c d : CodePoint} (h : IsPiece p c) (hd : d ∈ p) : isUnprintable d = false := by
  have hhex : ∀ {e x : Nat}, hexValue? e = some x → isUnprintable e = false := by
    intro e x he
    have hlt := lt_of_hexValue? he
    rw [isUnprintable_eq_false_iff]
    omega
  cases h with
  | plain _ _ hu => rwa [List.mem_singleton.1 hd]
  | escaped hmark =>
    rcases hmark with rfl | rfl <;> simp only [List.mem_cons, List.not_mem_nil, or_false] at hd <;>
      rcases hd with rfl | rfl <;> rfl
  | short ha hb =>
    simp only [List.mem_cons, List.not_mem_nil, or_false] at hd
    rcases hd with rfl | rfl | rfl | rfl
    exacts [rfl, rfl, hhex ha, hhex hb]
  | long ha hb hc hd' =>
    simp only [List.mem_cons, List.not_mem_nil, or_false] at hd
    rcases hd with rfl | rfl | rfl | rfl | rfl | rfl
    exacts [rfl, rfl, hhex ha, hhex hb, hhex hc, hhex hd']

/-- A body is empty, or it begins with something other than a quote. -/
theorem Quotes.exists_head {s t : Text} (h : Quotes s t) : s = [] ∨ ∃ d u, s = d :: u ∧ d ≠ 0x22 := by
  cases h with
  | nil => exact .inl rfl
  | @cons p s t c hp _ =>
    obtain ⟨d, u, rfl, hd⟩ := hp.exists_head
    exact .inr ⟨d, u ++ s, rfl, hd⟩

/-- Three quotes in a row would start a longer literal, but behind two of them stands something else. -/
theorem readQuotedToken_empty (c : Cursor) {rest : Text} (hrest : ∀ d ∈ rest.head?, d ≠ 0x22) :
    readQuotedToken c 0x22 (0x22 :: rest) =
      .ok (c.push .string "" (c.rest.take (c.rest.length - rest.length)) rest) := by
  cases rest with
  | nil => rfl
  | cons d t => simp only [readQuotedToken, ↓reduceIte, if_neg (hrest d rfl)]; rfl

theorem readQuotedToken_of_skipQuoted (c : Cursor) {d : CodePoint} {u rest : Text} (hd : d ≠ 0x22)
    (h : skipQuoted 0x22 false ((d :: u).length + 1) 0 (d :: u) = .ok (0, rest)) :
    readQuotedToken c 0x22 (d :: u) = .ok (c.push .string "" (c.rest.take (c.rest.length - rest.length)) rest) := by
  cases u with
  | nil => simp only [readQuotedToken, if_neg hd, h]; rfl
  | cons => simp only [readQuotedToken, if_neg hd, h]; rfl

namespace Quotes
variable {s t : Text} (h : Quotes s t)
include h

/-- A body between quotes is one token of the text, where no quote stands behind it. -/
theorem readToken {c : Cursor} {rest : Text} (hc : c.rest = between s ++ rest) (hrest : ∀ d ∈ rest.head?, d ≠ 0x22) :
    Expression.readToken c 0x22 (s ++ 0x22 :: rest) = .ok (c.push .string "" (between s) rest) := by
  have hopen : c.rest = 0x22 :: (s ++ 0x22 :: rest) := by rw [hc]; simp [between]
  have hquote : quoteAfter? c.rest = some ([], 0x22, s ++ 0x22 :: rest) := by rw [hopen]; rfl
  have htext : c.rest.take (c.rest.length - rest.length) = between s := by rw [hc]; simp
  have hread := h.skipQuoted 0 (Nat.lt_succ_self (s ++ 0x22 :: rest).length)
  simp only [Expression.readToken, hquote]
  rw [← htext]
  rcases h.exists_head with rfl | ⟨d, u, rfl, hd⟩
  · exact readQuotedToken_empty c hrest
  · exact readQuotedToken_of_skipQuoted c hd hread

theorem ofToken (line : Nat) : Quotation.ofToken line (between s) = ⟨false, false, false, s, line⟩ := by
  rcases h.exists_head with rfl | ⟨d, u, rfl, hd⟩
  · rfl
  · have hletters : (between (d :: u)).takeWhile isAsciiLetter = [] := rfl
    simp only [Quotation.ofToken, hletters]
    cases u <;> simp [between, asciiLower, Ne.symm hd]

/-- The literal of a body between quotes is the text. -/
theorem readStrings (ht : IsUnicode t) (inner : Formatted.Inner) (line : Nat) :
    Expression.readStrings inner [(line, between s)] = .ok (.mk (.constant (.text t)) line []) := by
  have hpiece : (Expression.decodeText false s).mapError Formatted.Trouble.own = .ok t := by rw [h.decodeText ht]; rfl
  simp [Expression.readStrings, h.ofToken, hpiece]

omit h in
/-- A body of Unicode spells such a text. -/
theorem isUnicode (h : Quotes s t) (hs : IsUnicode s) : IsUnicode t := by
  induction h with
  | nil => exact hs
  | @cons p s t c hp _ ih =>
    obtain ⟨hp', hs⟩ := List.forall_mem_append.1 hs
    refine List.forall_mem_cons.2 ⟨?_, ih hs⟩
    cases hp with
    | plain => exact hp' c List.mem_cons_self
    | escaped hc => rcases hc with rfl | rfl <;> decide
    | short ha hb =>
      have := lt_of_hexValue? ha
      have := lt_of_hexValue? hb
      unfold CodePoint
      omega
    | long ha hb hc hd =>
      have := lt_of_hexValue? ha
      have := lt_of_hexValue? hb
      have := lt_of_hexValue? hc
      have := lt_of_hexValue? hd
      unfold CodePoint
      omega

/-- Nothing of a body is a control character or a surrogate. -/
theorem printable {c : CodePoint} (hc : c ∈ s) : isUnprintable c = false := by
  induction h with
  | nil => cases hc
  | cons hp _ ih => exact (List.mem_append.1 hc).elim hp.printable ih

end Quotes

/-! ### Quoted texts -/

/-- A text without surrogates and null is read. -/
theorem unreadable?_eq_none {t : Text} (h : ∀ c ∈ t, isUnprintable c = false) : unreadable? t = none := by
  have hsurrogate : ∀ c ∈ t, Text.isSurrogate c = false := by
    intro c hc
    have hu := h c hc
    simp only [isUnprintable, Bool.or_eq_false_iff] at hu
    exact hu.2
  have hnull : 0 ∉ t := fun h0 => absurd (h 0 h0) (by decide)
  have hstart : t.takeWhile (fun c => !Text.isSurrogate c) = t := by
    rw [List.takeWhile_eq_self_iff]
    intro c hc
    rw [hsurrogate c hc]
    rfl
  simp [unreadable?, hstart, hnull]

theorem quote_printable {t : Text} {c : CodePoint} (hc : c ∈ quote t) : isUnprintable c = false := by
  rw [quote_eq_between, between] at hc
  rcases List.mem_cons.1 hc with rfl | hc
  · rfl
  · rcases List.mem_append.1 hc with hc | hc
    · exact (quotes_written t).printable hc
    · rw [List.mem_singleton.1 hc]
      rfl

/-- A quoted text is one token wherever nothing or a space stands behind it, and the literal of this token is the
text. It has no control character, no line end and no surrogate, so it can be read on one line, and what stands
behind it is told apart from it. -/
theorem quote_selfDelimiting (t : Text) (ht : t.IsUnicode) :
    (∀ (c : Cursor) (rest : Text), c.rest = quote t ++ rest → Bounded rest →
      ∃ behind, c.rest = 0x22 :: behind ∧ readToken c 0x22 behind = .ok (c.push .string "" (quote t) rest)) ∧
    (∀ (inner : Formatted.Inner) (line : Nat),
      readStrings inner [(line, quote t)] = .ok (.mk (.constant (.text t)) line [])) ∧
    (∀ c ∈ quote t, 0x1f < c ∧ c ≠ 0x7f ∧ ¬ (0xd800 ≤ c ∧ c ≤ 0xdfff)) ∧
    unreadable? (quote t) = none ∧
    ∀ u rest rest' : Text, quote t ++ rest = quote u ++ rest' → t = u ∧ rest = rest' := by
  have hbody := quotes_written t
  refine ⟨fun c rest hc hrest => ?_, fun inner line => ?_, fun c hc => ?_, ?_, fun u rest rest' heq => ?_⟩
  · rw [quote_eq_between] at hc ⊢
    have hquote : ∀ d ∈ rest.head?, d ≠ 0x22 := by
      rcases hrest with rfl | ⟨u, rfl⟩ <;> simp
    exact ⟨t.flatMap written ++ 0x22 :: rest, by rw [hc]; simp [between], hbody.readToken hc hquote⟩
  · rw [quote_eq_between]
    exact hbody.readStrings ht inner line
  · exact isUnprintable_eq_false_iff.1 (quote_printable hc)
  · exact unreadable?_eq_none fun c hc => quote_printable hc
  · have hread := readLiteral_quote t rest
    rw [heq, readLiteral_quote] at hread
    simp only [Option.some.injEq, Prod.mk.injEq, Value.text.injEq] at hread
    exact ⟨hread.1.symm, hread.2.symm⟩

/-- A text with escapes, quotes, a line end and a surrogate before the sign of a relation. -/
theorem quote_selfDelimiting_hard :
    Text.IsUnicode [0x5c, 0x78, 0x34, 0x31, 0x22, 0x5c, 0x5c, 10, 0xd800, 0x22, 0x22] ∧
      ∃ behind, readToken ⟨#[], 1, [], [],
          quote [0x5c, 0x78, 0x34, 0x31, 0x22, 0x5c, 0x5c, 10, 0xd800, 0x22, 0x22] ++ " == \"\""⟩ 0x22 behind =
        .ok ((⟨#[], 1, [], [], []⟩ : Cursor).push .string ""
          (quote [0x5c, 0x78, 0x34, 0x31, 0x22, 0x5c, 0x5c, 10, 0xd800, 0x22, 0x22]) " == \"\"") := by
  have ht : Text.IsUnicode [0x5c, 0x78, 0x34, 0x31, 0x22, 0x5c, 0x5c, 10, 0xd800, 0x22, 0x22] := by
    simp [Text.IsUnicode]
  obtain ⟨behind, -, hread⟩ := (quote_selfDelimiting _ ht).1
    ⟨#[], 1, [], [], quote [0x5c, 0x78, 0x34, 0x31, 0x22, 0x5c, 0x5c, 10, 0xd800, 0x22, 0x22] ++ " == \"\""⟩ _ rfl
    (.inr ⟨_, rfl⟩)
  exact ⟨ht, behind, hread⟩

end Expression
end Rulebook
