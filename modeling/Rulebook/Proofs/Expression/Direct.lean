import Rulebook.Proofs.Expression.Numeral
import Rulebook.Proofs.Expression.Quotation
import Rulebook.Proofs.Expression.Sentence

/-!
# The short form and the grammar

What the reader of two literals takes, the lexer cuts into the tokens of two operands and a relation between them. So the
grammar reads it as one chain, and the value is the same.
-/

namespace Rulebook.Expression
open Text Expression.Source

/-! ### Steps of the lexer -/

/-- A token on the first line, outside of brackets. -/
def plainToken (kind : TokenKind) (spelling : String) (text : Text) : Token := ⟨kind, spelling, text, 1, 0⟩

/-- The place behind some tokens of the first line. -/
def cursor (us : List Token) (rest : Text) : Cursor := ⟨us.toArray, 1, [], [], rest⟩

theorem cursor_push (us : List Token) (kind : TokenKind) (spelling : String) (text t rest : Text) :
    (cursor us t).push kind spelling text rest = cursor (us ++ [plainToken kind spelling text]) rest := by
  simp [cursor, Cursor.push, plainToken]

/-- What a token starts with that is neither blank nor a comment nor the end of a line. -/
def Opens (c : CodePoint) : Prop := isGap c = false ∧ c ≠ 0x23 ∧ c ≠ 10 ∧ c ≠ 0x5c

instance (c : CodePoint) : Decidable (Opens c) := inferInstanceAs (Decidable (_ ∧ _))

variable {us : List Token} {x : CodePoint} {t rest : Text}

theorem lexFrom_gap (fuel : Nat) (us : List Token) (rest : Text) :
    lexFrom (fuel + 1) false (cursor us (0x20 :: rest)) = lexFrom (fuel + 1) false (cursor us rest) := rfl

theorem lexFrom_token (hx : Opens x) (fuel : Nat) {c : Cursor} (h : readToken (cursor us (x :: rest)) x rest = .ok c) :
    lexFrom (fuel + 1) false (cursor us (x :: rest)) = lexFrom fuel false c := by
  obtain ⟨hgap, hcomment, hline, hslash⟩ := hx
  have hdrop : (x :: rest).dropWhile isGap = x :: rest := List.dropWhile_cons_of_neg (by simp [hgap])
  rw [lexFrom]
  simp only [cursor, hdrop] at h ⊢
  simp [hcomment, h]

theorem lexFrom_start (hx : Opens x) (fuel : Nat) (us : List Token) (rest : Text) :
    lexFrom (fuel + 1) true (cursor us (x :: rest)) = lexFrom fuel false (cursor us (x :: rest)) := by
  obtain ⟨hgap, hcomment, hline, hslash⟩ := hx
  have hcolumn : column 0 0 (x :: rest) = (0, 0, x :: rest) := by
    simp only [isGap, Bool.or_eq_false_iff, beq_eq_false_iff_ne] at hgap
    simp [column, hgap]
  have hstart : lineStart ((x :: rest).length + 1) (cursor us (x :: rest)) none = .ok (cursor us (x :: rest), 0, 0) := by
    simp [lineStart, cursor, hcolumn, hslash]
  rw [lexFrom]
  simp only [show (cursor us (x :: rest)).rest = x :: rest from rfl, hstart]
  simp [hcomment, hline, cursor, settle]

theorem lexFrom_end (fuel : Nat) (us : List Token) :
    lexFrom (fuel + 3) false (cursor us [10]) =
      ⟨(us ++ [plainToken .newline "" [], plainToken .finish "" []]).toArray, .complete⟩ := by
  have hline : (cursor us [10]).push .newline "" [] [] = cursor (us ++ [plainToken .newline "" []]) [] := by
    rw [cursor_push]
  show (⟨(((cursor us [10]).push .newline "" [] []).tokens.push (plainToken .finish "" [])), .complete⟩ : TokenStream) = _
  rw [hline]
  simp [cursor]

/-! ### The tokens of a literal -/

/-- A digit starts neither a name nor a quoted text. -/
theorem of_isAsciiDigit {x : Nat} (hx : isAsciiDigit x = true) :
    Opens x ∧ isAsciiLetter x = false ∧ startsName x = false ∧ x ≠ 0x22 ∧ x ≠ 0x27 := by
  have hall : ∀ x < 0x3a, isAsciiDigit x = true →
      Opens x ∧ isAsciiLetter x = false ∧ startsName x = false ∧ x ≠ 0x22 ∧ x ≠ 0x27 := by
    decide
  have hle : x ≤ 0x39 := by
    simp only [isAsciiDigit, Bool.and_eq_true, decide_eq_true_eq] at hx
    exact hx.2
  exact hall x (Nat.lt_succ_of_le hle) hx

/-- Before a quote stands no quoted text. -/
theorem quoteAfter?_eq_none (hx : isAsciiLetter x = false) (hquote : x ≠ 0x22 ∧ x ≠ 0x27) :
    quoteAfter? (x :: rest) = none := by
  have hletters : (x :: rest).takeWhile isAsciiLetter = [] := List.takeWhile_cons_of_neg (by simp [hx])
  simp [quoteAfter?, hletters, hquote]

/-- A number is one token. -/
theorem Numeral.readToken {l : Text} {v : Value} (h : Numeral l v) (hrest : Stops rest) (us : List Token) :
    ∃ x t, l = x :: t ∧ Opens x ∧ Expression.readToken (cursor us (l ++ rest)) x (t ++ rest) =
      .ok (cursor (us ++ [plainToken .number "" l]) rest) := by
  obtain ⟨x, t, hl, hx⟩ := h.head
  obtain ⟨hopens, hletter, hname, hquotes⟩ := of_isAsciiDigit hx
  refine ⟨x, t, hl, hopens, ?_⟩
  have htext : (l ++ rest).take ((l ++ rest).length - rest.length) = l := by simp
  have hread : readNumber (cursor us (l ++ rest)) (Expression.skipNumber (l ++ rest)) =
      .ok (cursor (us ++ [plainToken .number "" l]) rest) := by
    rw [h.skipNumber hrest, readNumber, ← cursor_push us .number "" l (l ++ rest) rest]
    exact congrArg (fun text => Except.ok ((cursor us (l ++ rest)).push .number "" text rest)) htext
  have hquote : quoteAfter? (l ++ rest) = none := by
    rw [hl]
    exact quoteAfter?_eq_none hletter hquotes
  simp only [Expression.readToken, show (cursor us (l ++ rest)).rest = l ++ rest from rfl, hquote, hname, hx,
    Bool.false_eq_true, ↓reduceIte]
  exact hread

/-- No sign of several code points has a digit in its second place. -/
theorem sign?_digit (hx : isAsciiDigit x = true) (y : CodePoint) : sign? (y :: x :: rest) = none := by
  have hsecond : ∀ s ∈ longSigns, ∃ a b u, ofString s = a :: b :: u ∧ isAsciiDigit b = false := by
    have h : longSigns.all fun s => (ofString s)[1]?.any fun b => !isAsciiDigit b := by decide
    intro s hs
    have hany := List.all_eq_true.1 h s hs
    rcases hs : ofString s with _ | ⟨a, _ | ⟨b, u⟩⟩
    · simp [hs] at hany
    · simp [hs] at hany
    · exact ⟨a, b, u, rfl, by simpa [hs] using hany⟩
  rw [sign?, List.findSome?_eq_none_iff]
  intro s hs
  obtain ⟨a, b, u, heq, hb⟩ := hsecond s hs
  have hne : b ≠ x := by
    rintro rfl
    rw [hx] at hb
    cases hb
  rw [heq]
  simp [after?, hne]

/-- A sign of one code point is a token of its own. -/
theorem readToken_sign {y : CodePoint} (hy : y ∈ [0x2d, 0x3c, 0x3e]) (hsign : sign? (y :: rest) = none)
    (us : List Token) :
    readToken (cursor us (y :: rest)) y rest = .ok (cursor (us ++ [plainToken .word (toStringLossy [y]) [y]]) rest) := by
  have hall : ∀ y ∈ [0x2d, 0x3c, 0x3e], isAsciiLetter y = false ∧ (y ≠ 0x22 ∧ y ≠ 0x27) ∧ startsName y = false ∧
      isAsciiDigit y = false ∧ y ≠ 0x2e ∧ isOpening y = false ∧ closes? y = none ∧ isPrintable y = true := by
    decide +kernel
  obtain ⟨hletter, hquotes, hname, hdigit, hpoint, hopening, hcloses, hprintable⟩ := hall y hy
  have hquote : quoteAfter? (y :: rest) = none := quoteAfter?_eq_none hletter hquotes
  rw [← cursor_push us .word _ [y] (y :: rest)]
  simp only [readToken, show (cursor us (y :: rest)).rest = y :: rest from rfl, hquote, hsign, hname, hdigit, hpoint,
    readSign, hopening, hcloses, hprintable, false_and, Bool.false_eq_true, ↓reduceIte]

/-- A minus sign before a digit is a token of its own. -/
theorem readToken_minus (hx : isAsciiDigit x = true) (us : List Token) :
    readToken (cursor us (0x2d :: x :: rest)) 0x2d (x :: rest) =
      .ok (cursor (us ++ [plainToken .word "-" [0x2d]]) (x :: rest)) :=
  readToken_sign (by decide) (sign?_digit hx _) us

/-! ### The tokens of the short form -/

theorem Stops.not_quote (h : Stops rest) : ∀ d ∈ rest.head?, d ≠ 0x22 := by
  obtain ⟨c, t, rfl, hc⟩ := h
  rcases hc with rfl | rfl <;> simp

/-- The lexer passes a text and finds tokens in it, where a space or the end of the line stands behind it. -/
def LexesTo (l : Text) (ts : List Token) : Prop :=
  ∀ (us : List Token) (rest : Text) (fuel : Nat), Stops rest →
    lexFrom (fuel + ts.length) false (cursor us (l ++ rest)) = lexFrom fuel false (cursor (us ++ ts) rest)

/-- Tokens with spaces before them are passed as well. -/
theorem LexesTo.gap {l : Text} {ts : List Token} (h : LexesTo l ts) (hne : ts ≠ []) : LexesTo (0x20 :: l) ts := by
  intro us rest fuel hrest
  obtain ⟨m, hm⟩ : ∃ m, ts.length = m + 1 := Nat.exists_eq_succ_of_ne_zero (List.length_pos_iff.2 hne).ne'
  have := h us rest fuel hrest
  rw [hm] at this ⊢
  exact (lexFrom_gap (fuel + m) us (l ++ rest)).trans this

/-- Texts are passed one after the other where a space stands between them. -/
theorem LexesTo.append {l₁ l₂ : Text} {ts₁ ts₂ : List Token} (h₁ : LexesTo l₁ ts₁) (h₂ : LexesTo (0x20 :: l₂) ts₂) :
    LexesTo (l₁ ++ 0x20 :: l₂) (ts₁ ++ ts₂) := by
  intro us rest fuel hrest
  have hfirst := h₁ us (0x20 :: l₂ ++ rest) (fuel + ts₂.length) ⟨0x20, l₂ ++ rest, rfl, .inl rfl⟩
  have hsecond := h₂ (us ++ ts₁) rest fuel hrest
  rw [← List.append_assoc] at hfirst
  rw [List.length_append, Nat.add_comm ts₁.length, ← Nat.add_assoc, hfirst, hsecond, List.append_assoc]

theorem lexesTo_of_readToken {l s : Text} {k : Token} (hl : l = x :: s) (hx : Opens x)
    (h : ∀ us rest, Stops rest → readToken (cursor us (l ++ rest)) x (s ++ rest) = .ok (cursor (us ++ [k]) rest)) :
    LexesTo l [k] := by
  subst hl
  exact fun us rest fuel hrest => lexFrom_token hx fuel (h us rest hrest)

theorem Numeral.lexesTo {l : Text} {v : Value} (h : Numeral l v) : LexesTo l [plainToken .number "" l] := by
  obtain ⟨d, s, hl, hd⟩ := h.head
  refine lexesTo_of_readToken hl (of_isAsciiDigit hd).1 fun us rest hrest => ?_
  obtain ⟨x, t, hl', -, hread⟩ := h.readToken hrest us
  obtain ⟨rfl, rfl⟩ := List.cons.inj (hl.symm.trans hl')
  exact hread

theorem Numeral.printable {l : Text} {v : Value} (h : Numeral l v) : ∀ c ∈ l, isUnprintable c = false := by
  have hall : ∀ c < 0x66, isNumberSign c = true → isUnprintable c = false := by decide
  intro c hc
  have hsign := h.sign hc
  refine hall c ?_ hsign
  simp only [isNumberSign, isAsciiDigit, Bool.or_eq_true, Bool.and_eq_true, decide_eq_true_eq,
    beq_iff_eq] at hsign
  delta CodePoint at *
  omega

/-- The lexer passes the text, and its tokens spell an operand of the grammar with this value. -/
structure IsOperandText (inner : Formatted.Inner) (l : Text) (ts : List Token) (n : Node) (v : Value) : Prop where
  spells : SpellsOperand inner ts n v
  lexes : LexesTo l ts
  opens : ∃ x s, l = x :: s ∧ Opens x
  printable : ∀ c ∈ l, isUnprintable c = false

section operand
variable (inner : Formatted.Inner) {l s u : Text} {v w : Value}

theorem Quotes.exists_isOperandText (h : Quotes s u) (hu : IsUnicode u) :
    ∃ ts n, IsOperandText inner (between s) ts n (.text u) := by
  refine ⟨[plainToken .string "" (between s)], _, .literal (.string rfl (h.readStrings hu inner 1)), ?_,
    ⟨0x22, _, rfl, by decide⟩, fun c hc => ?_⟩
  · refine lexesTo_of_readToken rfl (by decide) fun us rest hrest => ?_
    have hread := h.readToken (c := cursor us (between s ++ rest)) rfl hrest.not_quote
    rw [cursor_push] at hread
    simpa [between] using hread
  · rcases List.mem_cons.1 hc with rfl | hc
    · rfl
    rcases List.mem_append.1 hc with hc | hc
    · exact h.printable hc
    · rw [List.mem_singleton.1 hc]
      rfl

theorem Numeral.standsFor (h : Numeral l v) : StandsFor inner (plainToken .number "" l) v :=
  .number rfl (h.numberValue 1)

theorem Numeral.exists_isOperandText (h : Numeral l v) : ∃ ts n, IsOperandText inner l ts n v := by
  obtain ⟨d, s, hd, hdigit⟩ := h.head
  exact ⟨_, _, .literal (h.standsFor inner), h.lexesTo, ⟨d, s, hd, (of_isAsciiDigit hdigit).1⟩, h.printable⟩

theorem Numeral.exists_isOperandText_minus (h : Numeral l v) (hw : negate? v = some w) :
    ∃ ts n, IsOperandText inner (0x2d :: l) ts n w := by
  obtain ⟨d, s, hd, hdigit⟩ := h.head
  refine ⟨[plainToken .word "-" [0x2d], plainToken .number "" l], _, .negative rfl rfl (h.standsFor inner) hw,
    fun us rest fuel hrest => ?_, ⟨0x2d, l, rfl, by decide⟩, List.forall_mem_cons.2 ⟨rfl, h.printable⟩⟩
  have hminus : Expression.readToken (cursor us (0x2d :: (l ++ rest))) 0x2d (l ++ rest) =
      .ok (cursor (us ++ [plainToken .word "-" [0x2d]]) (l ++ rest)) := by
    rw [hd]
    exact readToken_minus hdigit us
  have hpass := h.lexesTo (us ++ [plainToken .word "-" [0x2d]]) rest fuel hrest
  rw [List.append_assoc] at hpass
  exact (lexFrom_token (by decide) _ hminus).trans hpass

end operand

/-- A text that is read as a literal is an operand of the grammar. -/
theorem exists_operand {v : Value} (inner : Formatted.Inner) (h : readLiteral t = some (v, rest)) (ht : IsUnicode t) :
    ∃ l ts n, t = l ++ rest ∧ IsOperandText inner l ts n v := by
  unfold readLiteral at h
  split at h
  · next body =>
    cases hread : readQuoted (body.length + 1) [] body with
    | none => simp [hread] at h
    | some found =>
      obtain ⟨u, behind⟩ := found
      simp only [hread, Option.some.injEq, Prod.mk.injEq] at h
      obtain ⟨rfl, rfl⟩ := h
      obtain ⟨s, u, rfl, hs, rfl⟩ := quotes_of_readQuoted hread
      have hu : IsUnicode u := hs.isUnicode fun c hc => ht c (by simp [hc])
      obtain ⟨ts, n, hoperand⟩ := hs.exists_isOperandText inner hu
      exact ⟨between s, ts, n, by simp [between], hoperand⟩
  · next t =>
    simp only [Option.bind_eq_bind, Option.bind_eq_some_iff, Option.pure_def, Option.some.injEq, Prod.mk.injEq] at h
    obtain ⟨⟨w, behind⟩, hread, v', hv, rfl, rfl⟩ := h
    obtain ⟨l, rfl, hl⟩ := numeral_of_readUnsigned hread
    obtain ⟨ts, n, hoperand⟩ := hl.exists_isOperandText_minus inner hv
    exact ⟨0x2d :: l, ts, n, rfl, hoperand⟩
  · obtain ⟨l, rfl, hl⟩ := numeral_of_readUnsigned h
    obtain ⟨ts, n, hoperand⟩ := hl.exists_isOperandText inner
    exact ⟨l, ts, n, rfl, hoperand⟩

theorem unifyEnds_eq {t : Text} (h : 13 ∉ t) (done : Text) : unifyEnds done t = done.reverse ++ t := by
  induction t generalizing done with
  | nil => simp [unifyEnds]
  | cons c t ih =>
    obtain ⟨hc, ht⟩ := List.ne_and_not_mem_of_not_mem_cons h
    rw [unifyEnds, ih ht]
    · simp
    · exact fun rest heq _ => hc heq.symm
    · exact fun heq => hc heq.symm

/-- The tokens of a text on one line are those that the lexer passes in it, and the end. -/
theorem lex_of_lexesTo {ts : List Token} (h : LexesTo t ts) (hopens : ∃ x s, t = x :: s ∧ Opens x)
    (hprint : ∀ c ∈ t, isUnprintable c = false) (hlength : ts.length ≤ 2 * t.length) :
    (lex 1 t).tokens = (ts ++ [plainToken .newline "" [], plainToken .finish "" []]).toArray := by
  have hother : ∀ {c : CodePoint}, isUnprintable c = true → c ∉ t := by
    intro c hc hmem
    rw [hprint c hmem] at hc
    cases hc
  obtain ⟨x, s, hx, hx'⟩ := hopens
  have hne : t ≠ [] := by simp [hx]
  have hend : withLastEnd t = t ++ [10] := by
    have hline : t.getLast hne ≠ 10 := fun heq => hother (c := 10) rfl (heq ▸ List.getLast_mem hne)
    rw [withLastEnd, List.getLast?_eq_some_getLast hne]
    simp
  have hlex : lex 1 t = lexFrom (2 * (t.length + 1) + 2) true (cursor [] (t ++ [10])) := by
    rw [lex, unifyEnds_eq (hother rfl)]
    simp only [List.reverse_nil, List.nil_append, hend, List.length_append, List.length_singleton]
    rfl
  obtain ⟨fuel, hfuel⟩ : ∃ fuel, 2 * (t.length + 1) + 2 = fuel + 3 + ts.length + 1 :=
    ⟨2 * t.length - ts.length, by omega⟩
  have hstart : lexFrom (fuel + 3 + ts.length + 1) true (cursor [] (t ++ [10])) =
      lexFrom (fuel + 3 + ts.length) false (cursor [] (t ++ [10])) := by
    rw [hx]
    exact lexFrom_start hx' _ [] _
  rw [hlex, hfuel, hstart, h [] [10] (fuel + 3) ⟨10, [], rfl, .inr rfl⟩, lexFrom_end]
  rfl

theorem of_readRelation {t rest : Text} {r : Relation} (h : readRelation t = some (r, rest)) :
    t = 0x20 :: ((r.symbol : Text) ++ 0x20 :: rest) := by
  unfold readRelation at h
  split at h
  all_goals
    cases h
    try rfl

/-- The sign of a relation is one token. -/
theorem lexesTo_relation (r : Relation) : LexesTo r.symbol [plainToken .word r.symbol r.symbol] := by
  cases r with
  | equal =>
    refine lexesTo_of_readToken (x := 0x3d) (s := [0x3d]) rfl (by decide) fun us rest _ => ?_
    rw [← cursor_push us .word _ _ ((Relation.equal.symbol : Text) ++ rest)]
    rfl
  | notEqual =>
    refine lexesTo_of_readToken (x := 0x21) (s := [0x3d]) rfl (by decide) fun us rest _ => ?_
    rw [← cursor_push us .word _ _ ((Relation.notEqual.symbol : Text) ++ rest)]
    rfl
  | less =>
    refine lexesTo_of_readToken (x := 0x3c) (s := []) rfl (by decide) fun us rest hrest => ?_
    obtain ⟨c, t, rfl, rfl | rfl⟩ := hrest <;> exact readToken_sign (by decide) rfl us
  | greater =>
    refine lexesTo_of_readToken (x := 0x3e) (s := []) rfl (by decide) fun us rest hrest => ?_
    obtain ⟨c, t, rfl, rfl | rfl⟩ := hrest <;> exact readToken_sign (by decide) rfl us

theorem Source.SpellsOperand.length {inner : Formatted.Inner} {ts : List Token} {n : Node} {v : Value}
    (h : SpellsOperand inner ts n v) : ts ≠ [] ∧ ts.length ≤ 2 := by
  cases h <;> simp

/-- The tokens of a text in the short form: two operands with a relation between them, and the end of the text. -/
theorem exists_tokens {a b : Value} {r : Relation} (inner : Formatted.Inner) (h : readDirect t = some (a, r, b))
    (ht : IsUnicode t) :
    ∃ left right n₁ n₂, SpellsOperand inner left n₁ a ∧ SpellsOperand inner right n₂ b ∧ (∀ c ∈ t, isUnprintable c = false) ∧
      (lex 1 t).tokens = (left ++ plainToken .word r.symbol r.symbol ::
        (right ++ [plainToken .newline "" [], plainToken .finish "" []])).toArray := by
  simp only [readDirect, Option.bind_eq_bind, Option.bind_eq_some_iff, Option.pure_def] at h
  obtain ⟨⟨a, rest₁⟩, h₁, ⟨r, rest₂⟩, hr, ⟨b, rest₃⟩, h₂, h⟩ := h
  obtain ⟨hend, heq⟩ := Option.ite_none_right_eq_some.1 h
  simp only [Option.some.injEq, Prod.mk.injEq] at heq
  obtain ⟨rfl, rfl, rfl⟩ := heq
  obtain rfl := List.isEmpty_iff.1 hend
  obtain ⟨l₁, left, n₁, rfl, hleft, hpass₁, ⟨x, s, hx, hopens⟩, hprint₁⟩ := exists_operand inner h₁ ht
  obtain rfl := of_readRelation hr
  obtain ⟨l₂, right, n₂, rfl, hright, hpass₂, ⟨y, u, hy, -⟩, hprint₂⟩ :=
    exists_operand inner h₂ fun c hc => ht c (by simp [hc])
  rw [List.append_nil]
  obtain ⟨hne₁, hle₁⟩ := hleft.length
  obtain ⟨hne₂, hle₂⟩ := hright.length
  have hprint : ∀ c ∈ l₁ ++ 0x20 :: ((r.symbol : Text) ++ 0x20 :: l₂), isUnprintable c = false := by
    have hsymbol : ∀ r : Relation, ∀ c ∈ (r.symbol : Text), isUnprintable c = false := by
      intro r
      cases r <;> decide
    intro c hc
    simp only [List.mem_append, List.mem_cons] at hc
    rcases hc with hc | rfl | hc | rfl | hc
    exacts [hprint₁ c hc, rfl, hsymbol r c hc, rfl, hprint₂ c hc]
  have hpass := hpass₁.append (((lexesTo_relation r).append (hpass₂.gap hne₂)).gap (by simp))
  have htokens := lex_of_lexesTo hpass ⟨x, s ++ _, by rw [hx]; rfl, hopens⟩ hprint ?_
  · exact ⟨left, right, n₁, n₂, hleft, hright, hprint, by simpa using htokens⟩
  · have hlength : 1 ≤ (r.symbol : Text).length := by cases r <;> decide
    simp only [List.length_append, List.length_cons, List.length_nil, hx, hy]
    omega

/-! ### The value -/

theorem negated_of_negate? {v w : Value} (h : negate? v = some w) :
    constant v = .ok v ∧ negated v = .ok w ∧ constant w = .ok w := by
  cases v with
  | int n =>
    cases h
    exact ⟨rfl, rfl, rfl⟩
  | float x =>
    cases h
    exact ⟨rfl, rfl, rfl⟩
  | _ => cases h

/-- An operand evaluates to its value, if that is not too long. -/
theorem Source.SpellsOperand.evaluateNode {inner : Formatted.Inner} {ts : List Token} {n : Node} {v : Value}
    (h : SpellsOperand inner ts n v) (source : Text) : evaluateNode source n = constant v := by
  cases h with
  | literal => rfl
  | negative _ _ _ hw =>
    obtain ⟨hv, hnegated, hw⟩ := negated_of_negate? hw
    rw [negativeNode, Expression.evaluateNode, literalNode, Expression.evaluateNode, hv, hw]
    exact hnegated

/-- A text in the short form is read by the grammar as one statement, whose expression has the same value. -/
theorem evaluateByGrammar_of_readDirect {a b : Value} {r : Relation} (source : Text)
    (h : readDirect t = some (a, r, b)) (ht : IsUnicode t) :
    evaluateByGrammar source t = compareLiterals a r b := by
  obtain ⟨left, right, n₁, n₂, h₁, h₂, hprint, htokens⟩ := exists_tokens (readInner (t.length + 1)) h ht
  obtain ⟨line, hread⟩ := read_comparison (s := ⟨lex 1 t, "", readInner (t.length + 1)⟩) h₁ h₂ rfl rfl rfl rfl rfl htokens
  have htext : readText t = .ok (Node.row [statementNode line (chainNode line r n₁ n₂)]) := hread
  have hspread : (Node.row [statementNode line (chainNode line r n₁ n₂)]).spread =
      [statementNode line (chainNode line r n₁ n₂)] := rfl
  rw [evaluateByGrammar, unreadable?_eq_none hprint, htext]
  simp only [hspread]
  show Expression.evaluateNode source (chainNode line r n₁ n₂) = _
  rw [chainNode, Expression.evaluateNode, h₁.evaluateNode source, compareLiterals]
  refine congrArg (constant a >>= ·) (funext fun v => ?_)
  rw [evaluateChain, h₂.evaluateNode source]
  cases constant b with
  | error f => rfl
  | ok w =>
    show ((r.holds v w >>= fun holds => if holds then evaluateChain source w [] [] else return false) >>=
      fun holds => return Value.bool holds) = (r.holds v w >>= fun holds => return Value.bool holds)
    cases r.holds v w with
    | error f => rfl
    | ok holds => cases holds <;> simp [evaluateChain]

/-- The short form only makes evaluation short: the grammar gives every text its value. -/
theorem evaluate_eq_evaluateByGrammar {source : Text} (h : IsUnicode source) :
    evaluate source = evaluateByGrammar source (strip source) := by
  have hstrip : IsUnicode (strip source) := by
    intro c hc
    have hc := List.mem_reverse.1 (List.dropWhile_subset _ (List.mem_reverse.1 hc))
    exact h c (List.dropWhile_subset _ hc)
  simp only [evaluate]
  split
  · next heq => exact (evaluateByGrammar_of_readDirect source heq hstrip).symm
  · rfl

end Rulebook.Expression
