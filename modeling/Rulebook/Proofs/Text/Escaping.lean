import Rulebook.Expression.Lexer
import Rulebook.Proofs.Pattern.Class
import Rulebook.Text.Quoted
import Mathlib.Algebra.Ring.Parity
import Mathlib.Data.List.Induction

/-!
# Escaped texts

`esc` puts a backslash before backslashes and double quotes and then, in a second pass over the result, before each further
character. Both passes treat each code point by itself, so an escaped text is the pieces of its code points one after the
other, and no piece leaves a backslash open at its end. What holds of every piece therefore holds of the text: which quotes
stay escaped, and that one level of backslashes can be taken off again. The second pass meets the backslashes of the first
one, so a backslash or a quote among the further characters changes what a quote is written as.
-/

namespace Rulebook.Text

/-! ### Pieces -/

/-- A code point behind a backslash if it is among the further characters. -/
def marked (metas : Text) (c : CodePoint) : Text := if c ∈ metas then [0x5c, c] else [c]

/-- What an escaped text holds for one code point. -/
def piece (metas : Text) (c : CodePoint) : Text :=
  if c = 0x5c ∨ c = 0x22 then marked metas 0x5c ++ marked metas c else marked metas c

theorem escapeWhere_mem (metas t : Text) : escapeWhere (fun c => metas.contains c) t = t.flatMap (marked metas) := by
  have hmarked : (fun c => if metas.contains c = true then [cp '\\', c] else [c]) = marked metas := by
    funext c
    simp [marked, cp]
  rw [escapeWhere, hmarked]

theorem esc_eq_flatMap (t metas : Text) : esc t metas = t.flatMap (piece metas) := by
  -- the second pass over what the first one has made of a code point
  have hquoted : ∀ c : CodePoint,
      (if c == cp '\\' || c == cp '"' then [cp '\\', c] else [c]).flatMap (marked metas) = piece metas c := by
    intro c
    by_cases h : c = 0x5c ∨ c = 0x22
    · have hpair : (c == cp '\\' || c == cp '"') = true := by simpa [cp] using h
      rw [if_pos hpair, piece, if_pos h]
      simp [cp]
    · have hpair : (c == cp '\\' || c == cp '"') = false := by simpa [cp] using h
      rw [hpair, piece, if_neg h]
      simp
  have hesc : esc t metas = (escapeWhere (fun c => c == cp '\\' || c == cp '"') t).flatMap (marked metas) := by
    cases metas with
    | nil =>
      have hnone : marked [] = fun c => [c] := by
        funext c
        simp [marked]
      rw [hnone, List.flatMap_singleton']
      rfl
    | cons m metas =>
      rw [← escapeWhere_mem]
      rfl
  rw [hesc, escapeWhere, List.flatMap_assoc]
  exact congrArg (List.flatMap · t) (funext hquoted)

/-! ### Backslashes from left to right -/

/-- Whether a code point is escaped, from whether the one before it is: behind a backslash that is none itself. -/
def escapesNext (escaped : Bool) (c : CodePoint) : Bool := !escaped && c == 0x5c

/-- The length of the run of backslashes at the end of a text. -/
def backslashesAtEnd (t : Text) : Nat := (t.reverse.takeWhile (· == 0x5c)).length

/-- What stands behind a text is escaped if the text ends in an odd number of backslashes. -/
theorem foldl_escapesNext_eq_true_iff (t : Text) : t.foldl escapesNext false = true ↔ Odd (backslashesAtEnd t) := by
  induction t using List.reverseRecOn with
  | nil => simp [backslashesAtEnd]
  | append_singleton t c ih =>
    rw [List.foldl_append, backslashesAtEnd, List.reverse_append]
    by_cases hc : c = 0x5c
    · have hrun : (t.reverse.takeWhile (· == 0x5c)).length = backslashesAtEnd t := rfl
      simp [escapesNext, hc, hrun, Nat.odd_add_one, ← ih]
    · simp [escapesNext, hc]

/-- Each double quote stands behind a run of backslashes of odd length. -/
def QuotesEscaped (t : Text) : Prop := ∀ before after, t = before ++ 0x22 :: after → Odd (backslashesAtEnd before)

/-- Each double quote is escaped, where the first code point is as given. -/
def QuotesEscapedFrom (escaped : Bool) (t : Text) : Prop :=
  ∀ before after, t = before ++ 0x22 :: after → before.foldl escapesNext escaped = true

theorem quotesEscaped_iff {t : Text} : QuotesEscaped t ↔ QuotesEscapedFrom false t := by
  simp only [QuotesEscaped, QuotesEscapedFrom, foldl_escapesNext_eq_true_iff]

section Scan

variable {escaped : Bool} {s t : Text} {c : CodePoint}

theorem quotesEscapedFrom_nil : QuotesEscapedFrom escaped [] := by
  intro before after h
  simp at h

theorem quotesEscapedFrom_of_notMem (h : 0x22 ∉ t) : QuotesEscapedFrom escaped t := by
  rintro before after rfl
  simp at h

theorem quotesEscapedFrom_cons :
    QuotesEscapedFrom escaped (c :: t) ↔ (c = 0x22 → escaped = true) ∧ QuotesEscapedFrom (escapesNext escaped c) t := by
  constructor
  · intro h
    refine ⟨?_, fun before after ht => h (c :: before) after (by rw [ht]; rfl)⟩
    rintro rfl
    exact h [] t rfl
  · rintro ⟨hc, ht⟩ before after h
    cases before with
    | nil => exact hc (List.cons.inj h).1
    | cons d before =>
      obtain ⟨rfl, rfl⟩ := List.cons.inj h
      exact ht before after rfl

theorem quotesEscapedFrom_append :
    QuotesEscapedFrom escaped (s ++ t) ↔ QuotesEscapedFrom escaped s ∧ QuotesEscapedFrom (s.foldl escapesNext escaped) t := by
  induction s generalizing escaped with
  | nil => simp [quotesEscapedFrom_nil]
  | cons c s ih => rw [List.cons_append, quotesEscapedFrom_cons, quotesEscapedFrom_cons, ih, List.foldl_cons, and_assoc]

end Scan

/-! ### Quotes in escaped texts -/

section Quotes

variable {metas t : Text} {c : CodePoint}

theorem piece_of_ne (hb : c ≠ 0x5c) (hq : c ≠ 0x22) : piece metas c = marked metas c := by
  rw [piece, if_neg (not_or.2 ⟨hb, hq⟩)]

theorem foldl_escapesNext_piece (metas : Text) (c : CodePoint) : (piece metas c).foldl escapesNext false = false := by
  by_cases hb : c = 0x5c
  · by_cases hmeta : 0x5c ∈ metas <;> simp [piece, marked, hb, hmeta, escapesNext]
  by_cases hq : c = 0x22
  · by_cases hmeta : 0x5c ∈ metas <;> by_cases hmeta' : 0x22 ∈ metas <;>
      simp [piece, marked, hq, hmeta, hmeta', escapesNext]
  rw [piece_of_ne hb hq]
  by_cases hmeta : c ∈ metas <;> simp [marked, hmeta, escapesNext, hb]

theorem mem_piece {d : CodePoint} (h : d ∈ piece metas c) : d = 0x5c ∨ d = c := by
  have hmarked : ∀ e, d ∈ marked metas e → d = 0x5c ∨ d = e := by
    intro e he
    by_cases hmeta : e ∈ metas
    · simpa [marked, hmeta] using he
    · exact .inr (by simpa [marked, hmeta] using he)
  unfold piece at h
  split at h
  · rcases List.mem_append.1 h with h | h
    · exact .inl ((hmarked _ h).elim id id)
    · exact hmarked c h
  · exact hmarked c h

theorem quotesEscapedFrom_piece :
    QuotesEscapedFrom false (piece metas c) ↔ (c = 0x22 → (0x5c ∈ metas ↔ 0x22 ∈ metas)) := by
  by_cases hq : c = 0x22
  -- a quote comes behind one, two or three backslashes, and behind two if the second pass marks just one of both
  · by_cases hmeta : 0x5c ∈ metas <;> by_cases hmeta' : 0x22 ∈ metas <;>
      simp [piece, marked, hq, hmeta, hmeta', quotesEscapedFrom_cons, quotesEscapedFrom_nil, escapesNext]
  have hnone : 0x22 ∉ piece metas c := by
    intro hmem
    rcases mem_piece hmem with h | h
    · cases h
    · exact hq h.symm
  exact iff_of_true (quotesEscapedFrom_of_notMem hnone) fun h => absurd h hq

theorem quotesEscaped_esc_iff : QuotesEscaped (esc t metas) ↔ (0x22 ∈ t → (0x5c ∈ metas ↔ 0x22 ∈ metas)) := by
  rw [quotesEscaped_iff, esc_eq_flatMap]
  induction t with
  | nil => simp [quotesEscapedFrom_nil]
  | cons c t ih =>
    rw [List.flatMap_cons, quotesEscapedFrom_append, quotesEscapedFrom_piece, foldl_escapesNext_piece, ih, List.mem_cons,
      or_imp, eq_comm]

/-- Between quotes a text that escapes its own and leaves no backslash open ends at the closing one. -/
theorem skipQuoted_of_quotesEscapedFrom {u : Text} (hquotes : QuotesEscapedFrom false u)
    (hend : u.foldl escapesNext false = false) {fuel lines n : Nat} {rest after : Text}
    (h : Expression.skipQuoted 0x22 false fuel lines (u ++ 0x22 :: rest) = .ok (n, after)) : after = rest := by
  induction fuel generalizing u lines with
  | zero => cases h
  | succ fuel ih =>
    cases u with
    | nil =>
      cases h
      rfl
    | cons c u =>
      obtain ⟨hc, hu⟩ := quotesEscapedFrom_cons.1 hquotes
      have hquote : c ≠ 0x22 := fun heq => Bool.false_ne_true (hc heq)
      unfold Expression.skipQuoted at h
      simp only [List.cons_append, if_neg hquote] at h
      split at h
      · cases h
      split at h
      · next hback =>
        -- the code point behind a backslash is passed with it
        subst hback
        cases u with
        | nil => cases hend
        | cons d u => exact ih (quotesEscapedFrom_cons.1 hu).2 hend h
      · next hback =>
        have hplain : escapesNext false c = false := by simpa [escapesNext] using hback
        rw [hplain] at hu
        rw [List.foldl_cons, hplain] at hend
        exact ih hu hend h

/-- The quotes of an escaped text are escaped unless it has some and just one of the backslash and the quote is among the
further characters. Where they are, the escaped text between quotes is a literal that ends nowhere but at the closing one. -/
theorem esc_escapes_quotes (t metas : Text) :
    (QuotesEscaped (esc t metas) ↔ (cp '"' ∈ t → (cp '\\' ∈ metas ↔ cp '"' ∈ metas))) ∧
      ∀ fuel lines rest n after, QuotesEscaped (esc t metas) →
        Expression.skipQuoted (cp '"') false fuel lines (esc t metas ++ cp '"' :: rest) = .ok (n, after) →
          after = rest := by
  have hend : (esc t metas).foldl escapesNext false = false := by
    rw [esc_eq_flatMap]
    induction t with
    | nil => rfl
    | cons c t ih => rw [List.flatMap_cons, List.foldl_append, foldl_escapesNext_piece, ih]
  refine ⟨quotesEscaped_esc_iff, fun fuel lines rest n after hquotes h => ?_⟩
  exact skipQuoted_of_quotesEscapedFrom (quotesEscaped_iff.1 hquotes) hend h

/-- With a bracket to escape a text with a quote, a bracket and a backslash is a literal, and the comparison behind it is what
is read next. -/
theorem esc_escapes_quotes_bracket :
    QuotesEscaped (esc "\"]\\" "]") ∧
      ∃ n after, Expression.skipQuoted (cp '"') false 20 0 (esc "\"]\\" "]" ++ cp '"' :: " == \"\"") = .ok (n, after) ∧
        after = " == \"\"" := by
  have hquotes : QuotesEscaped (esc "\"]\\" "]") := (esc_escapes_quotes _ _).1.2 fun _ => by decide
  have hread : Expression.skipQuoted (cp '"') false 20 0 (esc "\"]\\" "]" ++ cp '"' :: " == \"\"") =
      .ok (0, " == \"\"") := by decide
  exact ⟨hquotes, 0, _, hread, (esc_escapes_quotes _ _).2 20 0 _ 0 _ hquotes hread⟩

/-- A quote that is asked for twice is not escaped: its backslash is, and the literal ends before the closing quote. -/
theorem esc_quote_unescaped :
    esc "\"" "\"" = "\\\\\"" ∧ ¬QuotesEscaped (esc "\"" "\"") ∧
      Expression.skipQuoted (cp '"') false 4 0 (esc "\"" "\"" ++ "\"") = .ok (0, "\"") := by
  refine ⟨by decide, ?_, by decide⟩
  rw [quotesEscaped_esc_iff]
  decide

end Quotes

/-! ### Taking the backslashes off -/

/-- The text without one level of backslashes: each is dropped and the code point behind it kept. There is none if a backslash
has nothing behind it. -/
def unescape? : Text → Option Text
  | [] => some []
  | c :: rest =>
    if c = cp '\\' then
      match rest with
      | [] => none
      | d :: more => (unescape? more).map (d :: ·)
    else (unescape? rest).map (c :: ·)

section Unescape

variable {metas : Text}

theorem piece_eq (hbackslash : 0x5c ∉ metas) (hquote : 0x22 ∉ metas) (c : CodePoint) :
    piece metas c = if c = 0x5c ∨ c = 0x22 ∨ c ∈ metas then [0x5c, c] else [c] := by
  by_cases hb : c = 0x5c
  · simp [piece, marked, hb, hbackslash]
  by_cases hq : c = 0x22
  · simp [piece, marked, hq, hbackslash, hquote]
  rw [piece_of_ne hb hq, marked]
  simp [hb, hq]

theorem unescape?_piece (hbackslash : 0x5c ∉ metas) (hquote : 0x22 ∉ metas) (c : CodePoint) (rest : Text) :
    unescape? (piece metas c ++ rest) = (unescape? rest).map (c :: ·) := by
  rw [piece_eq hbackslash hquote]
  split
  · rfl
  · next h =>
    have hb : c ≠ cp '\\' := fun hc => h (.inl hc)
    rw [List.singleton_append, unescape?.eq_def]
    exact if_neg hb

theorem unescape?_esc (hbackslash : 0x5c ∉ metas) (hquote : 0x22 ∉ metas) (t : Text) :
    unescape? (esc t metas) = some t := by
  rw [esc_eq_flatMap]
  induction t with
  | nil => rfl
  | cons c t ih => rw [List.flatMap_cons, unescape?_piece hbackslash hquote, ih, Option.map_some]

/-- With further characters that are neither a backslash nor a quote, each code point that is to be escaped gets one backslash
and no other does, and taking the backslashes off gives the text back. The further characters are meant as they are, also
where a pattern has another meaning for them: as a class they match themselves and nothing else. -/
theorem esc_undone (hbackslash : cp '\\' ∉ metas) (hquote : cp '"' ∉ metas) :
    (∀ t, esc t metas = t.flatMap fun c => if c = cp '\\' ∨ c = cp '"' ∨ c ∈ metas then [cp '\\', c] else [c]) ∧
      (∀ t, unescape? (esc t metas) = some t) ∧ Function.Injective (fun t => esc t metas) ∧
        (metas ≠ [] → ∃ program, Pattern.compile (Pattern.classOf metas) = .ok program ∧
          ∀ s i, program.matchesAt s i = true ↔ ∃ c ∈ metas, s[i]? = some c) := by
  refine ⟨fun t => ?_, unescape?_esc hbackslash hquote, fun t u h => ?_, Pattern.compile_classOf⟩
  · rw [esc_eq_flatMap]
    exact congrArg (List.flatMap · t) (funext (piece_eq hbackslash hquote))
  · have hundone : some t = some u := by
      rw [← unescape?_esc hbackslash hquote t, ← unescape?_esc hbackslash hquote u]
      exact congrArg unescape? h
    exact Option.some.inj hundone

/-- Characters that negate, close and open a class or stand for a range, and a text that holds them. -/
theorem esc_undone_brackets :
    cp '\\' ∉ ("^]-[" : Text) ∧ cp '"' ∉ ("^]-[" : Text) ∧
      unescape? (esc "a-\"]\\" "^]-[") = some "a-\"]\\" ∧
        ∃ program, Pattern.compile (Pattern.classOf "^]-[") = .ok program ∧
          program.matchesAt #[cp 'a', cp '-'] 1 = true := by
  have hbackslash : cp '\\' ∉ ("^]-[" : Text) := by decide
  have hquote : cp '"' ∉ ("^]-[" : Text) := by decide
  obtain ⟨-, hundone, -, hclass⟩ := esc_undone hbackslash hquote
  obtain ⟨program, hprogram, hmatches⟩ := hclass (by decide)
  exact ⟨hbackslash, hquote, hundone _, program, hprogram, (hmatches _ _).2 ⟨cp '-', by decide, rfl⟩⟩

end Unescape

end Rulebook.Text
