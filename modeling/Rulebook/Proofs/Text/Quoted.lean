import Rulebook.Expression.Direct

/-!
# Quoted literals read back

`quote` writes each code point by itself, as one of three forms: as it is, behind a backslash, or as an escape
by its number. The reader takes exactly one form at each step, so a quoted text reads back as itself whatever
stands behind it.
-/

namespace Rulebook.Text

/-- The form of one code point in a quoted literal. -/
def written (c : CodePoint) : Text :=
  if c = 0x5c ∨ c = 0x22 then [0x5c, c] else if isUnprintable c then numericEscape c else [c]

theorem flatMap_escaped (c : CodePoint) :
    (if c == cp '\\' || c == cp '"' then [cp '\\', c] else [c]).flatMap
      (fun c => if isUnprintable c then numericEscape c else [c]) = written c := by
  have hb : isUnprintable 0x5c = false := by decide
  have hq : isUnprintable 0x22 = false := by decide
  unfold written
  by_cases h : c = 0x5c
  · simp [h, hb, cp]
  by_cases h' : c = 0x22
  · simp [h', hb, hq, cp]
  · simp [h, h', cp]

theorem quote_eq (t : Text) : quote t = 0x22 :: t.flatMap written ++ [0x22] := by
  have h : (esc t []).flatMap (fun c => if isUnprintable c then numericEscape c else [c]) = t.flatMap written := by
    simp only [esc, escapeWhere, List.isEmpty_nil, ↓reduceIte, List.flatMap_assoc, flatMap_escaped]
  rw [quote, h]
  rfl

theorem hexValue?_hexDigit : ∀ d < 16, hexValue? (hexDigit d) = some d := by decide

theorem hexPair?_hexDigit {a b : Nat} (ha : a < 16) (hb : b < 16) (rest : Text) :
    Expression.hexPair? (hexDigit a :: hexDigit b :: rest) = some (a * 16 + b, rest) := by
  simp [Expression.hexPair?, hexValue?_hexDigit a ha, hexValue?_hexDigit b hb]

theorem hex_two (n : Nat) : hex 2 n = [hexDigit (n / 16 % 16), hexDigit (n % 16)] := by
  simp [hex, List.range_succ]

theorem hex_four (n : Nat) :
    hex 4 n = [hexDigit (n / 4096 % 16), hexDigit (n / 256 % 16), hexDigit (n / 16 % 16), hexDigit (n % 16)] := by
  simp [hex, List.range_succ]

/-- What has no form of its own is below the reach of four hexadecimal digits. -/
theorem lt_of_isUnprintable {n : Nat} (h : isUnprintable n = true) : n < 0x10000 := by
  simp only [isUnprintable, isSurrogate, Bool.or_eq_true, Bool.and_eq_true, decide_eq_true_eq, beq_iff_eq] at h
  rcases h with (h | h) | h
  · exact Nat.lt_of_le_of_lt h (by decide)
  · rw [h]; decide
  · exact Nat.lt_of_le_of_lt h.2 (by decide)

end Rulebook.Text

namespace Rulebook.Expression
open Text

/-- An escape by number is one step of the reader. -/
theorem readQuoted_numericEscape {n : Nat} (h : isUnprintable n = true) (fuel : Nat) (done rest : Text) :
    readQuoted (fuel + 1) done (numericEscape n ++ rest) = readQuoted fuel (n :: done) rest := by
  have hlt := lt_of_isUnprintable h
  unfold numericEscape
  by_cases hs : n ≤ 0xff
  · have hn : n / 16 % 16 * 16 + n % 16 = n := by omega
    rw [if_pos hs, hex_two]
    simp [readQuoted, hexPair?_hexDigit, Nat.mod_lt, hn, cp]
  · have hn : (n / 4096 % 16 * 16 + n / 256 % 16) * 256 + (n / 16 % 16 * 16 + n % 16) = n := by omega
    rw [if_neg hs, hex_four]
    simp [readQuoted, hexPair?_hexDigit, Nat.mod_lt, hn, cp]

/-- The form of each code point is one step of the reader. -/
theorem readQuoted_written (c : CodePoint) (fuel : Nat) (done rest : Text) :
    readQuoted (fuel + 1) done (written c ++ rest) = readQuoted fuel (c :: done) rest := by
  unfold written
  by_cases hb : c = 0x5c
  · simp [hb, readQuoted]
  by_cases hq : c = 0x22
  · simp [hq, readQuoted]
  rw [if_neg (by simp [hb, hq])]
  by_cases hu : isUnprintable c = true
  · rw [if_pos hu]
    exact readQuoted_numericEscape hu fuel done rest
  · simp [hb, hq, hu, readQuoted]

/-- A quoted text reads back as itself, whatever stands behind it. -/
theorem readQuoted_flatMap_written (t : Text) (rest done : Text) (fuel : Nat) (h : t.length < fuel) :
    readQuoted fuel done (t.flatMap written ++ 0x22 :: rest) = some (done.reverse ++ t, rest) := by
  induction t generalizing done fuel with
  | nil =>
    obtain ⟨n, rfl⟩ := Nat.exists_eq_succ_of_ne_zero (Nat.ne_of_gt h)
    simp [readQuoted]
  | cons c t ih =>
    obtain ⟨n, rfl⟩ := Nat.exists_eq_succ_of_ne_zero (Nat.ne_of_gt (Nat.zero_lt_of_lt h))
    rw [List.flatMap_cons, List.append_assoc, readQuoted_written, ih _ _ (by simpa using h)]
    simp

theorem length_le_length_flatMap_written (t : Text) : t.length ≤ (t.flatMap written).length := by
  induction t with
  | nil => simp
  | cons c t ih =>
    have hc : 1 ≤ (written c).length := by
      unfold written numericEscape
      repeat' split
      all_goals simp
    simp only [List.length_cons, List.flatMap_cons, List.length_append]
    omega

/-- A quoted text is one literal that denotes the text. -/
theorem readLiteral_quote (t rest : Text) : readLiteral (quote t ++ rest) = some (.text t, rest) := by
  have hlen := length_le_length_flatMap_written t
  have hread := readQuoted_flatMap_written t rest [] ((t.flatMap written ++ 0x22 :: rest).length + 1)
    (by simp only [List.length_append]; omega)
  rw [quote_eq]
  simp only [List.cons_append, List.append_assoc, List.nil_append] at hread ⊢
  simp only [readLiteral, hread, List.reverse_nil, List.nil_append]

end Rulebook.Expression
