import Rulebook.Proofs.Text.Run
import Rulebook.Template.Lexer
import Rulebook.Template.Placeholder

/-!
# Placeholders of names

A plain name is an identifier in ASCII that is none of the words with a meaning of their own. Names with dots between them
stand for a path. A reference to such a path becomes a placeholder, and the placeholder becomes the tokens of its names and
dots between two marks, whatever stands behind it.
-/

namespace Rulebook.Template
open Text

/-- May stand in a plain name. -/
def isNameSign (c : CodePoint) : Bool := isAsciiLetter c || isAsciiDigit c || c == 0x5f

/-- May start a plain name. -/
def isNameStart (c : CodePoint) : Bool := isAsciiLetter c || c == 0x5f

/-- The words that stand for constants, for a negation and for the template. -/
def reservedWords : List Text := ["true", "false", "none", "True", "False", "None", "not", "self"]

/-- An identifier in ASCII. -/
structure AsciiName (n : Text) : Prop where
  start : ∃ c s, n = c :: s ∧ isNameStart c = true
  sign : ∀ c ∈ n, isNameSign c = true

/-- An identifier in ASCII that is no reserved word. -/
structure PlainName (n : Text) : Prop extends AsciiName n where
  free : n ∉ reservedWords

theorem lt_of_isNameSign {c : CodePoint} (h : isNameSign c = true) : c < 128 := by
  simp only [isNameSign, isAsciiLetter, isAsciiDigit, Bool.or_eq_true, Bool.and_eq_true, decide_eq_true_eq,
    beq_iff_eq] at h
  rcases h with ((h | h) | h) | h
  · exact Nat.lt_of_le_of_lt h.2 (by decide)
  · exact Nat.lt_of_le_of_lt h.2 (by decide)
  · exact Nat.lt_of_le_of_lt h.2 (by decide)
  · rw [h]; decide

/-- In ASCII the tables have no other signs than those of names. -/
theorem tables_of_lt : ∀ c < 128, isNamePart c = isNameSign c ∧ isIdentifierPart c = isNameSign c ∧
    isIdentifierStart c = isNameStart c ∧ (isNameSign c = true → isSpace c = false) ∧
    (isNameStart c = true → isDigit c = false) := by
  decide +kernel

/-- What the tables say of the signs of names. -/
theorem tables_of_isNameSign : ∀ c < 128, isNameSign c = true →
    isNamePart c = true ∧ isIdentifierPart c = true ∧ isSpace c = false ∧ c ≠ 10 := by
  intro c hlt hsign
  obtain ⟨hname, hpart, -, hspace, -⟩ := tables_of_lt c hlt
  refine ⟨hname.trans hsign, hpart.trans hsign, hspace hsign, ?_⟩
  rintro rfl
  exact absurd hsign (by decide)

/-- No sign of a name closes a placeholder. -/
theorem ne_of_isNameSign {c : CodePoint} (h : isNameSign c = true) : c ≠ 0x2d ∧ c ≠ 0x7d := by
  constructor <;> rintro rfl <;> revert h <;> decide

theorem isNamePart_space : isNamePart 0x20 = false := (tables_of_lt 0x20 (by decide)).1.trans (by decide)

theorem isNamePart_dot : isNamePart 0x2e = false := (tables_of_lt 0x2e (by decide)).1.trans (by decide)

theorem isNameSign_of_isNameStart {c : CodePoint} (h : isNameStart c = true) : isNameSign c = true := by
  simp only [isNameStart, isNameSign, Bool.or_eq_true] at *
  rcases h with h | h
  · exact .inl (.inl h)
  · exact .inr h

/-- What the tables say of the first sign of a name. -/
theorem tables_of_isNameStart : ∀ c < 128, isNameStart c = true →
    isIdentifierStart c = true ∧ isDigit c = false ∧ isNameSign c = true ∧ ¬(0x30 ≤ c ∧ c ≤ 0x39) := by
  intro c hlt hstart
  obtain ⟨-, -, hidentifier, -, hdigit⟩ := tables_of_lt c hlt
  refine ⟨hidentifier.trans hstart, hdigit hstart, isNameSign_of_isNameStart hstart, fun hrange => ?_⟩
  simp only [isNameStart, isAsciiLetter, Bool.or_eq_true, Bool.and_eq_true, decide_eq_true_eq, beq_iff_eq] at hstart
  rcases hstart with (h | h) | rfl
  · exact absurd (Nat.le_trans h.1 hrange.2) (by decide)
  · exact absurd (Nat.le_trans h.1 hrange.2) (by decide)
  · exact absurd hrange.2 (by decide)

/-- A text without line feeds has none to count. -/
theorem countLines_eq_zero {t : Text} (h : 10 ∉ t) : countLines t = 0 := by
  unfold countLines
  induction t with
  | nil => rfl
  | cons c t ih =>
    rw [List.mem_cons, not_or] at h
    rw [List.foldl_cons, if_neg (Ne.symm h.1)]
    exact ih h.2

namespace AsciiName
variable {n : Text}

theorem ne_nil (h : AsciiName n) : n ≠ [] := by
  obtain ⟨c, s, rfl, -⟩ := h.start
  exact List.cons_ne_nil c s

theorem not_isSpace (h : AsciiName n) : ∀ c ∈ n, isSpace c = false := fun c hc =>
  (tables_of_isNameSign c (lt_of_isNameSign (h.sign c hc)) (h.sign c hc)).2.2.1

theorem isNamePart (h : AsciiName n) : ∀ c ∈ n, isNamePart c = true := fun c hc =>
  (tables_of_isNameSign c (lt_of_isNameSign (h.sign c hc)) (h.sign c hc)).1

theorem isIdentifier (h : AsciiName n) : isIdentifier n = true := by
  obtain ⟨c, s, rfl, hc⟩ := h.start
  have hstart := (tables_of_isNameStart c (lt_of_isNameSign (isNameSign_of_isNameStart hc)) hc).1
  simp only [Text.isIdentifier, hstart, Bool.true_and, List.all_eq_true]
  intro d hd
  have hsign := h.sign d (List.mem_cons_of_mem c hd)
  exact (tables_of_isNameSign d (lt_of_isNameSign hsign) hsign).2.1

theorem countLines (h : AsciiName n) : countLines n = 0 := by
  refine countLines_eq_zero fun hline => ?_
  have htable := tables_of_isNameSign 10 (lt_of_isNameSign (h.sign 10 hline)) (h.sign 10 hline)
  exact htable.2.2.2 rfl

end AsciiName

theorem plainName_x : PlainName "x" := ⟨⟨⟨0x78, [], by decide⟩, by decide⟩, by decide⟩

theorem plainName_y : PlainName "y" := ⟨⟨⟨0x79, [], by decide⟩, by decide⟩, by decide⟩

/-- A name, and further names behind it, each with a dot before it. -/
def dotted (n : Text) (ns : List Text) : Text := n ++ ns.flatMap fun m => 0x2e :: m

/-- The tokens of further names behind a name. -/
def dotTokens (line : Nat) (ns : List Text) : List Placed := ns.flatMap fun m => [⟨.symbol .dot, line⟩, ⟨.name m, line⟩]

@[simp] theorem dotted_nil (n : Text) : dotted n [] = n := List.append_nil n

theorem dotted_cons (n m : Text) (ns : List Text) : dotted n (m :: ns) = n ++ 0x2e :: dotted m ns := rfl

@[simp] theorem dotTokens_nil (line : Nat) : dotTokens line [] = [] := rfl

theorem dotTokens_cons (line : Nat) (m : Text) (ns : List Text) :
    dotTokens line (m :: ns) = ⟨.symbol .dot, line⟩ :: ⟨.name m, line⟩ :: dotTokens line ns := rfl

theorem length_dotTokens (line : Nat) (ns : List Text) : (dotTokens line ns).length = 2 * ns.length := by
  induction ns with
  | nil => rfl
  | cons m ns ih => rw [dotTokens_cons, List.length_cons, List.length_cons, ih, List.length_cons, Nat.mul_succ]

end Rulebook.Template

namespace Rulebook
open Template

theorem placeholder_eq (n : Text) : placeholder n = 0x7b :: 0x7b :: 0x20 :: (n ++ [0x20, 0x7d, 0x7d]) := by
  have hopen : ("\x7b\x7b " : Text) = [0x7b, 0x7b, 0x20] := by decide
  have hclose : (" \x7d\x7d" : Text) = [0x20, 0x7d, 0x7d] := by decide
  rw [placeholder, hopen, hclose]
  simp

namespace Template

theorem pass_append (s : LexState) (passed rest : Text) :
    s.pass (passed ++ rest) rest =
      { s with
        place := s.place + passed.length
        line := s.line + countLines passed
        before := passed.getLast?.getD s.before } := by
  simp [LexState.pass]

/-- Marked digits end at once where no digit stands. -/
theorem spanMarked_nil {p : CodePoint → Bool} {c : CodePoint} (h : p c = false) (rest : Text) :
    spanMarked p [] (c :: rest) = ([], c :: rest) := by
  rw [spanMarked.eq_def]
  simp [h]

theorem readFloat?_eq_none {c : CodePoint} (h : Text.isDigit c = false) (rest : Text) :
    readFloat? (c :: rest) = none := by
  simp [readFloat?, spanMarked_nil h]

theorem readWhole?_eq_none {c : CodePoint} (h : ¬(0x30 ≤ c ∧ c ≤ 0x39)) (rest : Text) :
    readWhole? (c :: rest) = none := by
  have hzero : c ≠ 0x30 := by rintro rfl; exact h (by decide)
  have hone : ¬(0x31 ≤ c ∧ c ≤ 0x39) := fun hc => h ⟨Nat.le_of_succ_le hc.1, hc.2⟩
  simp [readWhole?, hzero, hone]

/-- A name up to a sign that is no part of one is a token. -/
theorem readLexeme_name {n : Text} (hn : AsciiName n) {d : CodePoint} (hd : isNamePart d = false) (before : CodePoint)
    (rest : Text) : readLexeme before (n ++ d :: rest) = some (.token (.name n) (d :: rest)) := by
  obtain ⟨hword, hrest⟩ := Text.takeWhile_dropWhile_append (d :: rest) (fun c hc => hn.isNamePart c hc) (by simpa using hd)
  obtain ⟨c, s, hcs, hc⟩ := hn.start
  have htable := tables_of_isNameStart c (lt_of_isNameSign (isNameSign_of_isNameStart hc)) hc
  have hfloat : readFloat? (n ++ d :: rest) = none := by
    rw [hcs]; exact readFloat?_eq_none htable.2.1 _
  have hwhole : readWhole? (n ++ d :: rest) = none := by
    rw [hcs]; exact readWhole?_eq_none htable.2.2.2 _
  simp only [readLexeme, hfloat, ite_self, hwhole, hword, hrest, hn.isIdentifier]
  simp [hn.ne_nil]

/-- A text that a template holds as it is, on one line. -/
def Verbatim (d : Text) : Prop := ∀ c ∈ d, c ≠ 0x7b ∧ c ≠ 10 ∧ c ≠ 13

theorem Verbatim.countLines {d : Text} (h : Verbatim d) : countLines d = 0 :=
  countLines_eq_zero fun hline => (h 10 hline).2.1 rfl

theorem opening?_eq_none {c : CodePoint} (h : c ≠ 0x7b) (rest : Text) : opening? (c :: rest) = none := by
  simp [opening?, h]

/-- What a template holds as it is opens nothing. -/
theorem Verbatim.splitOpening {d : Text} (h : Verbatim d) (done rest : Text) :
    splitOpening done (d ++ rest) = splitOpening (d.reverse ++ done) rest := by
  induction d generalizing done with
  | nil => rfl
  | cons c d ih =>
    obtain ⟨hc, hd⟩ := List.forall_mem_cons.1 h
    simp only [List.cons_append, Template.splitOpening, opening?_eq_none hc.1, ih hd, List.reverse_cons,
      List.append_assoc, List.nil_append]

/-- A placeholder opens behind data. -/
theorem lexLoop_open {d : Text} (hd : Verbatim d) (fuel place line : Nat) (before : CodePoint) (tokens : List Placed)
    (rest : Text) :
    lexLoop (fuel + 1) ⟨.data, [], place, line, before⟩ tokens (d ++ 0x7b :: 0x7b :: 0x20 :: rest) =
      lexLoop fuel ⟨.variable, [], place + (d.length + 2), line, 0x7b⟩
        (⟨.variableBegin, line⟩ :: dataToken d line tokens) (0x20 :: rest) := by
  have hsplit : splitOpening [] (d ++ 0x7b :: 0x7b :: 0x20 :: rest) = (d, some (.variable, .none, 0x20 :: rest)) := by
    rw [hd.splitOpening]
    simp [splitOpening, opening?, readTrim]
  have hpass := pass_append ⟨.data, [], place, line, before⟩ (d ++ [0x7b, 0x7b]) (0x20 :: rest)
  have hlines : countLines (d ++ [0x7b, 0x7b]) = 0 := by
    refine countLines_eq_zero fun hline => ?_
    rcases List.mem_append.1 hline with hline | hline
    · exact (hd 10 hline).2.1 rfl
    · exact absurd hline (by decide)
  rw [hlines, List.append_assoc] at hpass
  simp only [List.cons_append, List.nil_append] at hpass
  simp [lexLoop, hsplit, hd.countLines, hpass]

/-- A space in a placeholder is passed. -/
theorem lexLoop_space (fuel place line : Nat) (before c : CodePoint) (hc : Text.isSpace c = false)
    (tokens : List Placed) (rest : Text) :
    lexLoop (fuel + 1) ⟨.variable, [], place, line, before⟩ tokens (0x20 :: c :: rest) =
      lexLoop fuel ⟨.variable, [], place + 1, line, 0x20⟩ tokens (c :: rest) := by
  have hskip : skipSpace (0x20 :: c :: rest) = c :: rest := by
    simp [skipSpace, hc, show Text.isSpace 0x20 = true by decide]
  have hpass := pass_append ⟨.variable, [], place, line, before⟩ [0x20] (c :: rest)
  simp only [List.cons_append, List.nil_append] at hpass
  simp [lexLoop, afterVariableEnd?, show Text.isSpace 0x20 = true by decide, hskip, hpass, countLines]

/-- A name in a placeholder is a token. -/
theorem lexLoop_name {n : Text} (hn : AsciiName n) {d : CodePoint} (hd : isNamePart d = false) (fuel place line : Nat)
    (before : CodePoint) (tokens : List Placed) (rest : Text) :
    ∃ before', lexLoop (fuel + 1) ⟨.variable, [], place, line, before⟩ tokens (n ++ d :: rest) =
      lexLoop fuel ⟨.variable, [], place + n.length, line, before'⟩ (⟨.name n, line⟩ :: tokens) (d :: rest) := by
  have hpass := pass_append ⟨.variable, [], place, line, before⟩ n (d :: rest)
  have hlex := readLexeme_name hn hd before rest
  obtain ⟨c, s, hcs, hc⟩ := hn.start
  have hmark := ne_of_isNameSign (isNameSign_of_isNameStart hc)
  have hend : afterVariableEnd? (n ++ d :: rest) = none := by
    simp [hcs, afterVariableEnd?, hmark]
  have hspace : Text.isSpace c = false := hn.not_isSpace c (by rw [hcs]; exact List.mem_cons_self)
  refine ⟨n.getLast?.getD before, ?_⟩
  rw [hn.countLines] at hpass
  rw [hcs, List.cons_append] at hpass hlex hend ⊢
  simp [lexLoop, hend, hspace, hlex, hpass]

/-- A dot in a placeholder is a token. -/
theorem lexLoop_dot (fuel place line : Nat) (before : CodePoint) (tokens : List Placed) (rest : Text) :
    lexLoop (fuel + 1) ⟨.variable, [], place, line, before⟩ tokens (0x2e :: rest) =
      lexLoop fuel ⟨.variable, [], place + 1, line, 0x2e⟩ (⟨.symbol .dot, line⟩ :: tokens) rest := by
  have hpass := pass_append ⟨.variable, [], place, line, before⟩ [0x2e] rest
  simp only [List.cons_append, List.nil_append] at hpass
  have hspace : Text.isSpace 0x2e = false := by decide
  have hlex : readLexeme before (0x2e :: rest) = some (.token (.symbol .dot) rest) := by
    have hfloat : readFloat? (0x2e :: rest) = none := readFloat?_eq_none (by decide) rest
    have hwhole : readWhole? (0x2e :: rest) = none := readWhole?_eq_none (by decide) rest
    have hsymbol : readSymbol? (0x2e :: rest) = some (.dot, rest) := rfl
    simp [readLexeme, hfloat, hwhole, isNamePart_dot, hsymbol]
  simp [lexLoop, afterVariableEnd?, hspace, hlex, hpass, countLines, balance, Symbol.closing?, Symbol.isClosing]

/-- A placeholder closes. -/
theorem lexLoop_close (fuel place line : Nat) (before : CodePoint) (tokens : List Placed) (rest : Text) :
    lexLoop (fuel + 1) ⟨.variable, [], place, line, before⟩ tokens (0x7d :: 0x7d :: rest) =
      lexLoop fuel ⟨.data, [], place + 2, line, 0x7d⟩ (⟨.variableEnd, line⟩ :: tokens) rest := by
  have hpass := pass_append ⟨.variable, [], place, line, before⟩ [0x7d, 0x7d] rest
  simp only [List.cons_append, List.nil_append] at hpass
  simp [lexLoop, afterVariableEnd?, hpass, countLines]

/-- Names with dots between them are tokens. -/
theorem lexLoop_dotted {n : Text} (hn : AsciiName n) {ns : List Text} (hns : ∀ m ∈ ns, AsciiName m)
    (fuel place line : Nat) (before : CodePoint) (tokens : List Placed) (rest : Text) :
    ∃ place' before',
      lexLoop (fuel + 2 * ns.length + 1) ⟨.variable, [], place, line, before⟩ tokens (dotted n ns ++ 0x20 :: rest) =
        lexLoop fuel ⟨.variable, [], place', line, before'⟩ ((dotTokens line ns).reverse ++ ⟨.name n, line⟩ :: tokens)
          (0x20 :: rest) := by
  induction ns generalizing n place before tokens with
  | nil =>
    obtain ⟨before', hname⟩ := lexLoop_name hn isNamePart_space fuel place line before tokens rest
    refine ⟨place + n.length, before', ?_⟩
    rw [dotted_nil]
    exact hname
  | cons m ns ih =>
    obtain ⟨hm, hns⟩ := List.forall_mem_cons.1 hns
    obtain ⟨before', hname⟩ := lexLoop_name hn isNamePart_dot (fuel + 2 * ns.length + 1 + 1) place line before tokens
      (dotted m ns ++ 0x20 :: rest)
    obtain ⟨place', before'', hrest⟩ := ih hm hns (place + n.length + 1) 0x2e
      (⟨.symbol .dot, line⟩ :: ⟨.name n, line⟩ :: tokens)
    refine ⟨place', before'', ?_⟩
    have hfuel : fuel + 2 * (m :: ns).length + 1 = fuel + 2 * ns.length + 1 + 1 + 1 := by rw [List.length_cons]; omega
    rw [hfuel, dotted_cons, List.append_assoc, List.cons_append, hname, lexLoop_dot, hrest, dotTokens_cons]
    simp

/-- A placeholder of a path becomes the tokens of its names between two marks, behind the data before it and whatever
stands behind it. -/
theorem lexLoop_placeholder {d n : Text} (hd : Verbatim d) (hn : AsciiName n) (ns : List Text)
    (hns : ∀ m ∈ ns, AsciiName m) (fuel place line : Nat) (before : CodePoint) (tokens : List Placed) (rest : Text) :
    ∃ place' before',
      lexLoop (fuel + 2 * ns.length + 5) ⟨.data, [], place, line, before⟩ tokens
          (d ++ (placeholder (dotted n ns) ++ rest)) =
        lexLoop fuel ⟨.data, [], place', line, before'⟩
          (⟨.variableEnd, line⟩ :: ((dotTokens line ns).reverse ++
            ⟨.name n, line⟩ :: ⟨.variableBegin, line⟩ :: dataToken d line tokens)) rest := by
  obtain ⟨c, s, hcs, hc⟩ := hn.start
  have hspace : Text.isSpace c = false := hn.not_isSpace c (by rw [hcs]; exact List.mem_cons_self)
  obtain ⟨place', before', hnames⟩ := lexLoop_dotted hn hns (fuel + 2) (place + (d.length + 2) + 1) line 0x20
    (⟨.variableBegin, line⟩ :: dataToken d line tokens) (0x7d :: 0x7d :: rest)
  refine ⟨place' + 1 + 2, 0x7d, ?_⟩
  have htext : placeholder (dotted n ns) ++ rest =
      0x7b :: 0x7b :: 0x20 :: (dotted n ns ++ 0x20 :: 0x7d :: 0x7d :: rest) := by
    simp [placeholder_eq]
  have hfirst : dotted n ns = c :: (s ++ ns.flatMap fun m => 0x2e :: m) := by rw [dotted, hcs, List.cons_append]
  have hfuel : fuel + 2 * ns.length + 5 = fuel + 2 + 2 * ns.length + 1 + 1 + 1 := by omega
  rw [htext, hfuel, lexLoop_open hd, hfirst, List.cons_append, lexLoop_space _ _ _ _ _ hspace, ← List.cons_append,
    ← hfirst, hnames, lexLoop_space _ _ _ _ _ (by decide), lexLoop_close]

/-- The data behind the last placeholder ends the tokens. -/
theorem lexLoop_tail {d : Text} (hd : Verbatim d) (fuel place line : Nat) (before : CodePoint)
    (tokens : List Placed) :
    lexLoop (fuel + 1) ⟨.data, [], place, line, before⟩ tokens d =
      ⟨(dataToken d line tokens).reverse, none, line⟩ := by
  have hsplit : splitOpening [] d = (d, none) := by
    have h := hd.splitOpening [] []
    simpa [splitOpening] using h
  cases d with
  | nil => simp [lexLoop, dataToken]
  | cons c d => simp [lexLoop, hsplit, hd.countLines]

end Template

end Rulebook
