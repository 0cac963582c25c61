import Rulebook.Proofs.Template.Reference

/-!
# Templates of references

A template of nothing but placeholders of plain names with data around them: its tokens, and the one statement that
it is read as.
-/

namespace Rulebook.Template
open Text

/-- Names with the text before each, and the text behind the last; `g` gives what stands for a name. -/
def assemble (g : Text → Text) (references : List (Text × Text)) (tail : Text) : Text :=
  references.flatMap (fun r => r.1 ++ g r.2) ++ tail

theorem assemble_cons (g : Text → Text) (r : Text × Text) (references : List (Text × Text)) (tail : Text) :
    assemble g (r :: references) tail = r.1 ++ (g r.2 ++ assemble g references tail) := by
  simp [assemble]

/-- Plain names with data around them that a template holds as it is. -/
structure Outlines (references : List (Text × Text)) (tail : Text) : Prop where
  before : ∀ r ∈ references, Verbatim r.1
  name : ∀ r ∈ references, PlainName r.2
  behind : Verbatim tail

theorem outlines_nil {tail : Text} : Outlines [] tail ↔ Verbatim tail :=
  ⟨fun h => h.behind, fun h => ⟨nofun, nofun, h⟩⟩

theorem outlines_cons {r : Text × Text} {references : List (Text × Text)} {tail : Text} :
    Outlines (r :: references) tail ↔ Verbatim r.1 ∧ PlainName r.2 ∧ Outlines references tail := by
  constructor
  · rintro ⟨hbefore, hname, hbehind⟩
    rw [List.forall_mem_cons] at hbefore hname
    exact ⟨hbefore.1, hname.1, hbefore.2, hname.2, hbehind⟩
  · rintro ⟨hr, hn, hbefore, hname, hbehind⟩
    exact ⟨List.forall_mem_cons.2 ⟨hr, hbefore⟩, List.forall_mem_cons.2 ⟨hn, hname⟩, hbehind⟩

/-! ### Tokens -/

/-- The tokens of a template of references. -/
def placed (references : List (Text × Text)) (tail : Text) : List Placed :=
  references.flatMap (fun r =>
    dataToken r.1 1 [] ++ [⟨.variableBegin, 1⟩, ⟨.name r.2, 1⟩, ⟨.variableEnd, 1⟩]) ++ dataToken tail 1 []

theorem placed_cons (r : Text × Text) (references : List (Text × Text)) (tail : Text) :
    placed (r :: references) tail = dataToken r.1 1 [] ++
      (⟨.variableBegin, 1⟩ :: ⟨.name r.2, 1⟩ :: ⟨.variableEnd, 1⟩ :: placed references tail) := by
  simp [placed]

theorem dataToken_eq_append (d : Text) (line : Nat) (tokens : List Placed) :
    dataToken d line tokens = dataToken d line [] ++ tokens := by
  cases d <;> rfl

theorem reverse_dataToken (d : Text) (line : Nat) : (dataToken d line []).reverse = dataToken d line [] := by
  cases d <;> rfl

theorem lexLoop_assemble {references : List (Text × Text)} {tail : Text} (h : Outlines references tail) {fuel : Nat}
    (hfuel : 5 * references.length < fuel) (place : Nat) (before : CodePoint) (tokens : List Placed) :
    lexLoop fuel ⟨.data, [], place, 1, before⟩ tokens (assemble placeholder references tail) =
      ⟨tokens.reverse ++ placed references tail, none, 1⟩ := by
  induction references generalizing fuel place before tokens with
  | nil =>
    obtain ⟨k, rfl⟩ := Nat.exists_eq_add_of_lt hfuel
    rw [show assemble placeholder [] tail = tail from rfl, lexLoop_tail (outlines_nil.1 h), dataToken_eq_append]
    simp [placed, reverse_dataToken]
  | cons r references ih =>
    obtain ⟨hd, hn, h⟩ := outlines_cons.1 h
    rw [List.length_cons] at hfuel
    obtain ⟨k, rfl⟩ := Nat.exists_eq_add_of_le' (Nat.le_trans (by omega : 5 ≤ _) (Nat.le_of_lt hfuel))
    obtain ⟨place', before', hlex⟩ := lexLoop_placeholder hd hn.toAsciiName [] (by simp) k place 1 before tokens
      (assemble placeholder references tail)
    simp only [dotted_nil, dotTokens_nil, List.length_nil, Nat.mul_zero, Nat.add_zero, List.reverse_nil,
      List.nil_append] at hlex
    rw [assemble_cons, hlex, ih h (by omega), placed_cons, dataToken_eq_append]
    simp [reverse_dataToken]

theorem Verbatim.notMem_assemble {references : List (Text × Text)} {tail : Text} (h : Outlines references tail)
    {c : CodePoint} (hc : c = 10 ∨ c = 13) : c ∉ assemble placeholder references tail := by
  have hverbatim : ∀ {d : Text}, Verbatim d → c ∉ d := by
    intro d hd hmem
    rcases hc with rfl | rfl
    · exact (hd 10 hmem).2.1 rfl
    · exact (hd 13 hmem).2.2 rfl
  have hplaceholder : ∀ {n : Text}, PlainName n → c ∉ placeholder n := by
    intro n hn hmem
    have hname : c ∉ n := fun hmem => by
      have hsign := hn.sign c hmem
      rcases hc with rfl | rfl <;> exact absurd hsign (by decide)
    rw [placeholder_eq] at hmem
    rcases hc with rfl | rfl <;> simp [hname] at hmem
  induction references with
  | nil => exact hverbatim (outlines_nil.1 h)
  | cons r references ih =>
    obtain ⟨hd, hn, h⟩ := outlines_cons.1 h
    rw [assemble_cons, List.mem_append, List.mem_append]
    rintro (hmem | hmem | hmem)
    · exact hverbatim hd hmem
    · exact hplaceholder hn hmem
    · exact ih h hmem

theorem unifyLinesLoop_eq {t done : Text} (h : 13 ∉ t) : unifyLinesLoop done t = done.reverse ++ t := by
  induction t generalizing done with
  | nil => simp [unifyLinesLoop]
  | cons c t ih =>
    rw [List.mem_cons, not_or] at h
    have hc : c ≠ 13 := fun hc => h.1 hc.symm
    rw [unifyLinesLoop.eq_3 _ _ _ (by rintro _ rfl; exact absurd rfl hc), if_neg hc, ih h.2]
    simp

theorem dropLastLineFeed_eq {t : Text} (h : 10 ∉ t) : dropLastLineFeed t = t := by
  have hreverse : 10 ∉ t.reverse := by rwa [List.mem_reverse]
  unfold dropLastLineFeed
  split
  · next rest heq => exact absurd (heq ▸ List.mem_cons_self) hreverse
  · rfl

theorem length_assemble_ge (references : List (Text × Text)) (tail : Text) :
    5 * references.length ≤ (assemble placeholder references tail).length := by
  induction references with
  | nil => exact Nat.zero_le _
  | cons r references ih =>
    rw [assemble_cons, placeholder_eq]
    simp only [List.length_cons, List.length_append]
    omega

/-- A template on one line is lexed as it is. -/
theorem dropLastLineFeed_unifyLines {t : Text} (hfeed : 10 ∉ t) (hreturn : 13 ∉ t) :
    dropLastLineFeed (unifyLines t) = t := by
  rw [unifyLines, unifyLinesLoop_eq hreturn, List.reverse_nil, List.nil_append, dropLastLineFeed_eq hfeed]

/-- The tokens of a template of references. -/
theorem lex_assemble {references : List (Text × Text)} {tail : Text} (h : Outlines references tail) :
    lex (assemble placeholder references tail) = ⟨placed references tail, none, 1⟩ := by
  have hlength := length_assemble_ge references tail
  have hlines := dropLastLineFeed_unifyLines (Verbatim.notMem_assemble h (.inl rfl))
    (Verbatim.notMem_assemble h (.inr rfl))
  rw [lex, hlines, lexLoop_assemble h (by omega)]
  rfl

/-! ### Output -/

/-- The piece of output that data is, unless it is empty. -/
def dataPieces (d : Text) : List Piece := if d.isEmpty then [] else [.data d]

/-- The pieces of output of a template of references. -/
def pieces (references : List (Text × Text)) (tail : Text) : List Piece :=
  references.flatMap (fun r => dataPieces r.1 ++ [.expr (.name r.2)]) ++ dataPieces tail

theorem pieces_cons (r : Text × Text) (references : List (Text × Text)) (tail : Text) :
    pieces (r :: references) tail = dataPieces r.1 ++ (.expr (.name r.2) :: pieces references tail) := by
  simp [pieces]

/-- Data becomes a piece of output before what follows. -/
theorem run_readBody_dataToken (d : Text) {s : ReadState} {rest : List Placed}
    (hs : s.tokens = dataToken d 1 [] ++ rest) (hoffence : s.offence = none) {fuel : Nat}
    (hfuel : (dataToken d 1 []).length ≤ fuel) (done : List Piece) :
    (readBody fuel none done []).run s =
      (readBody (fuel - (dataToken d 1 []).length) none ((dataPieces d).reverse ++ done) []).run
        { s with tokens := rest } := by
  cases d with
  | nil =>
    obtain ⟨tokens, offence, lastLine, tags, ends⟩ := s
    obtain rfl : tokens = rest := hs
    rfl
  | cons c d =>
    obtain ⟨k, rfl⟩ := Nat.exists_eq_add_of_le' hfuel
    exact run_readBody_data hs hoffence k none done []

theorem run_readBody_placed {references : List (Text × Text)} {tail : Text} (h : Outlines references tail)
    {s : ReadState} (hs : s.tokens = placed references tail) (hoffence : s.offence = none) {fuel : Nat}
    (hfuel : (placed references tail).length < fuel) (done : List Piece) :
    (readBody fuel none done []).run s =
      .ok ((flush ((pieces references tail).reverse ++ done) []).reverse, { s with tokens := [] }) := by
  induction references generalizing fuel s done with
  | nil =>
    have htail : s.tokens = dataToken tail 1 [] ++ [] := by simpa [placed] using hs
    have hlength : (dataToken tail 1 []).length < fuel := by simpa [placed] using hfuel
    obtain ⟨k, hk⟩ := Nat.exists_eq_add_of_lt hlength
    rw [run_readBody_dataToken tail htail hoffence (Nat.le_of_lt hlength),
      show fuel - (dataToken tail 1 []).length = k + 1 by omega]
    exact run_readBody_stop rfl k none _ []
  | cons r references ih =>
    obtain ⟨-, hn, h⟩ := outlines_cons.1 h
    rw [placed_cons] at hs hfuel
    simp only [List.length_append, List.length_cons] at hfuel
    obtain ⟨k, hk⟩ := Nat.exists_eq_add_of_lt (show (dataToken r.1 1 []).length < fuel by omega)
    have hplaceholder := run_readBody_placeholder hn [] (placed references tail)
      (s := { s with tokens := ⟨.variableBegin, 1⟩ :: ⟨.name r.2, 1⟩ :: ⟨.variableEnd, 1⟩ :: placed references tail })
      rfl hoffence k none ((dataPieces r.1).reverse ++ done) []
    rw [run_readBody_dataToken r.1 hs hoffence (by omega),
      show fuel - (dataToken r.1 1 []).length = k + 1 by omega, hplaceholder,
      ih (s := { s with tokens := placed references tail }) h rfl hoffence (by omega)]
    simp [pieces_cons]

/-- A template of references is one statement that puts out its pieces. -/
theorem read_assemble {r : Text × Text} {references : List (Text × Text)} {tail : Text}
    (h : Outlines (r :: references) tail) :
    Template.read (assemble placeholder (r :: references) tail) = .ok [.output (pieces (r :: references) tail)] := by
  have hfuel : (placed (r :: references) tail).length < 8 * (placed (r :: references) tail).length + 16 := by omega
  have hrun := run_readBody_placed h (s := ⟨placed (r :: references) tail, none, 1, [], []⟩) rfl rfl hfuel []
  have hflush : (flush ((pieces (r :: references) tail).reverse ++ []) []).reverse =
      [.output (pieces (r :: references) tail)] := by
    simp [flush, pieces_cons]
  rw [hflush] at hrun
  simp only [Template.read, lex_assemble h]
  rw [hrun]
  cases placed (r :: references) tail <;> rfl

end Rulebook.Template
