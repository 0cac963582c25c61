import Rulebook.Proofs.Expression.Absence

/-!
# Operands

A number or a quoted text, with a minus sign before it or not, is read as an operand of a comparison: each phrase on the
way down to it comes to it, and finds nothing behind it that would make it longer.
-/

namespace Rulebook.Expression.Source

variable {s : Source} {t u : Token} {n : Node} {i j : Nat} {M : Memory}

/-! ### Memories -/

/-- What the memory says of certain phrases at a place. -/
def Says (M : Memory) (ps : List Phrase) (i : Nat) (r : Option Node × Nat) : Prop := ∀ p ∈ ps, M.table p i = r

theorem Memory.with_table_of_ne {p q : Phrase} (h : q ≠ p) (i k : Nat) (r : Option Node × Nat) :
    (M.with p k r).table q i = M.table q i := by
  simp [Memory.with, h]

theorem Says.with {ps : List Phrase} {r : Option Node × Nat} (h : Says M ps i r) {p : Phrase} (hp : p ∉ ps)
    (k : Nat) (r' : Option Node × Nat) : Says (M.with p k r') ps i r := by
  intro q hq
  rw [Memory.with_table_of_ne (ne_of_mem_of_not_mem hq hp)]
  exact h q hq

/-! ### Literals -/

/-- Words that would make an operand longer. -/
def continuations : List String :=
  ["(", "[", ".", "**", "*", "/", "//", "%", "@", "+", "-", "<<", ">>", "&", "^", "|"]

/-- The token ends an operand. -/
structure EndsOperand (u : Token) : Prop where
  string : u.kind ≠ .string
  word : ∀ w ∈ continuations, u.kind = .word → u.spelling ≠ w

/-- A token stands for a value: a number for what it denotes, a quoted text for what it is read as. -/
inductive StandsFor (inner : Formatted.Inner) (t : Token) (v : Value) : Prop
  | number (hkind : t.kind = .number) (hv : numberValue t.line t.text = .ok v)
  | string (hkind : t.kind = .string) (hv : readStrings inner [(t.line, t.text)] = .ok (.mk (.constant v) t.line []))

/-- The tree of a literal. -/
def literalNode (t : Token) (v : Value) : Node := .mk (.constant v) t.line []

theorem StandsFor.kind {v : Value} (h : StandsFor s.inner t v) : t.kind = .number ∨ t.kind = .string := by
  cases h with
  | number hkind => exact .inl hkind
  | string hkind => exact .inr hkind

/-- The phrases on the way down to a literal that are remembered. -/
def literalPhrases : List Phrase := [.quotedLiteral, .primaryExpression, .awaitedPrimary, .arithmeticFactor]

/-- A row that begins with another word does not fit. -/
theorem rowRefuses_word {w : String} (hw : t.kind = .word → t.spelling ≠ w) {absent : Phrase → Bool} {rest : List Item} :
    Item.rowRefuses t.kind t.spelling absent (.word w :: rest) = true := by
  by_cases hkind : t.kind = .word
  · simp [Item.rowRefuses, Item.refuses, hkind, hw hkind]
  · simp [Item.rowRefuses, Item.refuses, hkind]

/-- An alternative that begins with another word is passed over. -/
theorem chooses_next_word {w : String} {rest : List Item} {build : Place → List Node → Built} {as : List Alternative}
    {bound : Nat} {r : Option Node} (ht : s.At i t) (hw : t.kind = .word → t.spelling ≠ w)
    (h : s.Chooses M bound i as r j) : s.Chooses M (bound + 1) i (⟨.word w :: rest, build⟩ :: as) r j := by
  exact chooses_next (goes_row_missing ht (rowRefuses_word hw) M bound []) h

/-- An alternative of one phrase comes to what the phrase comes to. -/
theorem chooses_phrase {p : Phrase} {as : List Alternative} {bound : Nat} (ht : s.At i t)
    (h : Goes M (s.readPhrase (bound + 1) p) i (some n) j) :
    s.Chooses M (bound + 4) i (⟨[.phrase p], pass⟩ :: as) (some n) j :=
  chooses_first ht (goes_readItems_part nofun (goes_phrase_part h) goes_readItems_nil) fun _ _ => rfl

/-- An alternative whose first phrase is there but not what it asks for behind it is passed over. -/
theorem chooses_next_behind {p : Phrase} {rest : List Item} {build : Place → List Node → Built}
    {as : List Alternative} {bound : Nat} {r : Option Node} {k : Nat} (hu : s.At j u)
    (hrest : Item.rowRefuses u.kind u.spelling (fun _ => false) rest = true)
    (h : Goes M (s.readPhrase (bound + 1) p) i (some n) j) (has : s.Chooses M (bound + 3) i as r k) :
    s.Chooses M (bound + 4) i (⟨.phrase p :: rest, build⟩ :: as) r k :=
  chooses_next (goes_readItems_part nofun (goes_phrase_part h) (goes_row_missing hu hrest M _ [n])) has

/-- An alternative whose first phrase is absent is passed over. -/
theorem chooses_next_absent {p : Phrase} {rest : List Item} {build : Place → List Node → Built}
    {as : List Alternative} {bound : Nat} {r : Option Node} {k : Nat} (h : Goes M (s.readPhrase (bound + 1) p) i none j)
    (has : s.Chooses M (bound + 3) i as r k) :
    s.Chooses M (bound + 4) i (⟨.phrase p :: rest, build⟩ :: as) r k :=
  chooses_next (goes_readItems_missing nofun (goes_phrase_missing h)) has

section literal
variable {v : Value} (h : StandsFor s.inner t v) (ht : s.At i t) (hu : s.At (i + 1) u) (hend : EndsOperand u)
include h ht

omit ht in
theorem StandsFor.not_word (w : String) : t.kind = .word → t.spelling ≠ w := by
  intro hword
  rcases h.kind with hkind | hkind <;> simp [hword] at hkind

include hu hend

theorem StandsFor.goes_atomicExpression (hM : M.table .quotedLiteral i = (some (literalNode t v), i + 1)) (b : Nat) :
    Goes M (s.readPhrase (b + 13) .atomicExpression) i (some (literalNode t v)) (i + 1) := by
  have hname : Item.rowRefuses t.kind t.spelling (fun _ => false) [.nameToken] = true := by
    rcases h.kind with hkind | hkind <;> simp [Item.rowRefuses, Item.refuses, hkind]
  refine goes_plain rfl (chooses_next (goes_row_missing ht hname M _ []) ?_)
  iterate 3 refine chooses_next_word ht (h.not_word _) ?_
  cases h with
  | number hkind hv =>
    refine chooses_next (goes_row_missing ht (by simp [Item.rowRefuses, Item.refuses, hkind]) M _ []) ?_
    refine chooses_first ht (goes_readItems_part (by simp) ?_ goes_readItems_nil) fun _ _ => rfl
    rw [readItem]
    exact goes_takeNumber_part ht hkind hv
  | string hkind hn =>
    have hstring : Goes M (s.readItem (b + 5) .stringToken) i (.part (tokenNode t)) (i + 1) := by
      rw [readItem]
      exact goes_take_part ht (by simp [hkind]) tokenNode
    have hquoted : Goes M (s.readPhrase (b + 4) .quotedLiteral) i (some (literalNode t v)) (i + 1) := by
      refine goes_remembered ht rfl hM (chooses_first ht (goes_readItems_part (by simp) ?_ goes_readItems_nil) fun _ _ => rfl)
      rw [readItem]
      exact goes_takeStrings_part ht hkind hu hend.string hn
    exact chooses_first ht (goes_readItems_bare (by simp) (goes_ahead_bare hstring)
      (goes_readItems_part (by simp) (goes_phrase_part hquoted) goes_readItems_nil)) fun _ _ => rfl

theorem StandsFor.goes_primaryExpression (hM : Says M literalPhrases i (some (literalNode t v), i + 1)) (b : Nat) :
    Goes M (s.readPhrase (b + 23) .primaryExpression) i (some (literalNode t v)) (i + 1) := by
  have hatomic : ∀ (r : Option Node × Nat) (b : Nat), Goes (M.with .primaryExpression i r)
      (s.readPhrase (b + 13) .atomicExpression) i (some (literalNode t v)) (i + 1) := by
    intro r b
    refine h.goes_atomicExpression ht hu hend ?_ b
    rw [Memory.with_table_of_ne (by decide)]
    exact hM _ (by decide)
  have hheld : ∀ (r : Option Node) (k b : Nat), Goes (M.with .primaryExpression i (r, k))
      (s.readPhrase (b + 1) .primaryExpression) i r k := fun r k b =>
    goes_held ht (.inr rfl) (.inl ⟨rfl, rfl⟩) (M.with_self _ i _)
  have hgenerator : ∀ (M : Memory) (b : Nat), Goes M (s.readPhrase (b + 5) .generator) (i + 1) none (i + 1) := by
    intro M b
    refine goes_plain rfl (chooses_next_word hu (hend.word _ (by decide)) ?_)
    exact chooses_next (goes_readItems_missing nofun (goes_check _)) chooses_nil
  refine goes_growing_some ht rfl (hM _ (by decide)) (Nat.lt_succ_self i) ?_ ?_
  · iterate 4 refine chooses_next_absent (hheld none i _) ?_
    exact chooses_phrase ht (hatomic _ _)
  · refine chooses_next_behind hu (rowRefuses_word (hend.word _ (by decide))) (hheld (some (literalNode t v)) (i + 1) _) ?_
    refine chooses_next (goes_readItems_part nofun (goes_phrase_part (hheld (some (literalNode t v)) (i + 1) _))
      (goes_readItems_missing nofun (goes_phrase_missing (hgenerator _ _)))) ?_
    iterate 2 refine chooses_next_behind hu (rowRefuses_word (hend.word _ (by decide))) (hheld (some (literalNode t v)) (i + 1) _) ?_
    exact chooses_phrase ht (hatomic _ _)

theorem StandsFor.goes_arithmeticFactor (hM : Says M literalPhrases i (some (literalNode t v), i + 1)) (b : Nat) :
    Goes M (s.readPhrase (b + 40) .arithmeticFactor) i (some (literalNode t v)) (i + 1) := by
  have hawaited : ∀ b, Goes M (s.readPhrase (b + 28) .awaitedPrimary) i (some (literalNode t v)) (i + 1) := by
    intro b
    refine goes_remembered ht rfl (hM _ (by decide)) (chooses_next_word ht (h.not_word _) ?_)
    exact chooses_phrase ht (h.goes_primaryExpression ht hu hend hM _)
  have hpower : ∀ b, Goes M (s.readPhrase (b + 33) .arithmeticPower) i (some (literalNode t v)) (i + 1) := by
    intro b
    refine goes_plain rfl (chooses_next_behind hu (rowRefuses_word (hend.word _ (by decide))) (hawaited _) ?_)
    exact chooses_phrase ht (hawaited _)
  refine goes_remembered ht rfl (hM _ (by decide)) ?_
  iterate 3 refine chooses_next_word ht (h.not_word _) ?_
  exact chooses_phrase ht (hpower _)

end literal

/-! ### Operators -/

/-- The phrases of operators, from the lowest up. -/
def operatorPhrases : List Phrase := [.arithmeticTerm, .arithmeticSum, .shift, .bitAnd, .bitXor, .bitOr]

/-- An operator with a phrase before it and one behind it. -/
def operation (p : Phrase) (o : String × Phrase) : Alternative :=
  ⟨[.phrase p, .word o.1, .phrase o.2], collect .arithmetic⟩

section operators
variable {p q : Phrase} {ops : List (String × Phrase)} {as : List Alternative} {r r' : Option Node} {k k' c : Nat}

/-- Where the first operand of an operation is absent, or no operator stands behind it, the alternatives behind the
operations are left. -/
theorem chooses_operations (hheld : ∀ b, Goes M (s.readPhrase (b + 1) p) i r k)
    (hend : r = none ∨ r = some n ∧ ∃ u, s.At k u ∧ ∀ o ∈ ops, u.kind = .word → u.spelling ≠ o.1)
    (h : ∀ b, s.Chooses M (b + (c + 4)) i as r' k') (b : Nat) :
    s.Chooses M (b + ops.length + (c + 4)) i (ops.map (operation p) ++ as) r' k' := by
  induction ops with
  | nil => exact h b
  | cons o ops ih =>
    have hbound : b + (o :: ops).length + (c + 4) = b + ops.length + c + 1 + 4 := by simp only [List.length_cons]; omega
    have hrest : b + ops.length + (c + 4) = b + ops.length + c + 1 + 3 := by omega
    rw [hbound, List.map_cons, List.cons_append]
    rcases hend with rfl | ⟨rfl, u, hu, hword⟩
    · have ih := ih (.inl rfl)
      rw [hrest] at ih
      exact chooses_next_absent (hheld _) ih
    · obtain ⟨ho, hops⟩ := List.forall_mem_cons.1 hword
      have ih := ih (.inr ⟨rfl, u, hu, hops⟩)
      rw [hrest] at ih
      exact chooses_next_behind hu (rowRefuses_word ho) (hheld _) ih

/-- Where no operator stands behind an operand, an operation comes to its first operand. -/
theorem goes_operation (ht : s.At i t) (hu : s.At j u) (hij : i < j) (hmode : p.mode = .growing)
    (halternatives : p.alternatives = ops.map (operation p) ++ [⟨[.phrase q], pass⟩])
    (hops : ∀ o ∈ ops, u.kind = .word → u.spelling ≠ o.1) (hM : M.table p i = (some n, j))
    (h : ∀ r b, Goes (M.with p i r) (s.readPhrase (b + (c + 1)) q) i (some n) j) (b : Nat) :
    Goes M (s.readPhrase (b + ops.length + (c + 4) + 3) p) i (some n) j := by
  have hheld : ∀ (r : Option Node) (k b : Nat), Goes (M.with p i (r, k)) (s.readPhrase (b + 1) p) i r k := fun r k b =>
    goes_held ht (.inr hmode) (.inl ⟨rfl, rfl⟩) (M.with_self p i _)
  have hlast : ∀ r b, s.Chooses (M.with p i r) (b + (c + 4)) i [⟨[.phrase q], pass⟩] (some n) j := by
    intro r b
    rw [show b + (c + 4) = b + c + 4 by omega]
    exact chooses_phrase ht (h r b)
  refine goes_growing_some ht hmode hM hij ?_ ?_
  · rw [halternatives, show b + ops.length + (c + 4) + 1 = b + 1 + ops.length + (c + 4) by omega]
    exact chooses_operations (n := n) (hheld none i) (.inl rfl) (hlast _) (b + 1)
  · rw [halternatives]
    exact chooses_operations (hheld (some n) j) (.inr ⟨rfl, u, hu, hops⟩) (hlast _) b

end operators

/-! ### Operands -/

/-- The tree of a literal behind a minus sign. -/
def negativeNode (m t : Token) (v : Value) : Node := .mk (.signed .minus) m.line [literalNode t v]

/-- From a place to another stands an operand: a literal, or a minus sign and a literal. The memory has what comes of
it. -/
inductive IsOperand (s : Source) (M : Memory) (i : Nat) : Nat → Node → Prop
  | literal {t : Token} {v : Value} (ht : s.At i t) (h : StandsFor s.inner t v)
      (hM : Says M literalPhrases i (some (literalNode t v), i + 1)) : IsOperand s M i (i + 1) (literalNode t v)
  | negative {m t : Token} {v : Value} (hm : s.At i m) (hkind : m.kind = .word) (hspelling : m.spelling = "-")
      (ht : s.At (i + 1) t) (h : StandsFor s.inner t v)
      (hM : Says M literalPhrases (i + 1) (some (literalNode t v), i + 2))
      (hfactor : M.table .arithmeticFactor i = (some (negativeNode m t v), i + 2)) :
      IsOperand s M i (i + 2) (negativeNode m t v)

section operand
variable (h : IsOperand s M i j n)
include h

theorem IsOperand.exists_at : ∃ t, s.At i t := by
  cases h with
  | literal ht => exact ⟨_, ht⟩
  | negative hm => exact ⟨_, hm⟩

theorem IsOperand.lt : i < j := by
  cases h <;> omega

theorem IsOperand.with {p : Phrase} (hp : p ∉ literalPhrases) (k : Nat) (r : Option Node × Nat) :
    IsOperand s (M.with p k r) i j n := by
  cases h with
  | literal ht h hM => exact .literal ht h (hM.with hp k r)
  | negative hm hkind hspelling ht h hM hfactor =>
    refine .negative hm hkind hspelling ht h (hM.with hp k r) ?_
    rw [Memory.with_table_of_ne (ne_of_mem_of_not_mem (by decide) hp)]
    exact hfactor

theorem IsOperand.goes_arithmeticFactor (hu : s.At j u) (hend : EndsOperand u) (b : Nat) :
    Goes M (s.readPhrase (b + 46) .arithmeticFactor) i (some n) j := by
  cases h with
  | literal ht h hM => exact h.goes_arithmeticFactor ht hu hend hM (b + 6)
  | @negative m t v hm hkind hspelling ht h hM hfactor =>
    have hword : Goes M (s.readItem (b + 42) (.word "-")) i (.part (tokenNode m)) (i + 1) := by
      rw [← hspelling]
      exact goes_word_part hm hkind
    refine goes_remembered hm rfl hfactor (chooses_next_word hm (by simp [hspelling]) (chooses_first hm
      (goes_readItems_part nofun hword (goes_readItems_part nofun (goes_phrase_part
        (h.goes_arithmeticFactor ht hu hend hM b)) goes_readItems_nil)) ?_))
    intro place hplace
    simp [collect, spreadAll, Node.spread, tokenNode, literalNode, negativeNode, hplace]

omit h in
/-- Where operands come to themselves on a level, they do so on the next. -/
theorem goes_next_operation {p q : Phrase} (ops : List (String × Phrase)) {lower : List Phrase} (c : Nat) (hu : s.At j u)
    (hend : EndsOperand u) (hp : p ∉ lower ∧ p ∉ literalPhrases) (hmode : p.mode = .growing)
    (halternatives : p.alternatives = ops.map (operation p) ++ [⟨[.phrase q], pass⟩])
    (hops : ∀ o ∈ ops, o.1 ∈ continuations)
    (hq : ∀ M, IsOperand s M i j n → Says M lower i (some n, j) →
      ∀ b, Goes M (s.readPhrase (b + (c + 1)) q) i (some n) j)
    (M : Memory) (h : IsOperand s M i j n) (hM : Says M (p :: lower) i (some n, j)) (b : Nat) :
    Goes M (s.readPhrase (b + ops.length + (c + 4) + 3) p) i (some n) j := by
  obtain ⟨t, ht⟩ := h.exists_at
  obtain ⟨hself, hlower⟩ := List.forall_mem_cons.1 hM
  have hbelow : ∀ r b, Goes (M.with p i r) (s.readPhrase (b + (c + 1)) q) i (some n) j := fun r b =>
    hq _ (h.with hp.2 i r) (Says.with hlower hp.1 i r) b
  exact goes_operation ht hu h.lt hmode halternatives (fun o ho => hend.word _ (hops o ho)) hself hbelow b

/-- An operand comes to itself on every level of operators. -/
theorem IsOperand.goes_bitOr (hu : s.At j u) (hend : EndsOperand u) (hM : Says M operatorPhrases i (some n, j)) (b : Nat) :
    Goes M (s.readPhrase (b + 94) .bitOr) i (some n) j := by
  have hfactor : ∀ M, IsOperand s M i j n → Says M [] i (some n, j) →
      ∀ b, Goes M (s.readPhrase (b + 46) .arithmeticFactor) i (some n) j :=
    fun M h _ b => h.goes_arithmeticFactor hu hend b
  have hterm := goes_next_operation [("*", .arithmeticFactor), ("/", .arithmeticFactor), ("//", .arithmeticFactor),
    ("%", .arithmeticFactor), ("@", .arithmeticFactor)] (p := .arithmeticTerm) 45 hu hend (by decide) rfl rfl (by decide)
    hfactor
  have hsum := goes_next_operation [("+", .arithmeticTerm), ("-", .arithmeticTerm)] (p := .arithmeticSum) 56 hu hend
    (by decide) rfl rfl (by decide) hterm
  have hshift := goes_next_operation [("<<", .arithmeticSum), (">>", .arithmeticSum)] (p := .shift) 64 hu hend
    (by decide) rfl rfl (by decide) hsum
  have hand := goes_next_operation [("&", .shift)] (p := .bitAnd) 72 hu hend (by decide) rfl rfl (by decide) hshift
  have hxor := goes_next_operation [("^", .bitAnd)] (p := .bitXor) 79 hu hend (by decide) rfl rfl (by decide) hand
  have hor := goes_next_operation [("|", .bitXor)] (p := .bitOr) 86 hu hend (by decide) rfl rfl (by decide) hxor
  exact hor M h (fun p hp => hM p (by revert p; decide)) b

end operand

end Rulebook.Expression.Source
