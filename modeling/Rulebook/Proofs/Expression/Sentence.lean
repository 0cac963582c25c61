import Rulebook.Proofs.Expression.Operand

/-!
# Texts of one comparison

Two operands with a relation between them and nothing else are one statement, and its expression is the chain of this
one relation. The reader tries other statements first and comes to none of them: an operand begins no compound
statement, and nothing is assigned to it.
-/

namespace Rulebook.Expression.Source

variable {s : Source} {M : Memory} {i j k : Nat} {t w e f : Token} {n n₁ n₂ : Node} {v : Value} {r : Relation}

/-! ### What an operand does not begin -/

/-- Statements and targets that a literal does not begin. -/
def unbegunByLiteral : List Phrase := [.compoundStatement, .matchStatement, .targetAtom]

/-- Statements and targets that a minus sign does not begin. -/
def unbegunByMinus : List Phrase :=
  [.compoundStatement, .matchStatement, .assignmentStatement, .singleTarget, .singlePathTarget, .targetPrimary,
    .atomicExpression, .starTargets, .starTarget, .pathTarget, .targetAtom]

/-- Statements and expressions that the end of a text does not begin. -/
def unbegunByFinish : List Phrase :=
  [.anyStatement, .compoundStatement, .matchStatement, .simpleLine, .simpleStatement, .assignmentStatement,
    .singleTarget, .singlePathTarget, .targetPrimary, .atomicExpression, .starTargets, .starTarget, .pathTarget,
    .targetAtom, .starExpressions, .starExpression, .anyExpression, .disjunction, .conjunction, .inversion, .comparison,
    .bitOr, .bitXor, .bitAnd, .shift, .arithmeticSum, .arithmeticTerm, .arithmeticFactor, .arithmeticPower,
    .awaitedPrimary, .primaryExpression, .lambdaForm]

/-- The phrases of targets that are remembered. -/
def targetPhrases : List Phrase := [.starTarget, .pathTarget, .targetPrimary]

theorem StandsFor.goes_absent (h : StandsFor s.inner t v) (ht : s.At i t) {p : Phrase} (hp : p ∈ unbegunByLiteral)
    (b : Nat) : Goes M (s.readPhrase b p) i none i := by
  have hplain : ∀ q ∈ unbegunByLiteral, q.mode = .plain := by decide
  refine goes_phrase_absent ht (fun q hq => ?_) (fun q hq hmode => absurd (hplain q hq) hmode) hp b
  simp only [unbegunByLiteral, List.mem_cons, List.not_mem_nil, or_false] at hq
  rcases h.kind with hkind | hkind <;> rw [hkind] <;> rcases hq with rfl | rfl | rfl <;> rfl

theorem goes_absent_of_minus (ht : s.At i t) (hkind : t.kind = .word) (hspelling : t.spelling = "-")
    (hM : Says M targetPhrases i (none, i)) {p : Phrase} (hp : p ∈ unbegunByMinus) (b : Nat) :
    Goes M (s.readPhrase b p) i none i := by
  refine goes_phrase_absent ht ?_ (fun q hq hmode => hM q ?_) hp b
  · rw [hkind, hspelling]
    decide
  · revert q
    decide

section target
variable (h : StandsFor s.inner t v) (ht : s.At i t) (hw : s.At (i + 1) w) (hend : EndsOperand w)
  (hliteral : M.table .quotedLiteral i = (some (literalNode t v), i + 1)) (hM : Says M targetPhrases i (none, i))
include h ht hw hend hliteral hM

/-- A literal is no target as long as nothing leads on from it. -/
theorem StandsFor.goes_targetPrimary (b : Nat) : Goes M (s.readPhrase (b + 22) .targetPrimary) i none i := by
  have hheld : ∀ b, Goes (M.with .targetPrimary i (none, i)) (s.readPhrase (b + 1) .targetPrimary) i none i := fun b =>
    goes_held ht (.inr rfl) (.inl ⟨rfl, rfl⟩) (M.with_self _ i _)
  have hatomic : ∀ b, Goes (M.with .targetPrimary i (none, i)) (s.readPhrase (b + 13) .atomicExpression) i
      (some (literalNode t v)) (i + 1) := by
    refine h.goes_atomicExpression ht hw hend ?_
    rw [Memory.with_table_of_ne (by decide)]
    exact hliteral
  have hcontinuation : ∀ (M : Memory) (b : Nat),
      Goes M (s.readPhrase (b + 4) .targetContinuation) (i + 1) none (i + 1) := by
    intro M b
    refine goes_plain rfl ?_
    iterate 3 refine chooses_next_word hw (hend.word _ (by decide)) ?_
    exact chooses_nil
  refine goes_growing_none ht rfl (hM _ (by decide)) (k := i) ?_
  iterate 4 refine chooses_next_absent (hheld _) ?_
  exact chooses_next (goes_readItems_part nofun (goes_phrase_part (hatomic b)) (goes_readItems_missing nofun
    (goes_ahead_missing (goes_phrase_missing (hcontinuation _ (b + 7)))))) chooses_nil

/-- Nothing is assigned to a literal. -/
theorem StandsFor.goes_assignmentStatement (b : Nat) :
    Goes M (s.readPhrase (b + 48) .assignmentStatement) i none i := by
  have hprimary := h.goes_targetPrimary ht hw hend hliteral hM
  have hname : Item.rowRefuses t.kind t.spelling (fun _ => false) [.nameToken] = true := by
    rcases h.kind with hkind | hkind <;> simp [Item.rowRefuses, Item.refuses, hkind]
  have hsinglePath : ∀ b, Goes M (s.readPhrase (b + 27) .singlePathTarget) i none i := fun b =>
    goes_plain rfl (chooses_next_absent (hprimary _) (chooses_next_absent (hprimary _) chooses_nil))
  have hpath : ∀ b, Goes M (s.readPhrase (b + 27) .pathTarget) i none i := fun b =>
    goes_remembered ht rfl (hM _ (by decide)) (chooses_next_absent (hprimary _) (chooses_next_absent (hprimary _)
      (chooses_next_absent (h.goes_absent ht (by decide) _) chooses_nil)))
  have hstar : ∀ b, Goes M (s.readPhrase (b + 32) .starTarget) i none i := fun b =>
    goes_remembered ht rfl (hM _ (by decide)) (chooses_next_word ht (h.not_word _)
      (chooses_next_absent (hpath _) chooses_nil))
  have hstars : ∀ b, Goes M (s.readPhrase (b + 37) .starTargets) i none i := fun b =>
    goes_plain rfl (chooses_next_absent (hstar _) (chooses_next_absent (hstar _) chooses_nil))
  have hsingle : ∀ b, Goes M (s.readPhrase (b + 31) .singleTarget) i none i := fun b =>
    goes_plain rfl (chooses_next_absent (hsinglePath _) (chooses_next (goes_row_missing ht hname M _ [])
      (chooses_next_word ht (h.not_word _) chooses_nil)))
  refine goes_plain rfl (chooses_next (goes_row_missing ht (by exact hname) M _ []) ?_)
  refine chooses_next (goes_readItems_missing (by simp) (goes_oneOf_missing (chooses_next_word ht (h.not_word _)
    (chooses_next_absent (hsinglePath _) chooses_nil)))) ?_
  refine chooses_next (goes_readItems_missing (by simp) (goes_atLeastOne_missing (goes_readMany_nil (goes_oneOf_missing
    (chooses_next_absent (hstars _) chooses_nil))))) ?_
  refine chooses_next_absent (hsingle _) ?_
  exact chooses_next (goes_readItems_missing (by simp) (goes_check _)) chooses_nil

end target

/-- An operand begins no compound statement. -/
theorem IsOperand.goes_compoundStatement (h : IsOperand s M i j n) (hM : Says M targetPhrases i (none, i)) (b : Nat) :
    Goes M (s.readPhrase b .compoundStatement) i none i := by
  cases h with
  | literal ht h _ => exact h.goes_absent ht (by decide) b
  | negative hm hkind hspelling => exact goes_absent_of_minus hm hkind hspelling hM (by decide) b

/-- Nothing is assigned to an operand. -/
theorem IsOperand.goes_assignmentStatement (h : IsOperand s M i j n) (hw : s.At j w) (hend : EndsOperand w)
    (hM : Says M targetPhrases i (none, i)) (b : Nat) : Goes M (s.readPhrase (b + 48) .assignmentStatement) i none i := by
  cases h with
  | literal ht h hliteral => exact h.goes_assignmentStatement ht hw hend (hliteral _ (by decide)) hM b
  | negative hm hkind hspelling => exact goes_absent_of_minus hm hkind hspelling hM (by decide) _

/-! ### The comparison -/

/-- The chain of one relation between two trees. -/
def chainNode (line : Nat) (r : Relation) (n₁ n₂ : Node) : Node := .mk (.chain [.evaluated r]) line [n₁, n₂]

/-- An expression as a statement. -/
def statementNode (line : Nat) (n : Node) : Node := .mk (.statement "Expr") line [n]

/-- The phrases of expressions above the operators that are remembered. -/
def sentencePhrases : List Phrase := [.inversion, .conjunction, .disjunction, .anyExpression, .starExpression]

theorem IsOperand.spread (h : IsOperand s M i j n) : n.spread = [n] := by
  cases h <;> rfl

theorem IsOperand.not_word (h : IsOperand s M i j n) (ht : s.At i t) {c : String} (hc : c ≠ "-") :
    t.kind = .word → t.spelling ≠ c := by
  cases h with
  | literal ht' h _ =>
    rw [Option.some.inj (ht.symm.trans ht')]
    exact h.not_word c
  | negative hm hkind hspelling =>
    rw [Option.some.inj (ht.symm.trans hm), hspelling]
    exact fun _ => hc.symm

theorem endsOperand_relation (hkind : w.kind = .word) (hspelling : w.spelling = r.symbol) : EndsOperand w where
  string := by simp [hkind]
  word c hc _ := by
    rw [hspelling]
    revert c
    cases r <;> decide

theorem endsOperand_newline (hkind : e.kind = .newline) : EndsOperand e where
  string := by simp [hkind]
  word := by simp [hkind]

/-- A relation and the operand behind it. -/
theorem IsOperand.goes_comparisonLink (h : IsOperand s M (j + 1) k n) (hw : s.At j w) (hkind : w.kind = .word)
    (hspelling : w.spelling = r.symbol) (he : s.At k e) (hline : e.kind = .newline)
    (hM : Says M operatorPhrases (j + 1) (some n, k)) (b : Nat) :
    Goes M (s.readPhrase (b + 104) .comparisonLink) j (some (.mk (.link (.evaluated r)) w.line [n])) k := by
  have hword : ∀ b, Goes M (s.readItem (b + 1) (.word r.symbol)) j (.part (tokenNode w)) (j + 1) := by
    rw [← hspelling]
    exact fun b => goes_word_part hw hkind
  have hoperand := h.goes_bitOr he (endsOperand_newline hline) hM
  have hfirst : ∀ {as : List Alternative} (b : Nat), s.Chooses M (b + 98) j
      (⟨[.word r.symbol, .phrase .bitOr], link (.evaluated r)⟩ :: as)
      (some (.mk (.link (.evaluated r)) w.line [n])) k := by
    intro as b
    refine chooses_first hw (goes_readItems_part nofun (hword _) (goes_readItems_part nofun
      (goes_phrase_part (hoperand b)) goes_readItems_nil)) fun place hplace => ?_
    simp [link, spreadAll, h.spread, Node.spread, tokenNode, hplace]
  have hother : ∀ c : String, r.symbol ≠ c → w.kind = .word → w.spelling ≠ c := by
    intro c hc _
    rwa [hspelling]
  refine goes_plain rfl ?_
  cases r with
  | equal => exact hfirst (b + 5)
  | notEqual => exact chooses_next_word hw (hother _ (by decide)) (hfirst (b + 4))
  | less =>
    iterate 3 refine chooses_next_word hw (hother _ (by decide)) ?_
    exact hfirst (b + 2)
  | greater =>
    iterate 5 refine chooses_next_word hw (hother _ (by decide)) ?_
    exact hfirst b

section comparison
variable (h₁ : IsOperand s M 0 j n₁) (h₂ : IsOperand s M (j + 1) k n₂) (ht : s.At 0 t) (hw : s.At j w)
  (hkind : w.kind = .word) (hspelling : w.spelling = r.symbol) (he : s.At k e) (hline : e.kind = .newline)
  (hM₁ : Says M operatorPhrases 0 (some n₁, j)) (hM₂ : Says M operatorPhrases (j + 1) (some n₂, k))
include h₁ h₂ ht hw hkind hspelling he hline hM₁ hM₂

/-- Two operands with a relation between them are a chain. -/
theorem goes_comparison (b : Nat) :
    Goes M (s.readPhrase (b + 111) .comparison) 0 (some (chainNode t.line r n₁ n₂)) k := by
  have hoperand := h₁.goes_bitOr hw (endsOperand_relation hkind hspelling) hM₁
  have hlink := h₂.goes_comparisonLink hw hkind hspelling he hline hM₂
  have hend : ∀ b, Goes M (s.readPhrase (b + 11) .comparisonLink) k none k := by
    intro b
    refine goes_plain rfl ?_
    iterate 10 refine chooses_next_word he (by simp [hline]) ?_
    exact chooses_nil
  refine goes_plain rfl (chooses_first ht (goes_readItems_part nofun (goes_phrase_part (hoperand _))
    (goes_readItems_part nofun (goes_atLeastOne_part (goes_readMany_cons (goes_phrase_part (hlink b))
      (goes_readMany_nil (goes_phrase_missing (hend _))))) goes_readItems_nil)) fun place hplace => ?_)
  simp [chain, spreadAll, h₁.spread, Node.spread, Node.row, Node.form, Node.parts, chainNode, hplace]

/-- The phrases above pass the chain on. -/
theorem goes_starExpressions (hM : Says M sentencePhrases 0 (some (chainNode t.line r n₁ n₂), k)) (b : Nat) :
    Goes M (s.readPhrase (b + 144) .starExpressions) 0 (some (chainNode t.line r n₁ n₂)) k := by
  have hcomparison := goes_comparison h₁ h₂ ht hw hkind hspelling he hline hM₁ hM₂
  have hfirst : ∀ c : String, c ≠ "-" → t.kind = .word → t.spelling ≠ c := fun c hc => h₁.not_word ht hc
  have hinversion : ∀ b, Goes M (s.readPhrase (b + 116) .inversion) 0 (some (chainNode t.line r n₁ n₂)) k := fun b =>
    goes_remembered ht rfl (hM _ (by decide)) (chooses_next_word ht (hfirst _ (by decide))
      (chooses_phrase ht (hcomparison _)))
  have hconjunction : ∀ b, Goes M (s.readPhrase (b + 121) .conjunction) 0 (some (chainNode t.line r n₁ n₂)) k := fun b =>
    goes_remembered ht rfl (hM _ (by decide)) (chooses_next_behind he (by rw [hline]; rfl) (hinversion _)
      (chooses_phrase ht (hinversion _)))
  have hdisjunction : ∀ b, Goes M (s.readPhrase (b + 126) .disjunction) 0 (some (chainNode t.line r n₁ n₂)) k := fun b =>
    goes_remembered ht rfl (hM _ (by decide)) (chooses_next_behind he (by rw [hline]; rfl) (hconjunction _)
      (chooses_phrase ht (hconjunction _)))
  have hany : ∀ b, Goes M (s.readPhrase (b + 133) .anyExpression) 0 (some (chainNode t.line r n₁ n₂)) k := by
    intro b
    refine goes_remembered ht rfl (hM _ (by decide)) ?_
    iterate 2 refine chooses_next (goes_readItems_missing nofun (goes_check _)) ?_
    exact chooses_next_behind he (by rw [hline]; rfl) (hdisjunction _) (chooses_phrase ht (hdisjunction _))
  have hstar : ∀ b, Goes M (s.readPhrase (b + 138) .starExpression) 0 (some (chainNode t.line r n₁ n₂)) k := fun b =>
    goes_remembered ht rfl (hM _ (by decide)) (chooses_next_word ht (hfirst _ (by decide))
      (chooses_phrase ht (hany _)))
  refine goes_plain rfl ?_
  iterate 2 refine chooses_next_behind he (by rw [hline]; rfl) (hstar _) ?_
  exact chooses_phrase ht (hstar _)

/-- The chain is the only statement of the text. -/
theorem goes_wholeText (hf : s.At (k + 1) f) (hfinish : f.kind = .finish) (hempty : f.spelling = "")
    (hM : Says M sentencePhrases 0 (some (chainNode t.line r n₁ n₂), k))
    (hstatement : M.table .simpleStatement 0 = (some (statementNode t.line (chainNode t.line r n₁ n₂)), k))
    (htarget : Says M targetPhrases 0 (none, 0)) (hend : ∀ p, M.table p (k + 1) = (none, k + 1)) (b : Nat) :
    Goes M (s.readPhrase (b + 171) .wholeText) 0
      (some (Node.row [statementNode t.line (chainNode t.line r n₁ n₂)])) (k + 2) := by
  obtain ⟨stmt, hstmt⟩ : ∃ stmt, stmt = statementNode t.line (chainNode t.line r n₁ n₂) := ⟨_, rfl⟩
  rw [← hstmt] at hstatement ⊢
  have hassignment := h₁.goes_assignmentStatement hw (endsOperand_relation hkind hspelling) htarget
  have hchain := goes_starExpressions h₁ h₂ ht hw hkind hspelling he hline hM₁ hM₂ hM
  have hsimple : ∀ b, Goes M (s.readPhrase (b + 149) .simpleStatement) 0 (some stmt) k := by
    intro b
    refine goes_remembered ht rfl hstatement (chooses_next_absent (hassignment _) (chooses_first ht
      (goes_readItems_part (by simp) (goes_phrase_part (hchain b)) goes_readItems_nil) fun place hplace => ?_))
    simp [collect, spreadAll, Node.spread, hstmt, statementNode, chainNode, hplace]
  have hnewline : ∀ b, Goes M (s.readItem (b + 1) .newline) k (.part (tokenNode e)) (k + 1) := by
    intro b
    rw [readItem]
    exact goes_take_part he (by simp [hline]) tokenNode
  have hsimpleLine : ∀ b, Goes M (s.readPhrase (b + 153) .simpleLine) 0 (some stmt) (k + 1) := fun b =>
    goes_plain rfl (chooses_first ht (goes_readItems_part (by simp) (goes_phrase_part (hsimple b))
      (goes_readItems_bare (by simp) (goes_notAhead_bare (goes_word_missing he (by simp [hline])))
        (goes_readItems_part (by simp) (hnewline _) goes_readItems_nil))) fun _ _ => rfl)
  have hany : ∀ b, Goes M (s.readPhrase (b + 158) .anyStatement) 0 (some stmt) (k + 1) := fun b =>
    goes_plain rfl (chooses_next_absent (h₁.goes_compoundStatement htarget _) (chooses_phrase ht (hsimpleLine _)))
  have hnoMore : ∀ b, Goes M (s.readPhrase b .anyStatement) (k + 1) none (k + 1) := by
    have hrefused : ∀ p ∈ unbegunByFinish, p.isRefused f.kind f.spelling unbegunByFinish.contains = true := by
      rw [hfinish, hempty]
      decide
    exact goes_phrase_absent hf hrefused (fun p _ _ => hend p) (by decide)
  have hrow : ∀ b, Goes M (s.readPhrase (b + 164) .statementRow) 0 (some (Node.row [stmt])) (k + 1) := fun b =>
    goes_plain rfl (chooses_first ht (goes_readItems_part (by simp) (goes_atLeastOne_part (goes_readMany_cons
      (goes_phrase_part (hany b)) (goes_readMany_nil (goes_phrase_missing (hnoMore _))))) goes_readItems_nil)
        fun _ _ => rfl)
  have hfinished : ∀ b, Goes M (s.readItem (b + 1) .finish) (k + 1) (.part (tokenNode f)) (k + 2) := by
    intro b
    rw [readItem]
    exact goes_take_part hf (by simp [hfinish]) tokenNode
  exact goes_plain rfl (chooses_first ht (goes_readItems_part (by simp) (goes_optional_part (chooses_phrase ht (hrow b)))
    (goes_readItems_part (by simp) (hfinished _) goes_readItems_nil)) fun _ _ => rfl)

end comparison

/-! ### Reading the tokens -/

/-- The tokens of an operand, its tree and its value. -/
inductive SpellsOperand (inner : Formatted.Inner) : List Token → Node → Value → Prop
  | literal {t : Token} {v : Value} (h : StandsFor inner t v) : SpellsOperand inner [t] (literalNode t v) v
  | negative {m t : Token} {v w : Value} (hkind : m.kind = .word) (hspelling : m.spelling = "-")
      (h : StandsFor inner t v) (hw : negate? v = some w) : SpellsOperand inner [m, t] (negativeNode m t v) w

/-- Nothing is held, and every phrase is absent. -/
def Memory.blank : Memory := ⟨fun _ i => (none, i), fun _ _ => False⟩

/-- The memory says something of more phrases at a place. -/
def Memory.knowing (M : Memory) (ps : List Phrase) (i : Nat) (r : Option Node × Nat) : Memory :=
  { M with table := fun q j => if q ∈ ps ∧ j = i then r else M.table q j }

theorem says_knowing (M : Memory) (ps : List Phrase) (i : Nat) (r : Option Node × Nat) :
    Says (M.knowing ps i r) ps i r := fun _ hp => if_pos ⟨hp, rfl⟩

theorem Memory.knowing_table {ps : List Phrase} {p : Phrase} (h : p ∉ ps ∨ j ≠ i) (M : Memory)
    (r : Option Node × Nat) : (M.knowing ps i r).table p j = M.table p j :=
  if_neg fun heq => h.elim (absurd heq.1) (absurd heq.2)

theorem Says.of_eq {M' : Memory} {ps : List Phrase} {q : Option Node × Nat} (h : Says M ps i q)
    (heq : ∀ p ∈ ps, M'.table p i = M.table p i) : Says M' ps i q :=
  fun p hp => (heq p hp).trans (h p hp)

theorem IsOperand.of_eq {M' : Memory} (h : IsOperand s M i j n)
    (heq : ∀ p k, i ≤ k → k < j → M'.table p k = M.table p k) : IsOperand s M' i j n := by
  cases h with
  | literal ht h hM => exact .literal ht h (hM.of_eq fun p _ => heq p i (by omega) (by omega))
  | negative hm hkind hspelling ht h hM hfactor =>
    exact .negative hm hkind hspelling ht h (hM.of_eq fun p _ => heq p (i + 1) (by omega) (by omega))
      ((heq _ i (by omega) (by omega)).trans hfactor)

theorem at_of_eq (before behind : List Token) (h : s.tokens.tokens = (before ++ t :: behind).toArray) :
    s.At before.length t := by
  simp [At, h]

/-- Of the tokens of an operand there is a memory that says no more than it must. -/
theorem SpellsOperand.exists_isOperand {ts : List Token} (h : SpellsOperand s.inner ts n v) (before behind : List Token)
    (htokens : s.tokens.tokens = (before ++ (ts ++ behind)).toArray) (M : Memory) :
    ∃ M', IsOperand s M' before.length (before.length + ts.length) n ∧
      Says M' operatorPhrases before.length (some n, before.length + ts.length) ∧
      (∀ p k, p ∉ literalPhrases ++ operatorPhrases ∨ k < before.length ∨ before.length + ts.length ≤ k →
        M'.table p k = M.table p k) ∧ M'.holds = M.holds := by
  cases h with
  | @literal t v h =>
    refine ⟨M.knowing (literalPhrases ++ operatorPhrases) before.length (some (literalNode t v), before.length + 1),
      .literal (at_of_eq before behind htokens) h fun p hp => ?_, fun p hp => ?_, fun p k hk => ?_, rfl⟩
    · exact says_knowing M _ _ _ p (List.mem_append_left _ hp)
    · exact says_knowing M _ _ _ p (List.mem_append_right _ hp)
    · refine Memory.knowing_table (hk.imp_right fun hk => ?_) M _
      simp only [List.length_singleton] at hk
      omega
  | @negative m t v w hkind hspelling h hw =>
    obtain ⟨r, hr⟩ : ∃ r, r = (some (negativeNode m t v), before.length + 2) := ⟨_, rfl⟩
    have hnext : s.At (before.length + 1) t := by
      have := at_of_eq (s := s) (t := t) (before ++ [m]) behind (by simpa using htokens)
      simpa using this
    refine ⟨(M.knowing literalPhrases (before.length + 1) (some (literalNode t v), before.length + 2)).knowing
      (.arithmeticFactor :: operatorPhrases) before.length r,
      .negative (at_of_eq before _ htokens) hkind hspelling hnext h ?_ ?_, ?_, fun p k hk => ?_, rfl⟩
    · exact (says_knowing M literalPhrases (before.length + 1) _).of_eq fun p _ =>
        Memory.knowing_table (.inr (by omega)) _ _
    · rw [← hr]
      exact says_knowing _ _ _ _ _ List.mem_cons_self
    · rw [List.length_cons, List.length_singleton, ← hr]
      exact fun p hp => says_knowing _ _ _ _ p (List.mem_cons_of_mem _ hp)
    · simp only [List.length_cons, List.length_nil] at hk
      rw [Memory.knowing_table ?_ _ _, Memory.knowing_table ?_ _ _]
      · exact hk.imp (fun hp hmem => hp (List.mem_append_left _ hmem)) fun hk => by omega
      · have hsub : ∀ q ∈ Phrase.arithmeticFactor :: operatorPhrases, q ∈ literalPhrases ++ operatorPhrases := by decide
        exact hk.imp (fun hp hmem => hp (hsub p hmem)) fun hk => by omega

/-- Of two operands with a token between them there is a memory that says no more than it must. -/
theorem SpellsOperand.exists_isOperands {left right behind : List Token} {a b : Value}
    (h₁ : SpellsOperand s.inner left n₁ a) (h₂ : SpellsOperand s.inner right n₂ b)
    (htokens : s.tokens.tokens = (left ++ w :: (right ++ behind)).toArray) (M : Memory) (hj : j = left.length)
    (hk : k = j + 1 + right.length) :
    ∃ M', IsOperand s M' 0 j n₁ ∧ IsOperand s M' (j + 1) k n₂ ∧ Says M' operatorPhrases 0 (some n₁, j) ∧
      Says M' operatorPhrases (j + 1) (some n₂, k) ∧
      (∀ p i, p ∉ literalPhrases ++ operatorPhrases ∨ k ≤ i → M'.table p i = M.table p i) ∧ M'.holds = M.holds := by
  obtain ⟨M₁, hleft, hM₁, hkeep₁, hholds₁⟩ := h₁.exists_isOperand [] _ htokens M
  obtain ⟨M₂, hright, hM₂, hkeep₂, hholds₂⟩ := h₂.exists_isOperand (left ++ [w]) behind (by simpa using htokens) M₁
  simp only [List.length_nil, Nat.zero_add, List.length_append, List.length_singleton, ← hj, ← hk]
    at hleft hM₁ hkeep₁ hright hM₂ hkeep₂
  -- the second operand changes nothing before it
  have hbefore : ∀ p i, i < j + 1 → M₂.table p i = M₁.table p i := fun p i hi => hkeep₂ p i (.inr (.inl hi))
  refine ⟨M₂, hleft.of_eq fun p i _ hi => hbefore p i (by omega), hright,
    hM₁.of_eq fun p _ => hbefore p 0 (by omega), hM₂, fun p i hp => ?_, hholds₂.trans hholds₁⟩
  rcases hp with hp | hi
  · rw [hkeep₂ p i (.inl hp), hkeep₁ p i (.inl hp)]
  · rw [hkeep₂ p i (.inr (.inr hi)), hkeep₁ p i (.inr (.inr (by omega)))]

namespace Memory

/-- What the memory says of the text besides its operands. -/
def ofStatement (line : Nat) (n : Node) (k : Nat) : Memory :=
  (blank.knowing sentencePhrases 0 (some n, k)).knowing [.simpleStatement] 0 (some (statementNode line n), k)

variable (line : Nat) (n : Node) (k : Nat)

theorem ofStatement_sentence : Says (ofStatement line n k) sentencePhrases 0 (some n, k) := by
  have hdisjoint : ∀ p ∈ sentencePhrases, p ∉ [Phrase.simpleStatement] := by decide
  exact (says_knowing blank _ _ _).of_eq fun p hp => knowing_table (.inl (hdisjoint p hp)) _ _

theorem ofStatement_statement : (ofStatement line n k).table .simpleStatement 0 = (some (statementNode line n), k) :=
  says_knowing _ _ _ _ _ List.mem_cons_self

theorem ofStatement_absent {p : Phrase} (h : p ∉ Phrase.simpleStatement :: sentencePhrases ∨ i ≠ 0) :
    (ofStatement line n k).table p i = (none, i) := by
  rw [ofStatement, knowing_table (h.imp_left fun hp => ?_), knowing_table (h.imp_left fun hp => ?_)]
  · rfl
  · exact fun hmem => hp (List.mem_cons_of_mem _ hmem)
  · exact fun hmem => hp (List.mem_singleton.1 hmem ▸ List.mem_cons_self)

/-- The reader starts with nothing held, so a memory that holds nothing stands. -/
theorem stands_start {M : Memory} (h : M.holds = blank.holds) : Stands M 0 State.start := by
  refine ⟨rfl, rfl, fun p i q hq => ?_, fun p i hp => ?_⟩
  · simp [State.start] at hq
  · rw [h] at hp
    exact hp.elim

end Memory

/-- Two operands with a relation between them and nothing else are read as the statement of one chain. -/
theorem read_comparison {left right : List Token} {a b : Value} (h₁ : SpellsOperand s.inner left n₁ a)
    (h₂ : SpellsOperand s.inner right n₂ b) (hkind : w.kind = .word) (hspelling : w.spelling = r.symbol)
    (hline : e.kind = .newline) (hfinish : f.kind = .finish) (hempty : f.spelling = "")
    (htokens : s.tokens.tokens = (left ++ w :: (right ++ [e, f])).toArray) :
    ∃ line, s.read .wholeText = .ok (Node.row [statementNode line (chainNode line r n₁ n₂)]) := by
  obtain ⟨t, ht⟩ : ∃ t, s.At 0 t := by
    cases h₁ <;> exact ⟨_, at_of_eq [] _ htokens⟩
  obtain ⟨j, hj⟩ : ∃ j, j = left.length := ⟨_, rfl⟩
  obtain ⟨k, hk⟩ : ∃ k, k = j + 1 + right.length := ⟨_, rfl⟩
  have hw : s.At j w := hj ▸ at_of_eq left _ htokens
  have he : s.At k e := by
    have := at_of_eq (s := s) (t := e) (left ++ w :: right) [f] (by simpa using htokens)
    rwa [show (left ++ w :: right).length = k by simp [hk, hj]; omega] at this
  have hf : s.At (k + 1) f := by
    have := at_of_eq (s := s) (t := f) (left ++ w :: (right ++ [e])) [] (by simpa using htokens)
    rwa [show (left ++ w :: (right ++ [e])).length = k + 1 by simp [hk, hj]; omega] at this
  obtain ⟨M, hleft, hright, hM₁, hM₂, hkeep, hholds⟩ :=
    h₁.exists_isOperands h₂ htokens (.ofStatement t.line (chainNode t.line r n₁ n₂) k) hj hk
  have hsentence : Says M sentencePhrases 0 (some (chainNode t.line r n₁ n₂), k) := by
    have hdisjoint : ∀ p ∈ sentencePhrases, p ∉ literalPhrases ++ operatorPhrases := by decide
    exact (Memory.ofStatement_sentence _ _ _).of_eq fun p hp => hkeep p 0 (.inl (hdisjoint p hp))
  have hstatement : M.table .simpleStatement 0 = (some (statementNode t.line (chainNode t.line r n₁ n₂)), k) :=
    (hkeep _ 0 (.inl (by decide))).trans (Memory.ofStatement_statement _ _ _)
  have htarget : Says M targetPhrases 0 (none, 0) := by
    have hdisjoint : ∀ p ∈ targetPhrases, p ∉ literalPhrases ++ operatorPhrases ∧
        p ∉ Phrase.simpleStatement :: sentencePhrases := by decide
    intro p hp
    obtain ⟨hother, hsentence⟩ := hdisjoint p hp
    rw [hkeep p 0 (.inl hother), Memory.ofStatement_absent _ _ _ (.inl hsentence)]
  have hend : ∀ p, M.table p (k + 1) = (none, k + 1) := fun p =>
    (hkeep p _ (.inr (by omega))).trans (Memory.ofStatement_absent _ _ _ (.inr (by omega)))
  have hgoes := goes_wholeText hleft hright ht hw hkind hspelling he hline hM₁ hM₂ hf hfinish hempty hsentence hstatement
    htarget hend
  obtain ⟨m, hm⟩ : ∃ m, s.bound = m + 171 := ⟨s.bound - 171, by simp only [bound]; omega⟩
  obtain ⟨st, hrun, -⟩ := hgoes m State.start (Memory.stands_start hholds)
  exact ⟨t.line, by rw [read, hm, hrun]⟩

end Rulebook.Expression.Source
