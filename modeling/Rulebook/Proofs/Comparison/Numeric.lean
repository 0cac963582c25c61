import Rulebook.Proofs.Comparison.Denotation
import Rulebook.Proofs.Comparison.Lexical
import Rulebook.Proofs.Outcome

/-!
# Numeric comparisons

The numeric operators compare two number texts by the numbers they denote, each exactly, although both are
converted, written as literals and read again. Two texts of which neither looks like a number compare as texts; a
number and a text are never equal and have no order.
-/

namespace Rulebook
open Expression Text

/-- The operators that compare numbers. -/
def Operator.numeric : List Operator := [numLt, numGt, numEq]

theorem Operator.not_isRegex_of_numeric {op : Operator} (h : op ∈ numeric) : op.isRegex = false := by
  revert op; decide

theorem Operator.isNumeric_of_numeric {op : Operator} (h : op ∈ numeric) : op.isNumeric = true := by
  revert op; decide

theorem Operator.relation_of_numeric {op : Operator} (h : op ∈ numeric) (hne : op ≠ .numEq) :
    op.relation = .less ∨ op.relation = .greater := by
  revert op; decide

/-! ### Operands -/

/-- The operand is written as a literal of the value. -/
def Written (op : Operator) (t : Text) (a : Value) : Prop :=
  ∃ l, (renderOperand t op).result = .ok l ∧ IsLiteral l a

section operands
variable {op : Operator} (hop : op ∈ Operator.numeric) {t : Text}
include hop

/-- A text that looks like no number is quoted. -/
theorem written_text (h : ¬NumberLike t) : Written op t (.text t) := by
  have hread : NumberText.read? t = none := by
    rw [Option.eq_none_iff_forall_ne_some]
    exact fun n hn => h ⟨n, NumberText.spells_of_read? hn⟩
  exact ⟨quote t, by simp [renderOperand, Operator.isNumeric_of_numeric hop, hread], isLiteral_quote t⟩

/-- A number text within the limit is written as a number that it denotes. -/
theorem exists_written (h : NumberLike t) (hsize : ¬Oversized t) :
    ∃ a x, Written op t a ∧ IsNumber a x ∧ Denotes t x := by
  obtain ⟨n, hn⟩ := h
  have hlength : n.isInteger = true → n.whole.length ≤ 4300 := fun hi =>
    Nat.not_lt.1 fun hlong => hsize (.inl ⟨n, hn, hi, hlong⟩)
  obtain ⟨l, a, x, hliteral, hreads, hnumber, hdenotes⟩ := exists_literal hn hlength
  refine ⟨a, x, ⟨l, ?_, hreads⟩, hnumber, hdenotes⟩
  simp [renderOperand, Operator.isNumeric_of_numeric hop, NumberText.read?_of_spells hn, hliteral]

/-- A number text beyond the limit cannot be written. -/
theorem result_renderOperand_oversized (h : NumberLike t) (hsize : Oversized t) :
    ∃ fault, (renderOperand t op).result = .error (.logic (.operand (strip t) fault)) := by
  rcases hsize with ⟨n, hn, hi, hlong⟩ | ⟨hlike, -⟩
  · have hlimit : maxIntegerDigits < n.whole.length := hlong
    obtain ⟨fault, hfault⟩ : ∃ fault, n.literal = .error fault := by
      simp [NumberText.literal, hi, hlimit]
    exact ⟨fault, by
      simp [renderOperand, Operator.isNumeric_of_numeric hop, NumberText.read?_of_spells hn, hfault]; rfl⟩
  · exact absurd h hlike

/-- Within the limits an operand is written as a value that is held. -/
theorem exists_written_constant (hsize : ¬Oversized t) : ∃ a, Written op t a ∧ constant a = .ok a := by
  by_cases h : NumberLike t
  · obtain ⟨a, x, hwritten, hnumber, -⟩ := exists_written hop h hsize
    exact ⟨a, hwritten, hnumber.constant_eq⟩
  · have hlength : ¬maxLiteralLength < t.length := fun hlong => hsize (.inr ⟨h, hlong⟩)
    exact ⟨.text t, written_text hop h, by rw [constant_text, if_neg hlength]⟩

theorem written_or_error (t : Text) : (∃ a, Written op t a) ∨
    ∃ fault, (renderOperand t op).result = .error (.logic (.operand (strip t) fault)) := by
  by_cases hsize : Oversized t
  · by_cases h : NumberLike t
    · exact .inr (result_renderOperand_oversized hop h hsize)
    · exact .inl ⟨.text t, written_text hop h⟩
  · exact .inl ((exists_written_constant hop hsize).imp fun _ h => h.1)

/-- Beyond the limits an operand cannot be written, or is written as a value that is refused. -/
theorem error_or_refused (hsize : Oversized t) :
    (∃ fault, (renderOperand t op).result = .error (.logic (.operand (strip t) fault))) ∨
      ∃ a fault, Written op t a ∧ constant a = .error fault := by
  by_cases h : NumberLike t
  · exact .inl (result_renderOperand_oversized hop h hsize)
  · rcases hsize with ⟨n, hn, -⟩ | ⟨-, hlong⟩
    · exact absurd ⟨n, hn⟩ h
    · exact .inr ⟨.text t, tooLong t, written_text hop h, by rw [constant_text]; exact if_pos hlong⟩

end operands

/-! ### Relations of the values -/

variable {a b : Value} {rel : Relation}

theorem relates_of_constant (ha : constant a = .ok a) (hb : constant b = .ok b) :
    relates a rel b = rel.holds a b := by
  simp [relates, ha, hb]

theorem relates_of_refused (h : (∃ fault, constant a = .error fault) ∨ ∃ fault, constant b = .error fault) :
    ∃ fault, relates a rel b = .error fault := by
  rcases h with ⟨fault, h⟩ | ⟨fault, h⟩
  · exact ⟨fault, by simp [relates, h]⟩
  · cases ha : constant a with
    | error fault' => exact ⟨fault', by simp [relates, ha]⟩
    | ok a' => exact ⟨fault, by simp [relates, ha, h]⟩

/-- A number and a text are not equal. -/
theorem holds_equal_mixed {x : ExtendedRational} {t : Text}
    (h : IsNumber a x ∧ b = .text t ∨ a = .text t ∧ IsNumber b x) : Relation.equal.holds a b = .ok false := by
  rcases h with ⟨h, rfl⟩ | ⟨rfl, h⟩ <;> cases h <;>
    simp [Relation.holds, Value.equal, Value.equalNumbers, Value.equalReals, Value.asInteger?]

/-- A number and a text have no order. -/
theorem holds_order_mixed {x : ExtendedRational} {t : Text}
    (h : IsNumber a x ∧ b = .text t ∨ a = .text t ∧ IsNumber b x) (hrel : rel = .less ∨ rel = .greater) :
    ∃ fault, rel.holds a b = .error fault := by
  have horder : order? a b = none := by rcases h with ⟨h, rfl⟩ | ⟨rfl, h⟩ <;> cases h <;> rfl
  rcases hrel with rfl | rfl <;> simp [Relation.holds, horder]

/-! ### Comparisons -/

/-- The comparison ends in an evaluation error. -/
def EndsInEvaluationError (x : Traced Bool) : Prop :=
  ∃ error : LogicError, x.result = .error (.logic error) ∧ error.errorClass = .evaluation

theorem EndsInEvaluationError.ne_ok {x : Traced Bool} (h : EndsInEvaluationError x) (b : Bool) :
    x.result ≠ .ok b := by
  obtain ⟨error, herror, -⟩ := h
  rw [herror]
  exact nofun

/-- The comparison is refused: an operand is beyond the limits, or a number text and another text are to be
ordered. -/
def Refused (f v : Text) (op : Operator) : Prop :=
  Oversized f ∨ Oversized v ∨ (op ≠ .numEq ∧ (NumberLike f ↔ ¬NumberLike v))

section comparisons
variable (limit : Int) {f v : Text} {op : Operator} (hop : op ∈ Operator.numeric) (negate : Bool)
include hop

/-- Operands that are written compare as their values. -/
theorem exists_result_of_written (hf : Written op f a) (hv : Written op v b) :
    ∃ expression, (compareTexts limit f v op negate).result =
      (comparisonOutcome expression (relates a op.relation b)).map (· ^^ negate) := by
  obtain ⟨l, hl, hreadsl⟩ := hf
  obtain ⟨r, hr, hreadsr⟩ := hv
  have hregex := Operator.not_isRegex_of_numeric hop
  exact ⟨_, by rw [result_compareTexts limit f v hregex, result_relate hregex hl hr hreadsl hreadsr]⟩

theorem result_of_relates (hf : Written op f a) (hv : Written op v b) {holds : Bool}
    (h : relates a op.relation b = .ok holds) :
    (compareTexts limit f v op negate).result = .ok (holds ^^ negate) := by
  obtain ⟨expression, hresult⟩ := exists_result_of_written limit hop negate hf hv
  rw [hresult, h]
  rfl

theorem evaluationError_of_relates (hf : Written op f a) (hv : Written op v b)
    (h : ∃ fault, relates a op.relation b = .error fault) :
    EndsInEvaluationError (compareTexts limit f v op negate) := by
  obtain ⟨expression, hresult⟩ := exists_result_of_written limit hop negate hf hv
  obtain ⟨fault, h⟩ := h
  exact ⟨.comparison expression fault, by rw [hresult, h]; rfl, rfl⟩

/-- An operand that cannot be written is an evaluation error. -/
theorem evaluationError_of_operand
    (h : (∃ fault, (renderOperand f op).result = .error (.logic (.operand (strip f) fault))) ∨
      ∃ fault, (renderOperand v op).result = .error (.logic (.operand (strip v) fault))) :
    EndsInEvaluationError (compareTexts limit f v op negate) := by
  have hends : ∀ {t fault},
      ((renderOperand f op).result = .error (.logic (.operand t fault)) ∨
        (∃ l, (renderOperand f op).result = .ok l) ∧
          (renderOperand v op).result = .error (.logic (.operand t fault))) →
      EndsInEvaluationError (compareTexts limit f v op negate) := fun {t fault} h =>
    ⟨.operand t fault, by
      rw [result_compareTexts limit f v (Operator.not_isRegex_of_numeric hop), result_relate_error h]; rfl, rfl⟩
  rcases h with ⟨fault, h⟩ | ⟨fault, h⟩
  · exact hends (.inl h)
  · rcases written_or_error hop f with ⟨a, l, hl, -⟩ | ⟨fault', hf⟩
    · exact hends (.inr ⟨⟨l, hl⟩, h⟩)
    · exact hends (.inl hf)

/-- An operand beyond the limits is an evaluation error. -/
theorem evaluationError_of_oversized (h : Oversized f ∨ Oversized v) :
    EndsInEvaluationError (compareTexts limit f v op negate) := by
  rcases h with h | h
  · rcases error_or_refused hop h with herror | ⟨a, fault, ha, hfault⟩
    · exact evaluationError_of_operand limit hop negate (.inl herror)
    · rcases written_or_error hop v with ⟨b, hb⟩ | herror
      · exact evaluationError_of_relates limit hop negate ha hb (relates_of_refused (.inl ⟨fault, hfault⟩))
      · exact evaluationError_of_operand limit hop negate (.inr herror)
  · rcases error_or_refused hop h with herror | ⟨b, fault, hb, hfault⟩
    · exact evaluationError_of_operand limit hop negate (.inr herror)
    · rcases written_or_error hop f with ⟨a, ha⟩ | herror
      · exact evaluationError_of_relates limit hop negate ha hb (relates_of_refused (.inr ⟨fault, hfault⟩))
      · exact evaluationError_of_operand limit hop negate (.inl herror)

variable (hf : ¬Oversized f) (hv : ¬Oversized v)
include hf hv

/-- Two number texts compare as the numbers they denote. -/
theorem result_compareTexts_numbers {x y : ExtendedRational} (hx : Denotes f x) (hy : Denotes v y) :
    (compareTexts limit f v op negate).result = .ok (decide (op.relation.On x y) ^^ negate) := by
  obtain ⟨a, x', ha, hax, hx'⟩ := exists_written hop hx.numberLike hf
  obtain ⟨b, y', hb, hby, hy'⟩ := exists_written hop hy.numberLike hv
  refine result_of_relates limit hop negate ha hb ?_
  rw [relates_of_constant hax.constant_eq hby.constant_eq, op.relation.holds_number hax hby, hx.unique hx',
    hy.unique hy']

/-- Two texts that look like no numbers compare by their code points. -/
theorem result_compareTexts_texts (hlikef : ¬NumberLike f) (hlikev : ¬NumberLike v) :
    (compareTexts limit f v op negate).result = .ok (decide (op.relation.On f v) ^^ negate) := by
  refine result_of_relates limit hop negate (written_text hop hlikef) (written_text hop hlikev) ?_
  have hlengthf : ¬maxLiteralLength < f.length := fun h => hf (.inr ⟨hlikef, h⟩)
  have hlengthv : ¬maxLiteralLength < v.length := fun h => hv (.inr ⟨hlikev, h⟩)
  rw [relates_text, if_neg hlengthf, if_neg hlengthv]

/-- The operands of which one looks like a number and one does not. -/
theorem exists_written_mixed (h : NumberLike f ↔ ¬NumberLike v) :
    ∃ a b x t, Written op f a ∧ Written op v b ∧ (IsNumber a x ∧ b = .text t ∨ a = .text t ∧ IsNumber b x) ∧
      relates a op.relation b = op.relation.holds a b := by
  have hconstant : ∀ {t : Text}, ¬Oversized t → ¬NumberLike t → constant (.text t) = .ok (.text t) := fun hsize h => by
    rw [constant_text]
    exact if_neg fun hlong => hsize (.inr ⟨h, hlong⟩)
  by_cases hlike : NumberLike f
  · obtain ⟨a, x, ha, hax, -⟩ := exists_written hop hlike hf
    exact ⟨a, .text v, x, v, ha, written_text hop (h.1 hlike), .inl ⟨hax, rfl⟩,
      relates_of_constant hax.constant_eq (hconstant hv (h.1 hlike))⟩
  · obtain ⟨b, x, hb, hbx, -⟩ := exists_written hop (not_not.1 (mt h.2 hlike)) hv
    exact ⟨.text f, b, x, f, written_text hop hlike, hb, .inr ⟨rfl, hbx⟩,
      relates_of_constant (hconstant hf hlike) hbx.constant_eq⟩

/-- A number text and another text are not equal. -/
theorem result_compareTexts_mixed (h : NumberLike f ↔ ¬NumberLike v) (heq : op = .numEq) :
    (compareTexts limit f v op negate).result = .ok negate := by
  obtain ⟨a, b, x, t, ha, hb, hmixed, hrelates⟩ := exists_written_mixed hop hf hv h
  have hholds : relates a op.relation b = .ok false := by
    rw [hrelates, heq]
    exact holds_equal_mixed hmixed
  simpa using result_of_relates limit hop negate ha hb hholds

/-- A number text and another text have no order. -/
theorem evaluationError_of_mixed (h : NumberLike f ↔ ¬NumberLike v) (hne : op ≠ .numEq) :
    EndsInEvaluationError (compareTexts limit f v op negate) := by
  obtain ⟨a, b, x, t, ha, hb, hmixed, hrelates⟩ := exists_written_mixed hop hf hv h
  obtain ⟨fault, hfault⟩ := holds_order_mixed hmixed (Operator.relation_of_numeric hop hne)
  exact evaluationError_of_relates limit hop negate ha hb ⟨fault, hrelates.trans hfault⟩

end comparisons

/-- A comparison ends in a result, or it is refused and ends in an evaluation error. -/
theorem result_or_evaluationError (limit : Int) (f v : Text) {op : Operator} (hop : op ∈ Operator.numeric)
    (negate : Bool) :
    ((∃ b, (compareTexts limit f v op negate).result = .ok b) ∧ ¬Refused f v op) ∨
      (EndsInEvaluationError (compareTexts limit f v op negate) ∧ Refused f v op) := by
  by_cases hsize : Oversized f ∨ Oversized v
  · exact .inr ⟨evaluationError_of_oversized limit hop negate hsize, or_assoc.1 (.inl hsize)⟩
  obtain ⟨hf, hv⟩ := not_or.1 hsize
  have hnot : ¬(op ≠ .numEq ∧ (NumberLike f ↔ ¬NumberLike v)) → ¬Refused f v op := by
    simp [Refused, hf, hv]
  by_cases hmixed : NumberLike f ↔ ¬NumberLike v
  · by_cases heq : op = .numEq
    · exact .inl ⟨⟨_, result_compareTexts_mixed limit hop negate hf hv hmixed heq⟩, hnot fun h => h.1 heq⟩
    · exact .inr ⟨evaluationError_of_mixed limit hop negate hf hv hmixed heq, .inr (.inr ⟨heq, hmixed⟩)⟩
  refine .inl ⟨?_, hnot fun h => hmixed h.2⟩
  by_cases hlike : NumberLike f
  · obtain ⟨x, hx, -⟩ := hlike.existsUnique_denotes
    have hlikev : NumberLike v := not_not.1 fun h => hmixed ⟨fun _ => h, fun _ => hlike⟩
    obtain ⟨y, hy, -⟩ := hlikev.existsUnique_denotes
    exact ⟨_, result_compareTexts_numbers limit hop negate hf hv hx hy⟩
  · have hlikev : ¬NumberLike v := fun h => hmixed ⟨fun h' => absurd h' hlike, fun h' => absurd h h'⟩
    exact ⟨_, result_compareTexts_texts limit hop negate hf hv hlike hlikev⟩

section order
variable (limit : Int) {f v w : Text} {op : Operator} (hop : op ∈ Operator.numeric)
include hop

/-- A comparison of number texts without a negation holds exactly if the numbers are within the limits and so
related. -/
theorem holds_numbers_iff {x y : ExtendedRational} (hx : Denotes f x) (hy : Denotes v y) :
    (compareTexts limit f v op false).result = .ok true ↔
      ¬Oversized f ∧ ¬Oversized v ∧ op.relation.On x y := by
  by_cases hsize : Oversized f ∨ Oversized v
  · have hne := (evaluationError_of_oversized limit hop false hsize).ne_ok true
    exact ⟨fun h => absurd h hne, fun h => (hsize.elim h.1 h.2.1).elim⟩
  · obtain ⟨hf, hv⟩ := not_or.1 hsize
    rw [result_compareTexts_numbers limit hop false hf hv hx hy]
    simp [hf, hv]

/-- The numeric operators are transitive on number texts. -/
theorem holds_numbers_trans (hf : NumberLike f) (hv : NumberLike v) (hw : NumberLike w)
    (hfv : (compareTexts limit f v op false).result = .ok true)
    (hvw : (compareTexts limit v w op false).result = .ok true) :
    (compareTexts limit f w op false).result = .ok true := by
  obtain ⟨x, hx, -⟩ := hf.existsUnique_denotes
  obtain ⟨y, hy, -⟩ := hv.existsUnique_denotes
  obtain ⟨z, hz, -⟩ := hw.existsUnique_denotes
  obtain ⟨hsizef, -, hxy⟩ := (holds_numbers_iff limit hop hx hy).1 hfv
  obtain ⟨-, hsizew, hyz⟩ := (holds_numbers_iff limit hop hy hz).1 hvw
  refine (holds_numbers_iff limit hop hx hz).2 ⟨hsizef, hsizew, ?_⟩
  simp only [Operator.numeric, List.mem_cons, List.not_mem_nil, or_false] at hop
  rcases hop with rfl | rfl | rfl
  · exact lt_trans hxy hyz
  · exact lt_trans hyz hxy
  · exact Eq.trans hxy hyz

end order

/-- Of two number texts within the limits exactly one is less than, greater than or equal to the other. -/
theorem existsUnique_holds_numbers (limit : Int) {f v : Text} (hf : NumberLike f) (hv : NumberLike v)
    (hsizef : ¬Oversized f) (hsizev : ¬Oversized v) :
    ∃! op, op ∈ Operator.numeric ∧ (compareTexts limit f v op false).result = .ok true := by
  obtain ⟨x, hx, -⟩ := hf.existsUnique_denotes
  obtain ⟨y, hy, -⟩ := hv.existsUnique_denotes
  have hiff : ∀ op, op ∈ Operator.numeric ∧ (compareTexts limit f v op false).result = .ok true ↔
      op ∈ Operator.numeric ∧ op.relation.On x y := fun op => and_congr_right fun hop => by
    rw [holds_numbers_iff limit hop hx hy]
    simp [hsizef, hsizev]
  simp only [hiff]
  have hunique : ∀ op ∈ Operator.numeric, ∀ op' ∈ Operator.numeric, op.relation.On x y → op'.relation.On x y →
      op = op' := by
    simp only [Operator.numeric, List.forall_mem_cons, List.not_mem_nil, false_imp_iff, implies_true, and_true,
      Operator.relation, Relation.On]
    grind
  obtain ⟨op, hop, hon⟩ : ∃ op, op ∈ Operator.numeric ∧ op.relation.On x y := by
    rcases lt_trichotomy x y with h | h | h
    · exact ⟨.numLt, by decide, h⟩
    · exact ⟨.numEq, by decide, h⟩
    · exact ⟨.numGt, by decide, h⟩
  exact ⟨op, ⟨hop, hon⟩, fun op' h => hunique op' h.1 op hop h.2 hon⟩

/-- The numeric operators compare exact denotations. Two number texts compare as the numbers they denote, so that
one of the three relations holds and each is transitive; two other texts compare by their code points; a number
text and another text are not equal. An operand beyond the limits and an order between a number and a text are
evaluation errors, and nothing else is an error. -/
theorem compareTexts_numeric (limit : Int) (f v : Text) :
    (∀ op ∈ Operator.numeric, ∀ negate,
      (¬Oversized f → ¬Oversized v →
        (∀ x y, Denotes f x → Denotes v y →
          (compareTexts limit f v op negate).result = .ok (decide (op.relation.On x y) ^^ negate)) ∧
        (¬NumberLike f → ¬NumberLike v →
          (compareTexts limit f v op negate).result = .ok (decide (op.relation.On f v) ^^ negate)) ∧
        ((NumberLike f ↔ ¬NumberLike v) → op = .numEq →
          (compareTexts limit f v op negate).result = .ok negate)) ∧
      ((∃ e, (compareTexts limit f v op negate).result = .error e) ↔
        Oversized f ∨ Oversized v ∨ (op ≠ .numEq ∧ (NumberLike f ↔ ¬NumberLike v))) ∧
      (∀ e, (compareTexts limit f v op negate).result = .error e →
        ∃ error : LogicError, e = .logic error ∧ error.errorClass = .evaluation)) ∧
    (∀ t, NumberLike t → ∃! x, Denotes t x) ∧
    (NumberLike f → NumberLike v → ¬Oversized f → ¬Oversized v →
      ∃! op, op ∈ Operator.numeric ∧ (compareTexts limit f v op false).result = .ok true) ∧
    (∀ op ∈ Operator.numeric, ∀ w, NumberLike f → NumberLike v → NumberLike w →
      (compareTexts limit f v op false).result = .ok true → (compareTexts limit v w op false).result = .ok true →
        (compareTexts limit f w op false).result = .ok true) := by
  refine ⟨fun op hop negate => ⟨fun hf hv => ⟨?_, ?_, ?_⟩, ?_, ?_⟩, fun t ht => ht.existsUnique_denotes, ?_, ?_⟩
  · exact fun x y hx hy => result_compareTexts_numbers limit hop negate hf hv hx hy
  · exact fun hlikef hlikev => result_compareTexts_texts limit hop negate hf hv hlikef hlikev
  · exact fun hmixed heq => result_compareTexts_mixed limit hop negate hf hv hmixed heq
  · change _ ↔ Refused f v op
    rcases result_or_evaluationError limit f v hop negate with
      ⟨⟨b, hb⟩, hrefused⟩ | ⟨⟨error, herror, -⟩, hrefused⟩
    · simp [hb, hrefused]
    · simp [herror, hrefused]
  · rintro e he
    rcases result_or_evaluationError limit f v hop negate with ⟨⟨b, hb⟩, -⟩ | ⟨⟨error, herror, hclass⟩, -⟩
    · exact absurd (hb.symm.trans he) nofun
    · exact ⟨error, Except.error.inj (he.symm.trans herror), hclass⟩
  · exact fun hf hv hsizef hsizev => existsUnique_holds_numbers limit hf hv hsizef hsizev
  · exact fun op hop w hf hv hw => holds_numbers_trans limit hop hf hv hw

/-- An integer that no double holds is greater than the double next to it; a number and a word have no order. -/
theorem compareTexts_numeric_exact :
    Denotes "9007199254740993" (.ofRat 9007199254740993) ∧ Denotes "9007199254740992.0" (.ofRat 9007199254740992) ∧
      (compareTexts 1000 "9007199254740993" "9007199254740992.0" .numGt false).result = .ok true ∧
      (compareTexts 1000 "9007199254740993" "many" .numEq true).result = .ok true := by
  have hf : Spells "9007199254740993" ⟨false, [9, 0, 0, 7, 1, 9, 9, 2, 5, 4, 7, 4, 0, 9, 9, 3], [], false, none⟩ :=
    NumberText.spells_of_read? (by decide +kernel)
  have hv : Spells "9007199254740992.0"
      ⟨false, [9, 0, 0, 7, 1, 9, 9, 2, 5, 4, 7, 4, 0, 9, 9, 2], [0], true, none⟩ :=
    NumberText.spells_of_read? (by decide +kernel)
  have hfx : Denotes "9007199254740993" (.ofRat 9007199254740993) := by
    have h := Denotes.integer hf rfl
    norm_num [NumberText.toInt, valueOfDigits] at h
    exact h
  have hvy : Denotes "9007199254740992.0" (.ofRat 9007199254740992) := by
    have h := Denotes.real (x := .finite false 4503599627370496 1) hv rfl (by decide +kernel) (.finite _ _ _)
    norm_num [Double.finiteValue] at h
    exact h
  have hmany : ¬NumberLike "many" := by
    rintro ⟨n, hn⟩
    exact absurd (NumberText.read?_of_spells hn) (by simp [show NumberText.read? "many" = none by decide +kernel])
  have hsizef := not_oversized_of_spells hf (by decide)
  have hsizev := not_oversized_of_spells hv (by decide)
  have hsizemany : ¬Oversized "many" := by
    rintro (⟨n, hn, -⟩ | ⟨-, hlong⟩)
    · exact hmany ⟨n, hn⟩
    · exact absurd hlong (by decide)
  refine ⟨hfx, hvy, ?_, ?_⟩
  · have h := ((compareTexts_numeric 1000 _ _).1 .numGt (by decide) false).1 hsizef hsizev |>.1 _ _ hfx hvy
    have hgreater : Operator.numGt.relation.On (ExtendedRational.ofRat 9007199254740993)
        (.ofRat 9007199254740992) := ExtendedRational.ofRat_lt.2 (by norm_num)
    rw [h, decide_eq_true hgreater]
    rfl
  · exact ((compareTexts_numeric 1000 _ _).1 .numEq (by decide) true).1 hsizef hsizemany |>.2.2
      ⟨fun _ => hmany, fun _ => ⟨_, hf⟩⟩ rfl

end Rulebook
