import Rulebook.Proofs.Comparison.Relation

/-!
# Lexical comparisons

The lexical operators compare texts by the order of their code points, although both texts are quoted, joined
into an expression, read again and evaluated. Only the limit on the length of literals shows.
-/

namespace Rulebook
open Expression

/-- The operators that compare texts as they stand. -/
def Operator.lexical : List Operator := [eq, ne, lt, gt]

theorem Operator.not_isRegex_of_lexical {op : Operator} (h : op ∈ lexical) : op.isRegex = false := by
  revert op; decide

theorem Operator.not_isNumeric_of_lexical {op : Operator} (h : op ∈ lexical) : op.isNumeric = false := by
  revert op; decide

theorem result_renderOperand_of_not_isNumeric {op : Operator} (h : op.isNumeric = false) (t : Text) :
    (renderOperand t op).result = .ok (Text.quote t) := by
  simp [renderOperand, h]

/-- The fault of a text that is too long for a literal. -/
def tooLong (t : Text) : Fault :=
  ⟨.literalTooLong, "Literal in statement is too long! (" ++ Text.ofNat t.length ++ ", when 100000 is max)"⟩

theorem constant_text (t : Text) :
    constant (.text t) = if maxLiteralLength < t.length then .error (tooLong t) else .ok (.text t) := rfl

/-- Texts within the limit are related by their order, and the first text beyond it is refused. -/
theorem relates_text (rel : Relation) (s t : Text) :
    relates (.text s) rel (.text t) =
      if maxLiteralLength < s.length then .error (tooLong s)
      else if maxLiteralLength < t.length then .error (tooLong t)
      else .ok (decide (rel.On s t)) := by
  simp only [relates, constant_text]
  split
  · rfl
  split
  · rfl
  · exact rel.holds_text s t

/-- The lexical comparison of two texts, with the expression that it goes through. -/
theorem result_compareTexts_lexical (limit : Int) (f v : Text) {op : Operator} (hop : op ∈ Operator.lexical)
    (negate : Bool) :
    (compareTexts limit f v op negate).result =
      (comparisonOutcome (joined (Text.quote f) op.symbol (Text.quote v))
        (relates (.text f) op.relation (.text v))).map (· ^^ negate) := by
  have hnum := Operator.not_isNumeric_of_lexical hop
  rw [result_compareTexts limit f v (Operator.not_isRegex_of_lexical hop),
    result_relate (Operator.not_isRegex_of_lexical hop) (result_renderOperand_of_not_isNumeric hnum f)
      (result_renderOperand_of_not_isNumeric hnum v) (isLiteral_quote f) (isLiteral_quote v)]

/-- Two texts within the limit compare by the order of code points; a longer one is an evaluation error and
nothing else is, with or without a negation. -/
theorem compareTexts_lexical (limit : Int) (f v : Text) (op : Operator) (hop : op ∈ Operator.lexical)
    (negate : Bool) :
    (f.length ≤ 100000 ∧ v.length ≤ 100000 →
      (compareTexts limit f v op negate).result = .ok (decide (op.relation.On f v) ^^ negate)) ∧
    ((∃ e, (compareTexts limit f v op negate).result = .error e) ↔ 100000 < f.length ∨ 100000 < v.length) ∧
    (∀ e, (compareTexts limit f v op negate).result = .error e →
      ∃ error : LogicError, e = .logic error ∧ error.errorClass = .evaluation) ∧
    ((∃ e, (compareTexts limit f v op (!negate)).result = .error e) ↔
      ∃ e, (compareTexts limit f v op negate).result = .error e) := by
  simp only [result_compareTexts_lexical limit f v hop, relates_text, show maxLiteralLength = 100000 from rfl]
  by_cases hf : 100000 < f.length
  · simp [hf, Nat.not_le.2 hf, comparisonOutcome, Except.map, LogicError.errorClass]
  by_cases hv : 100000 < v.length
  · simp [hf, hv, comparisonOutcome, Except.map, LogicError.errorClass]
  · simp [hf, hv, comparisonOutcome, Except.map]

/-- Quotes, backslashes, line feeds and lone surrogates are compared like any other code point. -/
theorem compareTexts_lexical_special :
    Operator.lt ∈ Operator.lexical ∧
      (compareTexts 1000 [0x22, 0x5c, 0x0a, 0xd800] [0x22, 0x5c, 0x0a, 0x10ffff] .lt true).result = .ok false :=
  ⟨by decide, (compareTexts_lexical 1000 _ _ .lt (by decide) true).1 ⟨by decide, by decide⟩⟩

end Rulebook
