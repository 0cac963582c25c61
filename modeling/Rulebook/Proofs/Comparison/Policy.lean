import Rulebook.Proofs.Comparison.Caught
import Rulebook.Proofs.Expression.Direct
import Rulebook.Proofs.Expression.Evaluation
import Rulebook.Proofs.Log.Traced

/-!
# The policy of expressions

Of an expression under the policy comes a value or an error of its comparison. It comes to a value exactly if the first
statement of the text is an expression, and its evaluation comes to constants, minus signs and the four relations only;
the value is that of the expression.
-/

namespace Rulebook
open Expression Traced

/-- The statement is the first of a text that can be read. -/
def IsFirstStatement (t : Text) (n : Expression.Node) : Prop :=
  unreadable? t = none ∧ ∃ tree more, readText t = .ok tree ∧ tree.spread = n :: more

theorem IsFirstStatement.unique {t : Text} {n m : Expression.Node} (hn : IsFirstStatement t n) (hm : IsFirstStatement t m) :
    n = m := by
  obtain ⟨-, tree, more, htree, hspread⟩ := hn
  obtain ⟨-, tree', more', htree', hspread'⟩ := hm
  obtain rfl := Except.ok.inj (htree.symm.trans htree')
  exact (List.cons.inj (hspread.symm.trans hspread')).1

/-- An expression text ends in an error of evaluation. -/
def IsRefused (source : Text) : Prop :=
  ∃ e, (evaluatePolicy source).result = .error (.logic e) ∧ e.errorClass = .evaluation

theorem result_evaluatePolicy_eq_ok_iff {source : Text} {v : Value} :
    (evaluatePolicy source).result = .ok v ↔ evaluate source = .ok v := by
  rw [evaluatePolicy_eq]
  cases evaluate source with
  | ok w => simp
  | error fault => simp [Except.bind]

theorem isRefused_of_error {source : Text} {fault : Fault} (h : evaluate source = .error fault) : IsRefused source :=
  ⟨.comparison source fault, by rw [evaluatePolicy_eq, h]; rfl, rfl⟩

/-- Whatever the text is, it comes to a value or to an error of evaluation. -/
theorem result_or_isRefused (source : Text) : (∃ v, (evaluatePolicy source).result = .ok v) ∨ IsRefused source := by
  cases h : evaluate source with
  | ok v => exact .inl ⟨v, result_evaluatePolicy_eq_ok_iff.2 h⟩
  | error fault => exact .inr (isRefused_of_error h)

/-- A text has a value by the grammar exactly if its first statement has it. -/
theorem evaluateByGrammar_eq_ok_iff {source t : Text} {v : Value} :
    evaluateByGrammar source t = .ok v ↔ ∃ n, IsFirstStatement t n ∧ evaluateStatement source n = .ok v := by
  unfold evaluateByGrammar IsFirstStatement
  constructor
  · intro h
    split at h
    · cases h
    · next hreadable =>
      split at h
      · cases h
      · next tree htree =>
        split at h
        · cases h
        · next n more hspread => exact ⟨n, ⟨hreadable, tree, more, htree, hspread⟩, h⟩
  · rintro ⟨n, ⟨hreadable, tree, more, htree, hspread⟩, h⟩
    simp only [hreadable, htree, hspread, h]

/-- What an expression text comes to under the policy. -/
theorem evaluatePolicy_literals (source : Text) (h : source.IsUnicode) :
    ((∃ v, (evaluatePolicy source).result = .ok v) ∨ IsRefused source) ∧
    (∀ v, (evaluatePolicy source).result = .ok v ↔
      ∃ line value more, IsFirstStatement (Text.strip source) (.mk (.statement "Expr") line (value :: more)) ∧
        Yields value v ∧ ∀ s, Reaches value s → s.Allowed) ∧
    (∀ line value more s, IsFirstStatement (Text.strip source) (.mk (.statement "Expr") line (value :: more)) →
      Reaches value s → ¬s.Allowed → IsRefused source) ∧
    (∀ n, IsFirstStatement (Text.strip source) n → (∀ line value more, n ≠ .mk (.statement "Expr") line (value :: more)) →
      IsRefused source) ∧
    ((∀ n, ¬IsFirstStatement (Text.strip source) n) → IsRefused source) := by
  have hvalue : ∀ v, (evaluatePolicy source).result = .ok v ↔
      ∃ line value more, IsFirstStatement (Text.strip source) (.mk (.statement "Expr") line (value :: more)) ∧
        Yields value v ∧ ∀ s, Reaches value s → s.Allowed := by
    intro v
    rw [result_evaluatePolicy_eq_ok_iff, evaluate_eq_evaluateByGrammar h, evaluateByGrammar_eq_ok_iff]
    constructor
    · rintro ⟨n, hn, hv⟩
      obtain ⟨line, value, more, rfl, hv⟩ := evaluateStatement_eq_ok_iff.1 hv
      exact ⟨line, value, more, hn, evaluateNode_eq_ok_iff.1 hv⟩
    · rintro ⟨line, value, more, hn, hv⟩
      exact ⟨_, hn, evaluateStatement_eq_ok_iff.2 ⟨line, value, more, rfl, evaluateNode_eq_ok_iff.2 hv⟩⟩
  have houtcome := result_or_isRefused source
  refine ⟨houtcome, hvalue, fun line value more s hn hs hallowed => ?_, fun n hn hother => ?_, fun hnone => ?_⟩
  all_goals refine houtcome.resolve_left ?_
  all_goals
    rintro ⟨v, hv⟩
    obtain ⟨line', value', more', hn', -, hall⟩ := (hvalue v).1 hv
  · cases hn.unique hn'
    exact hallowed (hall s hs)
  · exact hother _ _ _ (hn.unique hn')
  · exact hnone _ hn'

/-- One is less than two, and the first statement says so; one is not comparable to a text. -/
theorem evaluatePolicy_literals_less :
    Text.IsUnicode [0x31, 0x20, 0x3c, 0x20, 0x32] ∧ Text.IsUnicode [0x31, 0x20, 0x3c, 0x20, 0x22, 0x61, 0x22] ∧
      (∃ line value more, IsFirstStatement [0x31, 0x20, 0x3c, 0x20, 0x32] (.mk (.statement "Expr") line (value :: more)) ∧
        Yields value (.bool true) ∧ ∀ s, Reaches value s → s.Allowed) ∧
      IsRefused [0x31, 0x20, 0x3c, 0x20, 0x22, 0x61, 0x22] := by
  have hless : Text.IsUnicode [0x31, 0x20, 0x3c, 0x20, 0x32] := by simp [Text.IsUnicode]
  have hmixed : Text.IsUnicode [0x31, 0x20, 0x3c, 0x20, 0x22, 0x61, 0x22] := by simp [Text.IsUnicode]
  refine ⟨hless, hmixed, ((evaluatePolicy_literals _ hless).2.1 (.bool true)).1 rfl, ?_⟩
  refine (evaluatePolicy_literals _ hmixed).1.resolve_left ?_
  rintro ⟨v, hv⟩
  cases hv

end Rulebook
