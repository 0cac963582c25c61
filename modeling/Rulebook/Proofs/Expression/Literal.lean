import Rulebook.Expression.Evaluate
import Rulebook.Proofs.Text.Order
import Rulebook.Proofs.Text.Quoted
import Rulebook.Proofs.Text.Run

/-!
# Comparisons of two literals

What two literals with a relation between them come to. `IsLiteral l a` says that a text reads as the value
`a` wherever a space or nothing stands behind it; two such texts with the symbol of a relation between single
spaces evaluate to that relation of their values. A quoted text is such a literal.
-/

namespace Rulebook

namespace Text

theorem dropWhile_isSpace_cons {c : CodePoint} (h : isSpace c = false) (t : Text) :
    (c :: t).dropWhile isSpace = c :: t := by
  simp [h]

/-- A text with no white space at its ends is stripped of nothing. -/
theorem strip_eq_self {t : Text} (hfirst : ∃ c s, t = c :: s ∧ isSpace c = false)
    (hlast : ∃ s c, t = s ++ [c] ∧ isSpace c = false) : strip t = t := by
  obtain ⟨c, s, hs, hc⟩ := hfirst
  obtain ⟨u, d, hu, hd⟩ := hlast
  have hleft : stripLeftBy isSpace t = t := by rw [hs]; exact dropWhile_isSpace_cons hc s
  have hright : stripRightBy isSpace t = t := by
    rw [stripRightBy, hu, List.reverse_append, List.reverse_singleton, List.singleton_append,
      dropWhile_isSpace_cons hd]
    simp
  rw [strip, stripBy, hleft, hright]

end Text

namespace Expression

/-- What can stand behind a literal: nothing, or a space. -/
def Bounded (rest : Text) : Prop := rest = [] ∨ ∃ t, rest = 0x20 :: t

theorem bounded_nil : Bounded [] := .inl rfl

theorem bounded_cons (t : Text) : Bounded (0x20 :: t) := .inr ⟨t, rfl⟩

/-- The text reads as one literal of the value, and has no white space at its ends. -/
structure IsLiteral (l : Text) (a : Value) : Prop where
  reads : ∀ rest, Bounded rest → readLiteral (l ++ rest) = some (a, rest)
  opens : ∃ c s, l = c :: s ∧ Text.isSpace c = false
  closes : ∃ s c, l = s ++ [c] ∧ Text.isSpace c = false

theorem isLiteral_quote (t : Text) : IsLiteral (Text.quote t) (.text t) where
  reads rest _ := readLiteral_quote t rest
  opens := ⟨0x22, t.flatMap Text.written ++ [0x22], by rw [Text.quote_eq]; rfl, by decide⟩
  closes := ⟨0x22 :: t.flatMap Text.written, 0x22, by rw [Text.quote_eq], by decide⟩

/-- Two literals with a symbol between single spaces. -/
def joined (l : Text) (symbol : String) (r : Text) : Text := l ++ [0x20] ++ (symbol : Text) ++ [0x20] ++ r

theorem joined_eq (l : Text) (symbol : String) (r : Text) :
    joined l symbol r = l ++ 0x20 :: ((symbol : Text) ++ 0x20 :: r) := by
  simp [joined]

theorem readRelation_symbol (rel : Relation) (rest : Text) :
    readRelation (0x20 :: ((rel.symbol : Text) ++ 0x20 :: rest)) = some (rel, rest) := by
  cases rel <;> rfl

theorem strip_joined {l r : Text} {a b : Value} (hl : IsLiteral l a) (hr : IsLiteral r b) (symbol : String) :
    Text.strip (joined l symbol r) = joined l symbol r := by
  obtain ⟨c, s, hs, hc⟩ := hl.opens
  obtain ⟨u, d, hu, hd⟩ := hr.closes
  refine Text.strip_eq_self ⟨c, s ++ 0x20 :: ((symbol : Text) ++ 0x20 :: r), ?_, hc⟩
    ⟨l ++ 0x20 :: ((symbol : Text) ++ 0x20 :: u), d, ?_, hd⟩
  · rw [joined_eq, hs, List.cons_append]
  · rw [joined_eq, hu]; simp

theorem readDirect_joined {l r : Text} {a b : Value} (hl : IsLiteral l a) (hr : IsLiteral r b) (rel : Relation) :
    readDirect (joined l rel.symbol r) = some (a, rel, b) := by
  have hleft := hl.reads _ (bounded_cons ((rel.symbol : Text) ++ 0x20 :: r))
  have hright : readLiteral r = some (b, []) := by simpa using hr.reads [] bounded_nil
  simp [readDirect, joined_eq, hleft, readRelation_symbol, hright]

/-- Two literals with the symbol of a relation between them evaluate to the relation of their values. -/
theorem evaluate_joined {l r : Text} {a b : Value} (hl : IsLiteral l a) (hr : IsLiteral r b) (rel : Relation) :
    evaluate (joined l rel.symbol r) = compareLiterals a rel b := by
  simp [evaluate, strip_joined hl hr, readDirect_joined hl hr]

namespace Relation

variable {α : Type} [LT α]

/-- A relation on an ordered type. -/
def On : Relation → α → α → Prop
  | equal, a, b => a = b
  | notEqual, a, b => a ≠ b
  | less, a, b => a < b
  | greater, a, b => b < a

instance [DecidableEq α] [DecidableLT α] (rel : Relation) (a b : α) : Decidable (rel.On a b) :=
  match rel with
  | equal => inferInstanceAs (Decidable (a = b))
  | notEqual => inferInstanceAs (Decidable (a ≠ b))
  | less => inferInstanceAs (Decidable (a < b))
  | greater => inferInstanceAs (Decidable (b < a))

theorem less_holds_of_order {v w : Value} {o : Option Ordering} (h : order? v w = some o) :
    less.holds v w = .ok (o == some .lt) := by
  simp only [holds, h]

theorem greater_holds_of_order {v w : Value} {o : Option Ordering} (h : order? v w = some o) :
    greater.holds v w = .ok (o == some .gt) := by
  simp only [holds, h]

/-- Texts are related by the order of their code points. -/
theorem holds_text (rel : Relation) (s t : Text) : rel.holds (.text s) (.text t) = .ok (decide (rel.On s t)) := by
  cases rel with
  | equal => simp [holds, Value.equal, On, ← Text.same_iff]
  | notEqual => simp [holds, Value.equal, On, ← Text.same_iff]
  | less =>
    rw [less_holds_of_order (v := .text s) rfl]
    simp only [On, ← Text.order_eq_lt_iff]
    rfl
  | greater =>
    rw [greater_holds_of_order (v := .text s) rfl]
    simp only [On, ← Text.order_eq_gt_iff]
    rfl

end Relation

end Expression

end Rulebook
