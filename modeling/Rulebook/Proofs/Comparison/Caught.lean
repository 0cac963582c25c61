import Rulebook.Comparison.Comparator

/-!
# Faults of expressions

Whatever goes wrong in an expression is of a kind that becomes an error of the comparison: that it cannot be read,
that one of its forms or operators is not evaluated, or that its values do not fit.
-/

namespace Rulebook
open Expression

/-- The computation fails only in ways that become errors of the comparison. -/
def Caught {α : Type} (x : Except Fault α) : Prop := ∀ f, x = .error f → f.kind ∈ comparisonFaults

namespace Caught
variable {α β : Type} {x : Except Fault α} {f : α → Except Fault β}

theorem ok (a : α) : Caught (.ok a) := nofun

theorem error {kind : FaultKind} (message : Text) (h : kind ∈ comparisonFaults) :
    Caught (.error ⟨kind, message⟩ : Except Fault α) := by
  rintro _ ⟨⟩
  exact h

theorem bind (hx : Caught x) (hf : ∀ a, x = .ok a → Caught (f a)) : Caught (x >>= f) := by
  cases x with
  | error e => exact error e.message (hx e rfl)
  | ok a => exact hf a rfl

end Caught

theorem caught_constant (v : Value) : Caught (constant v) := by
  unfold constant
  dsimp only
  split
  · split
    · exact .error _ (by decide)
    · exact .ok _
  · exact .ok _

theorem caught_holds (r : Relation) (v w : Value) : Caught (r.holds v w) := by
  unfold Relation.holds
  dsimp only
  split
  case h_1 | h_2 => exact .ok _
  all_goals
    split
    · exact .ok _
    · exact .error _ (by decide)

theorem caught_link (l : Link) (v w : Value) : Caught (l.holds v w) := by
  cases l with
  | evaluated r => exact caught_holds r v w
  | _ => exact .error _ (by decide)

theorem caught_negated (v : Value) : Caught (negated v) := by
  unfold negated
  split
  case h_1 | h_2 => exact .ok _
  split
  · exact .ok _
  · exact .error _ (by decide)

theorem caught_compareLiterals (a : Value) (r : Relation) (b : Value) : Caught (compareLiterals a r b) :=
  (caught_constant a).bind fun _ _ => (caught_constant b).bind fun _ _ => (caught_holds r _ _).bind fun _ _ => .ok _

theorem caught_unavailable {α : Type} (form : Form) : Caught (.error (unavailable form) : Except Fault α) :=
  .error _ (by decide)

mutual

theorem caught_evaluateNode (source : Text) (n : Expression.Node) : Caught (evaluateNode source n) := by
  obtain ⟨form, line, parts⟩ := n
  cases form
  case constant v => rw [evaluateNode]; exact caught_constant v
  case signed s =>
    cases s
    case minus =>
      cases parts with
      | nil => rw [evaluateNode]; exact caught_unavailable _
      | cons operand more =>
        rw [evaluateNode]
        exact (caught_evaluateNode source operand).bind fun v _ => caught_negated v
    all_goals
      rw [evaluateNode]
      · exact .error _ (by decide)
      · nofun
  case chain links =>
    cases parts with
    | nil => rw [evaluateNode]; exact caught_unavailable _
    | cons first more =>
      rw [evaluateNode]
      exact (caught_evaluateNode source first).bind fun v _ =>
        (caught_evaluateChain source v links more).bind fun _ _ => .ok _
  all_goals
    simp only [evaluateNode]
    exact caught_unavailable _

theorem caught_evaluateChain (source : Text) (left : Value) (links : List Link) (operands : List Expression.Node) :
    Caught (evaluateChain source left links operands) := by
  cases links with
  | nil => rw [evaluateChain]; exact .ok _; nofun
  | cons l links =>
    cases operands with
    | nil => rw [evaluateChain]; exact .ok _; nofun
    | cons n operands =>
      rw [evaluateChain]
      refine (caught_evaluateNode source n).bind fun right _ => (caught_link l left right).bind fun b _ => ?_
      cases b with
      | true => exact caught_evaluateChain source right links operands
      | false => exact .ok _

end

theorem caught_evaluateStatement (source : Text) (n : Expression.Node) : Caught (evaluateStatement source n) := by
  unfold evaluateStatement
  split
  · exact caught_evaluateNode source _
  · exact caught_unavailable _

/-- What keeps a text from being read is a text that cannot be carried in bytes or that holds a null. -/
theorem unreadable?_kind {t : Text} {f : Fault} (h : unreadable? t = some f) : f.kind ∈ comparisonFaults := by
  unfold unreadable? at h
  dsimp only at h
  split at h
  · cases h
    show FaultKind.unencodable ∈ comparisonFaults
    decide
  · split at h
    · cases h
      decide
    · cases h

theorem offence_kind (o : Expression.Offence) : o.fault.kind ∈ comparisonFaults := by
  have hkind : ∀ k : Expression.OffenceKind, k.faultKind ∈ comparisonFaults := by
    intro k
    cases k <;> decide
  exact hkind o.kind

theorem caught_evaluateByGrammar (source t : Text) : Caught (evaluateByGrammar source t) := by
  unfold evaluateByGrammar
  split
  · next h => exact .error _ (unreadable?_kind h)
  · split
    · next o _ => exact .error _ (offence_kind o)
    · split
      · exact .error _ (by decide)
      · exact caught_evaluateStatement source _

/-- An expression fails only in ways that become errors of the comparison. -/
theorem caught_evaluate (source : Text) : Caught (evaluate source) := by
  unfold evaluate
  dsimp only
  split
  · exact caught_compareLiterals _ _ _
  · exact caught_evaluateByGrammar source _

/-- Nothing but a value or an error of the comparison comes of an expression. -/
theorem evaluatePolicy_eq (expression : Text) :
    evaluatePolicy expression =
      match evaluate expression with
      | .ok v => pure v
      | .error fault =>
        Traced.report .comparator .error "sandbox_evaluation_error"
          [("expression", .text expression), ("error", .text fault.message)] >>= fun _ =>
            Traced.logicError (.comparison expression fault) := by
  unfold evaluatePolicy
  cases h : evaluate expression with
  | ok v => rfl
  | error fault =>
    have hkind : comparisonFaults.contains fault.kind = true :=
      List.contains_iff_mem.2 (caught_evaluate expression fault h)
    simp only [hkind, ↓reduceIte]

end Rulebook
