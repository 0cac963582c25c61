import Rulebook.Expression.Evaluate
import Rulebook.Proofs.Outcome

/-!
# What an evaluation comes to

The value of a tree of constants, minus signs and chains of comparisons, and what its evaluation comes to on the way:
parts of the tree, values to be negated, and pairs of values to be related. An evaluation ends in the value of the tree
exactly if it comes to nothing that is not allowed.
-/

namespace Rulebook.Expression

mutual

/-- The value of a tree. What stands behind the first link of a chain that does not hold does not matter. -/
inductive Yields : Node → Value → Prop
  | constant (v : Value) (line : Nat) (parts : List Node) : Yields (.mk (.constant v) line parts) v
  | minus {operand : Node} {v w : Value} (line : Nat) (more : List Node) (hv : Yields operand v)
      (hw : negated v = .ok w) : Yields (.mk (.signed .minus) line (operand :: more)) w
  | chain {first : Node} {v : Value} {links : List Link} {operands : List Node} {b : Bool} (line : Nat)
      (hv : Yields first v) (hb : Follows v links operands b) :
      Yields (.mk (.chain links) line (first :: operands)) (.bool b)

/-- Whether a chain of relations holds from a value on. -/
inductive Follows : Value → List Link → List Node → Bool → Prop
  | finished {links : List Link} {operands : List Node} (v : Value) (h : links = [] ∨ operands = []) :
      Follows v links operands true
  | stopped {v w : Value} {r : Relation} {n : Node} (links : List Link) (operands : List Node) (hw : Yields n w)
      (hr : r.holds v w = .ok false) : Follows v (.evaluated r :: links) (n :: operands) false
  | linked {v w : Value} {r : Relation} {n : Node} {links : List Link} {operands : List Node} {b : Bool}
      (hw : Yields n w) (hr : r.holds v w = .ok true) (hb : Follows w links operands b) :
      Follows v (.evaluated r :: links) (n :: operands) b

end

/-- What an evaluation comes to: a tree, a value under a minus sign, or a relation between two values. -/
inductive Step where
  | tree (n : Node)
  | negation (v : Value)
  | relation (l : Link) (v w : Value)

mutual

/-- The evaluation of a tree comes to a step. -/
inductive Reaches : Node → Step → Prop
  | self (n : Node) : Reaches n (.tree n)
  | operand {operand : Node} {s : Step} (line : Nat) (more : List Node) (hs : Reaches operand s) :
      Reaches (.mk (.signed .minus) line (operand :: more)) s
  | negation {operand : Node} {v : Value} (line : Nat) (more : List Node) (hv : Yields operand v) :
      Reaches (.mk (.signed .minus) line (operand :: more)) (.negation v)
  | first {first : Node} {s : Step} (links : List Link) (line : Nat) (operands : List Node) (hs : Reaches first s) :
      Reaches (.mk (.chain links) line (first :: operands)) s
  | further {first : Node} {v : Value} {links : List Link} {operands : List Node} {s : Step} (line : Nat)
      (hv : Yields first v) (hs : ReachesBehind v links operands s) :
      Reaches (.mk (.chain links) line (first :: operands)) s

/-- The evaluation of a chain from a value on comes to a step. It goes on behind a link that holds. -/
inductive ReachesBehind : Value → List Link → List Node → Step → Prop
  | operand {n : Node} {s : Step} (v : Value) (l : Link) (links : List Link) (operands : List Node)
      (hs : Reaches n s) : ReachesBehind v (l :: links) (n :: operands) s
  | relation {n : Node} {w : Value} (v : Value) (l : Link) (links : List Link) (operands : List Node)
      (hw : Yields n w) : ReachesBehind v (l :: links) (n :: operands) (.relation l v w)
  | further {v w : Value} {r : Relation} {n : Node} {links : List Link} {operands : List Node} {s : Step}
      (hw : Yields n w) (hr : r.holds v w = .ok true) (hs : ReachesBehind w links operands s) :
      ReachesBehind v (.evaluated r :: links) (n :: operands) s

end

/-- The value is a text or bytes beyond the limit. -/
def Value.isLong : Value → Prop
  | .text t => maxLiteralLength < t.length
  | .bytes data => maxLiteralLength < data.length
  | _ => False

/-- The trees that are evaluated: constants within the limit, minus signs before a value, and chains. -/
def Node.Allowed : Node → Prop
  | .mk (.constant v) _ _ => ¬Value.isLong v
  | .mk (.signed .minus) _ parts => parts ≠ []
  | .mk (.chain _) _ parts => parts ≠ []
  | _ => False

/-- What is evaluated: of the relations only `==`, `!=`, `<` and `>`, and only values that have them. -/
def Step.Allowed : Step → Prop
  | tree n => n.Allowed
  | negation v => ∃ w, negated v = .ok w
  | relation l v w => ∃ r b, l = .evaluated r ∧ r.holds v w = .ok b

/-! ### Values -/

mutual

/-- A tree has one value. -/
theorem Yields.unique {n : Node} {v w : Value} (hv : Yields n v) (hw : Yields n w) : v = w := by
  cases hv with
  | constant => cases hw; rfl
  | minus line more hu hneg =>
    cases hw with
    | minus _ _ hu' hneg' =>
      rw [hu.unique hu', hneg'] at hneg
      exact (Except.ok.inj hneg).symm
  | chain line hu hb =>
    cases hw with
    | chain _ hu' hb' =>
      rw [← hu.unique hu'] at hb'
      rw [hb.unique hb']

theorem Follows.unique {v : Value} {links : List Link} {operands : List Node} {b c : Bool}
    (hb : Follows v links operands b) (hc : Follows v links operands c) : b = c := by
  cases hb with
  | finished v h =>
    cases hc with
    | finished => rfl
    | stopped => simp at h
    | linked => simp at h
  | stopped links operands hw hr =>
    cases hc with
    | finished _ h => simp at h
    | stopped => rfl
    | linked hw' hr' =>
      rw [hw.unique hw', hr'] at hr
      cases hr
  | linked hw hr hb =>
    cases hc with
    | finished _ h => simp at h
    | stopped _ _ hw' hr' =>
      rw [hw.unique hw', hr'] at hr
      cases hr
    | linked hw' _ hc =>
      rw [← hw.unique hw'] at hc
      exact hb.unique hc

end

theorem constant_eq_ok_iff {v w : Value} : constant v = .ok w ↔ w = v ∧ ¬Value.isLong v := by
  have hlimit : ∀ {n : Nat} {message : Text}, (if maxLiteralLength < n then
      (.error ⟨.literalTooLong, message⟩ : Except Fault Value) else .ok v) = .ok w ↔ w = v ∧ ¬maxLiteralLength < n := by
    intro n message
    split
    · next h => simp [h]
    · next h => simp [h, eq_comm]
  cases v with
  | text t => exact hlimit
  | bytes data => exact hlimit
  | _ => simp [constant, Value.isLong, eq_comm]

/-- A relation that is applied is one of those that are evaluated. -/
theorem Link.exists_of_holds {l : Link} {v w : Value} {b : Bool} (h : l.holds v w = .ok b) :
    ∃ r, l = .evaluated r ∧ r.holds v w = .ok b := by
  cases l with
  | evaluated r => exact ⟨r, rfl, h⟩
  | _ => cases h

/-! ### Evaluations -/

section evaluate
variable {source : Text}

mutual

/-- An evaluation that ends in a value ends in that of the tree, and comes to nothing that is not allowed. -/
theorem yields_of_evaluateNode {n : Node} {v : Value} (h : evaluateNode source n = .ok v) :
    Yields n v ∧ ∀ s, Reaches n s → s.Allowed := by
  obtain ⟨form, line, parts⟩ := n
  cases form
  case constant u =>
    rw [evaluateNode] at h
    obtain ⟨rfl, hlong⟩ := constant_eq_ok_iff.1 h
    refine ⟨.constant v line parts, fun s hs => ?_⟩
    cases hs with
    | self => exact hlong
  case signed sign =>
    cases sign
    case minus =>
      cases parts with
      | nil => rw [evaluateNode] at h; cases h
      | cons operand more =>
        rw [evaluateNode] at h
        obtain ⟨u, hu, hv⟩ := bind_eq_ok_iff.1 h
        obtain ⟨hyields, hallowed⟩ := yields_of_evaluateNode hu
        refine ⟨.minus line more hyields hv, fun s hs => ?_⟩
        cases hs with
        | self => exact List.cons_ne_nil _ _
        | operand _ _ hs => exact hallowed s hs
        | negation _ _ hu' =>
          rw [← hyields.unique hu']
          exact ⟨v, hv⟩
    all_goals
      rw [evaluateNode] at h
      · cases h
      · nofun
  case chain links =>
    cases parts with
    | nil => rw [evaluateNode] at h; cases h
    | cons first more =>
      rw [evaluateNode] at h
      obtain ⟨u, hu, h⟩ := bind_eq_ok_iff.1 h
      obtain ⟨b, hb, h⟩ := bind_eq_ok_iff.1 h
      obtain ⟨hyields, hallowed⟩ := yields_of_evaluateNode hu
      obtain ⟨hfollows, hbehind⟩ := follows_of_evaluateChain hb
      cases h
      refine ⟨.chain line hyields hfollows, fun s hs => ?_⟩
      cases hs with
      | self => exact List.cons_ne_nil _ _
      | first _ _ _ hs => exact hallowed s hs
      | further _ hu' hs =>
        rw [← hyields.unique hu'] at hs
        exact hbehind s hs
  all_goals
    simp only [evaluateNode] at h
    cases h

theorem follows_of_evaluateChain {v : Value} {links : List Link} {operands : List Node} {b : Bool}
    (h : evaluateChain source v links operands = .ok b) :
    Follows v links operands b ∧ ∀ s, ReachesBehind v links operands s → s.Allowed := by
  cases links with
  | nil =>
    rw [evaluateChain] at h
    · cases h
      exact ⟨.finished v (.inl rfl), nofun⟩
    · nofun
  | cons l links =>
    cases operands with
    | nil =>
      rw [evaluateChain] at h
      · cases h
        exact ⟨.finished v (.inr rfl), nofun⟩
      · nofun
    | cons n operands =>
      rw [evaluateChain] at h
      obtain ⟨w, hw, h⟩ := bind_eq_ok_iff.1 h
      obtain ⟨holds, hholds, h⟩ := bind_eq_ok_iff.1 h
      obtain ⟨hyields, hallowed⟩ := yields_of_evaluateNode hw
      obtain ⟨r, rfl, hr⟩ := Link.exists_of_holds hholds
      cases holds with
      | false =>
        cases h
        refine ⟨.stopped links operands hyields hr, fun s hs => ?_⟩
        cases hs with
        | operand _ _ _ _ hs => exact hallowed s hs
        | relation _ _ _ _ hw' =>
          rw [← hyields.unique hw']
          exact ⟨r, false, rfl, hr⟩
        | further hw' hr' _ =>
          rw [← hyields.unique hw', hr] at hr'
          cases hr'
      | true =>
        obtain ⟨hfollows, hbehind⟩ := follows_of_evaluateChain h
        refine ⟨.linked hyields hr hfollows, fun s hs => ?_⟩
        cases hs with
        | operand _ _ _ _ hs => exact hallowed s hs
        | relation _ _ _ _ hw' =>
          rw [← hyields.unique hw']
          exact ⟨r, true, rfl, hr⟩
        | further hw' _ hs =>
          rw [← hyields.unique hw'] at hs
          exact hbehind s hs

end

mutual

/-- An evaluation that comes to nothing that is not allowed ends in a value. -/
theorem exists_evaluateNode (source : Text) (n : Node) (h : ∀ s, Reaches n s → s.Allowed) :
    ∃ v, evaluateNode source n = .ok v := by
  have hself := h _ (.self n)
  obtain ⟨form, line, parts⟩ := n
  cases form
  case constant v => exact ⟨v, by rw [evaluateNode]; exact constant_eq_ok_iff.2 ⟨rfl, hself⟩⟩
  case signed sign =>
    cases sign
    case minus =>
      cases parts with
      | nil => exact absurd rfl hself
      | cons operand more =>
        obtain ⟨u, hu⟩ := exists_evaluateNode source operand fun s hs => h s (.operand line more hs)
        obtain ⟨v, hv⟩ := h _ (.negation line more (yields_of_evaluateNode hu).1)
        exact ⟨v, by rw [evaluateNode, hu]; exact hv⟩
    all_goals exact hself.elim
  case chain links =>
    cases parts with
    | nil => exact absurd rfl hself
    | cons first more =>
      obtain ⟨u, hu⟩ := exists_evaluateNode source first fun s hs => h s (.first links line more hs)
      have hyields := (yields_of_evaluateNode hu).1
      obtain ⟨b, hb⟩ := exists_evaluateChain source u links more fun s hs => h s (.further line hyields hs)
      exact ⟨.bool b, by rw [evaluateNode, hu, ok_bind, hb]; rfl⟩
  all_goals exact hself.elim

theorem exists_evaluateChain (source : Text) (v : Value) (links : List Link) (operands : List Node)
    (h : ∀ s, ReachesBehind v links operands s → s.Allowed) : ∃ b, evaluateChain source v links operands = .ok b := by
  cases links with
  | nil => exact ⟨true, by rw [evaluateChain]; nofun⟩
  | cons l links =>
    cases operands with
    | nil => exact ⟨true, by rw [evaluateChain]; nofun⟩
    | cons n operands =>
      obtain ⟨w, hw⟩ := exists_evaluateNode source n fun s hs => h s (.operand v l links operands hs)
      have hyields := (yields_of_evaluateNode hw).1
      obtain ⟨r, holds, rfl, hr⟩ := h _ (.relation v l links operands hyields)
      have hlink : (Link.evaluated r).holds v w = .ok holds := hr
      cases holds with
      | false => exact ⟨false, by rw [evaluateChain, hw, ok_bind, hlink]; rfl⟩
      | true =>
        obtain ⟨b, hb⟩ := exists_evaluateChain source w links operands fun s hs => h s (.further hyields hr hs)
        exact ⟨b, by rw [evaluateChain, hw, ok_bind, hlink]; exact hb⟩

end

/-- An evaluation ends in a value exactly if that is the value of the tree and all that it comes to is allowed. -/
theorem evaluateNode_eq_ok_iff {n : Node} {v : Value} :
    evaluateNode source n = .ok v ↔ Yields n v ∧ ∀ s, Reaches n s → s.Allowed := by
  refine ⟨yields_of_evaluateNode, fun h => ?_⟩
  obtain ⟨w, hw⟩ := exists_evaluateNode source n h.2
  rw [hw, h.1.unique (yields_of_evaluateNode hw).1]

/-- Of the statements only an expression has a value. -/
theorem evaluateStatement_eq_ok_iff {n : Node} {v : Value} :
    evaluateStatement source n = .ok v ↔
      ∃ line value more, n = .mk (.statement "Expr") line (value :: more) ∧ evaluateNode source value = .ok v := by
  constructor
  · intro h
    obtain ⟨form, line, parts⟩ := n
    unfold evaluateStatement at h
    split at h
    · next value more hform hparts =>
      obtain rfl : form = _ := hform
      obtain rfl : parts = _ := hparts
      exact ⟨line, value, more, rfl, h⟩
    · cases h
  · rintro ⟨line, value, more, rfl, h⟩
    exact h

end evaluate

end Rulebook.Expression
