import Rulebook.Proofs.Outcome
import Rulebook.Rule.Reader

/-!
# Rule data as pairs

The elements of rule data are read two by two. Read so, the conditions of a rule are the readings of its pairs in
order, and data of even length in front of other data is read apart from it.
-/

namespace Rulebook

/-- The elements two by two; a single element at the end is left out. -/
def pairs {α : Type} : List α → List (α × α)
  | [] => []
  | [_] => []
  | a :: b :: rest => (a, b) :: pairs rest

section pairs
variable {α : Type}

@[simp] theorem pairs_nil : pairs ([] : List α) = [] := rfl

@[simp] theorem pairs_singleton (a : α) : pairs [a] = [] := rfl

@[simp] theorem pairs_cons (a b : α) (rest : List α) : pairs (a :: b :: rest) = (a, b) :: pairs rest := rfl

theorem pairs_append {xs : List α} (h : xs.length % 2 = 0) (ys : List α) :
    pairs (xs ++ ys) = pairs xs ++ pairs ys := by
  induction xs using pairs.induct with
  | case1 => rfl
  | case2 a => simp at h
  | case3 a b rest ih =>
    have hrest : rest.length % 2 = 0 := by
      simp only [List.length_cons] at h
      omega
    simp [ih hrest]

theorem length_pairs (xs : List α) : (pairs xs).length = xs.length / 2 := by
  induction xs using pairs.induct with
  | case1 => simp
  | case2 a => simp
  | case3 a b rest ih =>
    simp only [pairs_cons, List.length_cons, ih]
    omega

/-- The pair at a place holds the two elements at twice that place. -/
theorem getElem?_pairs_eq_some_iff {xs : List α} {i : Nat} {a b : α} :
    (pairs xs)[i]? = some (a, b) ↔ xs[2 * i]? = some a ∧ xs[2 * i + 1]? = some b := by
  induction xs using pairs.induct generalizing i with
  | case1 => simp
  | case2 c => simp
  | case3 c d rest ih =>
    cases i with
    | zero => simp
    | succ i =>
      have hfirst : 2 * (i + 1) = 2 * i + 1 + 1 := by omega
      simp [hfirst, ih]

end pairs

/-- The condition of a field and a comparand. -/
def readPair (p : Value × Value) : Except Failure Condition := do
  let raw ← scalarText .field p.1
  let comparison ← parseComparison p.2
  return ⟨FieldRef.parse raw, comparison⟩

/-- The conditions are the readings of the pairs in order. -/
theorem parseConditions_eq (items : List Value) (done : List Condition) :
    parseConditions items done = (do return done.reverse ++ (← (pairs items).mapM readPair)) := by
  induction items, done using parseConditions.induct with
  | case1 field comparand rest done e he => simp [parseConditions, readPair, he]
  | case2 field comparand rest done raw hraw e he => simp [parseConditions, readPair, hraw, he]
  | case3 field comparand rest done raw hraw comparison hcomparison ih =>
    rw [parseConditions, hraw]
    dsimp only
    rw [hcomparison]
    dsimp only
    rw [ih]
    simp only [pairs_cons, List.mapM_cons, readPair, hraw, hcomparison, ok_bind, pure_eq_ok]
    cases (pairs rest).mapM readPair <;> simp
  | case4 items done h =>
    have hpairs : pairs items = [] := by
      match items, h with
      | [], _ => rfl
      | [a], _ => rfl
      | a :: b :: rest, h => exact absurd rfl (h a b rest)
    rw [parseConditions.eq_2 _ _ h, hpairs]
    simp

section ofData
variable {data : Value} (hdata : ∀ r, data ≠ .rule r)
include hdata

theorem ofData_of_no_sequence (h : data.asSequence? = none) :
    Rule.ofData data = (do throw (.logic (.shape (.notASequence (← liftFault data.display))))) := by
  unfold Rule.ofData
  split
  · next r => exact absurd rfl (hdata r)
  · rw [h]

theorem ofData_of_odd {items : List Value} (h : data.asSequence? = some items) (hodd : items.length % 2 = 1) :
    Rule.ofData data = .error (.logic (.shape (.oddLength items.length))) := by
  unfold Rule.ofData
  split
  · next r => exact absurd rfl (hdata r)
  · rw [h]
    exact if_pos hodd

theorem ofData_of_even {items : List Value} (h : data.asSequence? = some items) (heven : items.length % 2 = 0) :
    Rule.ofData data = (do return ⟨← (pairs items).mapM readPair⟩) := by
  have hodd : ¬items.length % 2 = 1 := by omega
  unfold Rule.ofData
  split
  · next r => exact absurd rfl (hdata r)
  · rw [h]
    dsimp only
    rw [if_neg hodd, parseConditions_eq]
    cases (pairs items).mapM readPair <;> rfl

/-- Data that is no rule already is read exactly if it is a sequence of even length whose pairs are all read. -/
theorem ofData_eq_ok_iff {r : Rule} :
    Rule.ofData data = .ok r ↔
      ∃ items, data.asSequence? = some items ∧ items.length % 2 = 0 ∧
        (pairs items).mapM readPair = .ok r.conditions := by
  cases h : data.asSequence? with
  | none =>
    rw [ofData_of_no_sequence hdata h]
    cases liftFault data.display <;> simp
  | some items =>
    by_cases hodd : items.length % 2 = 1
    · simp [ofData_of_odd hdata h hodd, hodd]
    · have heven : items.length % 2 = 0 := by omega
      rw [ofData_of_even hdata h heven]
      cases hread : (pairs items).mapM readPair with
      | error e => simp [hread]
      | ok conditions => cases r; simp [hread, heven]

end ofData

end Rulebook
