import Rulebook.Text.Basic
import Mathlib.Tactic.Tauto

/-!
# The order of texts

`same` is equality, and `order` is the lexicographic order of lists of code points. Sorting texts, and leaving out those
that are there already, keeps what is among them, and makes them ascend.
-/

namespace Rulebook.Text

theorem same_iff {s t : Text} : same s t = true ↔ s = t := by
  induction s generalizing t with
  | nil => cases t <;> simp [same]
  | cons a s ih =>
    cases t with
    | nil => simp [same]
    | cons b t =>
      by_cases h : a = b
      · simp [same, h, ih]
      · simp [same, h]

@[simp] theorem same_self (t : Text) : same t t = true := same_iff.2 rfl

theorem order_eq_lt_iff {s t : Text} : order s t = .lt ↔ s < t := by
  induction s generalizing t with
  | nil => cases t <;> simp [order]
  | cons a s ih =>
    cases t with
    | nil => simp [order]
    | cons b t =>
      rcases Nat.lt_trichotomy a b with h | h | h
      · simp [order, h, List.cons_lt_cons_iff]
      · simp [order, h, ih]
      · simp [order, h, Nat.not_lt_of_gt h, Nat.ne_of_gt h, List.cons_lt_cons_iff]

theorem order_swap (s t : Text) : (order s t).swap = order t s := by
  induction s generalizing t with
  | nil => cases t <;> rfl
  | cons a s ih =>
    cases t with
    | nil => rfl
    | cons b t =>
      rcases Nat.lt_trichotomy a b with h | h | h
      · simp [order, h, Nat.not_lt_of_gt h]
      · simp [order, h, ih]
      · simp [order, h, Nat.not_lt_of_gt h]

theorem order_eq_gt_iff {s t : Text} : order s t = .gt ↔ t < s := by
  rw [← order_eq_lt_iff, ← order_swap t s]
  cases order t s <;> simp

theorem any_same_iff {t : Text} {ts : List Text} : ts.any (same t) = true ↔ t ∈ ts := by
  simp [same_iff]

@[simp] theorem mem_distinct {t : Text} {ts : List Text} : t ∈ distinct ts ↔ t ∈ ts := by
  have hseen : ∀ seen : List Text,
      t ∈ ts.foldl (fun seen u => if seen.any (same u) then seen else u :: seen) seen ↔ t ∈ seen ∨ t ∈ ts := by
    induction ts with
    | nil => simp
    | cons u ts ih =>
      intro seen
      rw [List.foldl_cons, ih, List.mem_cons]
      split
      · next h =>
        have hu := any_same_iff.1 h
        constructor
        · rintro (h | h)
          · exact .inl h
          · exact .inr (.inr h)
        · rintro (h | rfl | h)
          · exact .inl h
          · exact .inl hu
          · exact .inr h
      · simp only [List.mem_cons]
        tauto
  rw [distinct, List.mem_reverse, hseen]
  simp

@[simp] theorem mem_sorted {t : Text} {ts : List Text} : t ∈ sorted ts ↔ t ∈ ts := by
  rw [sorted, List.mem_mergeSort]

/-! ### Order and repetition -/

theorem before_iff {s t : Text} : before s t = true ↔ s < t := by
  rw [before, beq_iff_eq, order_eq_lt_iff]

theorem nodup_distinct (ts : List Text) : (distinct ts).Nodup := by
  have hseen : ∀ seen : List Text, seen.Nodup →
      (ts.foldl (fun seen u => if seen.any (same u) then seen else u :: seen) seen).Nodup := by
    induction ts with
    | nil => exact fun _ h => h
    | cons u ts ih =>
      intro seen h
      rw [List.foldl_cons]
      refine ih _ ?_
      split
      · exact h
      · next hu => exact List.nodup_cons.2 ⟨mt any_same_iff.2 hu, h⟩
  exact (List.reverse_perm _).nodup_iff.2 (hseen [] List.nodup_nil)

/-- No text comes behind one that it is before. -/
theorem pairwise_sorted (ts : List Text) : (sorted ts).Pairwise fun s t => ¬t < s := by
  have hnot : ∀ s t : Text, (!before t s) = true ↔ ¬t < s := by
    intro s t
    rw [Bool.not_eq_true', Bool.eq_false_iff, ne_eq, before_iff]
  have htrans : ∀ s t u : Text, (!before t s) = true → (!before u t) = true → (!before u s) = true := by
    intro s t u hst htu
    rw [hnot] at *
    exact List.not_lt.2 (List.le_trans (List.not_lt.1 hst) (List.not_lt.1 htu))
  have htotal : ∀ s t : Text, ((!before t s) || !before s t) = true := by
    intro s t
    rw [Bool.or_eq_true, hnot, hnot]
    exact not_and_or.1 fun h => List.lt_asymm h.1 h.2
  exact (List.pairwise_mergeSort htrans htotal ts).imp fun {s t} h => (hnot s t).1 h

/-- Texts in order without repetition ascend strictly. -/
theorem pairwise_sorted_distinct (ts : List Text) : (sorted (distinct ts)).Pairwise (· < ·) := by
  have hnodup : (sorted (distinct ts)).Nodup := (List.mergeSort_perm _ _).nodup_iff.2 (nodup_distinct ts)
  refine ((pairwise_sorted _).and hnodup).imp ?_
  rintro s t ⟨hnot, hne⟩
  exact (List.le_iff_lt_or_eq.1 (List.not_lt.1 hnot)).resolve_right hne

end Rulebook.Text
