import Mathlib.Data.List.Forall2

/-!
# Outcomes

A sequence of steps that may fail goes on with the result of its first step, or ends in its failure.
-/

namespace Rulebook

variable {ε α β : Type}

@[simp] theorem ok_bind (a : α) (f : α → Except ε β) : (Except.ok a >>= f) = f a := rfl

@[simp] theorem error_bind (e : ε) (f : α → Except ε β) : (Except.error e >>= f) = .error e := rfl

@[simp] theorem pure_eq_ok (a : α) : (pure a : Except ε α) = .ok a := rfl

@[simp] theorem throw_eq_error (e : ε) : (throw e : Except ε α) = .error e := rfl

/-- A sequence that fails does so in its first step, or behind its result. -/
theorem bind_eq_error_iff {x : Except ε α} {f : α → Except ε β} {e : ε} :
    (x >>= f) = .error e ↔ x = .error e ∨ ∃ a, x = .ok a ∧ f a = .error e := by
  cases x <;> simp

/-- A sequence that succeeds does so in both steps. -/
theorem bind_eq_ok_iff {x : Except ε α} {f : α → Except ε β} {b : β} :
    (x >>= f) = .ok b ↔ ∃ a, x = .ok a ∧ f a = .ok b := by
  cases x <;> simp

/-- A result that is only rewritten fails as it does. -/
theorem bind_pure_eq_error_iff {x : Except ε α} {g : α → β} {e : ε} :
    (x >>= fun a => pure (g a)) = .error e ↔ x = .error e := by
  simp [bind_eq_error_iff]

/-- What holds of an element whose predecessors are all passed holds of the first, or behind it. -/
theorem exists_first_cons_iff {P Q : α → Prop} {a : α} {l : List α} :
    (∃ before c after, a :: l = before ++ c :: after ∧ (∀ b ∈ before, P b) ∧ Q c) ↔
      Q a ∨ P a ∧ ∃ before c after, l = before ++ c :: after ∧ (∀ b ∈ before, P b) ∧ Q c := by
  constructor
  · rintro ⟨before, c, after, heq, hbefore, hc⟩
    cases before with
    | nil =>
      obtain ⟨rfl, -⟩ := List.cons.inj heq
      exact .inl hc
    | cons b before =>
      obtain ⟨rfl, rfl⟩ := List.cons.inj heq
      obtain ⟨ha, hbefore⟩ := List.forall_mem_cons.1 hbefore
      exact .inr ⟨ha, before, c, after, rfl, hbefore, hc⟩
  · rintro (ha | ⟨ha, before, c, after, rfl, hbefore, hc⟩)
    · exact ⟨[], a, l, rfl, nofun, ha⟩
    · exact ⟨a :: before, c, after, rfl, List.forall_mem_cons.2 ⟨ha, hbefore⟩, hc⟩

/-- What holds of the element at a place, all before being passed, holds of the first, or behind it. -/
theorem exists_first_getElem?_cons_iff {P Q : Nat → α → Prop} {a : α} {l : List α} :
    (∃ i c, (a :: l)[i]? = some c ∧ (∀ j b, j < i → (a :: l)[j]? = some b → P j b) ∧ Q i c) ↔
      Q 0 a ∨ P 0 a ∧
        ∃ i c, l[i]? = some c ∧ (∀ j b, j < i → l[j]? = some b → P (j + 1) b) ∧ Q (i + 1) c := by
  constructor
  · rintro ⟨i, c, hc, hbefore, hq⟩
    cases i with
    | zero =>
      obtain rfl : a = c := by simpa using hc
      exact .inl hq
    | succ i =>
      refine .inr ⟨hbefore 0 a (Nat.succ_pos i) rfl, i, c, by simpa using hc, fun j b hj hb => ?_, hq⟩
      exact hbefore (j + 1) b (Nat.succ_lt_succ hj) (by simpa using hb)
  · rintro (hq | ⟨hp, i, c, hc, hbefore, hq⟩)
    · exact ⟨0, a, rfl, fun j _ hj => absurd hj (Nat.not_lt_zero j), hq⟩
    · refine ⟨i + 1, c, by simpa using hc, fun j b hj hb => ?_, hq⟩
      cases j with
      | zero =>
        obtain rfl : a = b := by simpa using hb
        exact hp
      | succ j => exact hbefore j b (Nat.lt_of_succ_lt_succ hj) (by simpa using hb)

/-- What holds of all elements at their places holds of the first, and behind it. -/
theorem forall_getElem?_cons_iff {P : Nat → α → Prop} {a : α} {l : List α} :
    (∀ i c, (a :: l)[i]? = some c → P i c) ↔ P 0 a ∧ ∀ i c, l[i]? = some c → P (i + 1) c := by
  constructor
  · intro h
    exact ⟨h 0 a rfl, fun i c hc => h (i + 1) c (by simpa using hc)⟩
  · rintro ⟨ha, h⟩ i c hc
    cases i with
    | zero =>
      obtain rfl : a = c := by simpa using hc
      exact ha
    | succ i => exact h i c (by simpa using hc)

/-- Steps over a list succeed where each of them does. -/
theorem mapM_eq_ok_iff {f : α → Except ε β} {l : List α} {rs : List β} :
    l.mapM f = .ok rs ↔ List.Forall₂ (fun a r => f a = .ok r) l rs := by
  induction l generalizing rs with
  | nil => simp [eq_comm]
  | cons a l ih =>
    simp only [List.mapM_cons, bind_eq_ok_iff, pure_eq_ok, Except.ok.injEq]
    constructor
    · rintro ⟨r, hr, rs', hrs', rfl⟩
      exact .cons hr (ih.1 hrs')
    · intro h
      cases h with
      | cons hr hrs' => exact ⟨_, hr, _, ih.2 hrs', rfl⟩

/-- Where steps over a list succeed, each element has its result among the results. -/
theorem exists_mem_of_mapM_eq_ok {f : α → Except ε β} {l : List α} {rs : List β} (h : l.mapM f = .ok rs) {a : α}
    (ha : a ∈ l) : ∃ r ∈ rs, f a = .ok r := by
  rw [mapM_eq_ok_iff] at h
  induction h with
  | nil => cases ha
  | cons hr _ ih =>
    rcases List.mem_cons.1 ha with rfl | ha
    · exact ⟨_, List.mem_cons_self, hr⟩
    · obtain ⟨r, hr, hf⟩ := ih ha
      exact ⟨r, List.mem_cons_of_mem _ hr, hf⟩

/-- Lists agree element by element if they have one length and every element of the second has a partner at its
place. -/
theorem forall₂_iff_getElem? {R : α → β → Prop} {l : List α} {rs : List β} :
    List.Forall₂ R l rs ↔
      l.length = rs.length ∧ ∀ (i : Nat) (r : β), rs[i]? = some r → ∃ a, l[i]? = some a ∧ R a r := by
  induction rs generalizing l with
  | nil => simp [List.length_eq_zero_iff]
  | cons r rs ih =>
    cases l with
    | nil => simp
    | cons a l => simp [List.forall₂_cons, forall_getElem?_cons_iff, ih, and_left_comm]

/-- Steps over a list fail where the first of them does. -/
theorem mapM_eq_error_iff {f : α → Except ε β} {l : List α} {e : ε} :
    l.mapM f = .error e ↔
      ∃ before a after, l = before ++ a :: after ∧ (∀ b ∈ before, ∃ r, f b = .ok r) ∧ f a = .error e := by
  induction l with
  | nil => simp
  | cons a l ih =>
    rw [exists_first_cons_iff, ← ih]
    simp only [List.mapM_cons, bind_eq_error_iff, pure_eq_ok, reduceCtorEq, and_false, exists_false, or_false,
      exists_and_right]

end Rulebook
