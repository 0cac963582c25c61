import Rulebook.Proofs.Outcome

/-!
# Computations that follow others

A computation follows another one if it succeeds wherever that one does, with a related result. Nothing is asked of it
where the other fails. Following passes through sequences, branches and loops.
-/

namespace Rulebook

/-- Wherever the first computation succeeds, the second does with a related result. -/
def Follows {ε α β : Type} (R : α → β → Prop) (x : Except ε α) (y : Except ε β) : Prop :=
  ∀ a, x = .ok a → ∃ b, y = .ok b ∧ R a b

section
variable {ε α β γ δ : Type} {R : α → β → Prop} {S : γ → δ → Prop}

@[simp] theorem follows_error (e : ε) (y : Except ε β) : Follows R (.error e) y := nofun

@[simp] theorem follows_ok_ok {a : α} {b : β} : Follows R (.ok a : Except ε α) (.ok b) ↔ R a b := by
  simp [Follows]

namespace Follows

theorem refl {R : α → α → Prop} (hR : ∀ a, R a a) (x : Except ε α) : Follows R x x := fun a ha => ⟨a, ha, hR a⟩

theorem eq (x : Except ε α) : Follows Eq x x := refl (fun _ => rfl) x

theorem of_eq {x y : Except ε α} (h : x = y) : Follows Eq x y := h ▸ eq x

theorem mono {S : α → β → Prop} {x : Except ε α} {y : Except ε β} (h : Follows R x y) (hRS : ∀ a b, R a b → S a b) :
    Follows S x y := by
  intro a ha
  obtain ⟨b, hb, hab⟩ := h a ha
  exact ⟨b, hb, hRS a b hab⟩

theorem bind {x : Except ε α} {y : Except ε β} {f : α → Except ε γ} {g : β → Except ε δ} (h : Follows R x y)
    (hf : ∀ a b, R a b → Follows S (f a) (g b)) : Follows S (x >>= f) (y >>= g) := by
  intro c hc
  obtain ⟨a, ha, hc⟩ := bind_eq_ok_iff.1 hc
  obtain ⟨b, rfl, hab⟩ := h a ha
  exact hf a b hab c hc

/-- Computations in sequence behind one and the same result. -/
theorem bind_eq {x y : Except ε α} {f : α → Except ε γ} {g : α → Except ε δ} (h : Follows Eq x y)
    (hf : ∀ a, Follows S (f a) (g a)) : Follows S (x >>= f) (y >>= g) :=
  bind h fun a _ hab => hab ▸ hf a

theorem ite {c : Prop} [Decidable c] {x x' : Except ε α} {y y' : Except ε β} (hx : Follows R x y)
    (hx' : Follows R x' y') : Follows R (if c then x else x') (if c then y else y') := by
  split
  · exact hx
  · exact hx'

variable {l : List α} {m : List β}

theorem mapM {f : α → Except ε γ} {g : β → Except ε δ} (h : List.Forall₂ R l m)
    (hf : ∀ a b, R a b → Follows S (f a) (g b)) : Follows (List.Forall₂ S) (l.mapM f) (m.mapM g) := by
  induction h with
  | nil => simp
  | cons hab _ ih =>
    rw [List.mapM_cons, List.mapM_cons]
    exact (hf _ _ hab).bind fun _ _ hcd => ih.bind fun _ _ hrest => follows_ok_ok.2 (.cons hcd hrest)

theorem mapM_eq {f : α → Except ε γ} {g : β → Except ε γ} (h : List.Forall₂ R l m)
    (hf : ∀ a b, R a b → Follows Eq (f a) (g b)) : Follows Eq (l.mapM f) (m.mapM g) :=
  (mapM h hf).mono fun _ _ hcd => List.forall₂_eq_eq_eq ▸ hcd

theorem foldlM {f : γ → α → Except ε γ} {g : δ → β → Except ε δ} (h : List.Forall₂ R l m)
    (hf : ∀ c d a b, S c d → R a b → Follows S (f c a) (g d b)) {c : γ} {d : δ} (hcd : S c d) :
    Follows S (l.foldlM f c) (m.foldlM g d) := by
  induction h generalizing c d with
  | nil => exact follows_ok_ok.2 hcd
  | cons hab _ ih => exact (hf _ _ _ _ hcd hab).bind fun _ _ hcd => ih hcd

theorem anyM {f : α → Except ε Bool} {g : β → Except ε Bool} (h : List.Forall₂ R l m)
    (hf : ∀ a b, R a b → Follows Eq (f a) (g b)) : Follows Eq (l.anyM f) (m.anyM g) := by
  induction h with
  | nil => exact .eq _
  | cons hab _ ih =>
    refine (hf _ _ hab).bind_eq fun b => ?_
    cases b
    · exact ih
    · exact .eq _

theorem filterAuxM {f : α → Except ε Bool} {g : β → Except ε Bool} (h : List.Forall₂ R l m)
    (hf : ∀ a b, R a b → Follows Eq (f a) (g b)) {kept : List α} {kept' : List β} (hkept : List.Forall₂ R kept kept') :
    Follows (List.Forall₂ R) (l.filterAuxM f kept) (m.filterAuxM g kept') := by
  induction h generalizing kept kept' with
  | nil => exact follows_ok_ok.2 hkept
  | cons hab _ ih =>
    refine (hf _ _ hab).bind_eq fun b => ?_
    cases b
    · exact ih hkept
    · exact ih (.cons hab hkept)

theorem filterM {f : α → Except ε Bool} {g : β → Except ε Bool} (h : List.Forall₂ R l m)
    (hf : ∀ a b, R a b → Follows Eq (f a) (g b)) : Follows (List.Forall₂ R) (l.filterM f) (m.filterM g) :=
  (filterAuxM h hf .nil).bind fun _ _ hkept => follows_ok_ok.2 (List.rel_reverse hkept)

end Follows

end

/-! ### Lists and options that are related member by member -/

section
variable {α β γ δ : Type} {R : α → β → Prop} {S : γ → δ → Prop} {xs : List α} {ys : List β}

theorem forall₂_refl {R : α → α → Prop} (hR : ∀ a, R a a) (l : List α) : List.Forall₂ R l l :=
  List.forall₂_same.2 fun a _ => hR a

/-- Two results of steps over one list are related where the results of each step are. -/
theorem forall₂_of_mapM {ε : Type} {f : γ → Except ε α} {g : γ → Except ε β} {l : List γ} (hf : l.mapM f = .ok xs)
    (hg : l.mapM g = .ok ys) (h : ∀ c ∈ l, ∀ a b, f c = .ok a → g c = .ok b → R a b) : List.Forall₂ R xs ys := by
  induction l generalizing xs ys with
  | nil =>
    cases hf
    cases hg
    exact .nil
  | cons c l ih =>
    simp only [List.mapM_cons, bind_eq_ok_iff, pure_eq_ok, Except.ok.injEq] at hf hg
    obtain ⟨a, ha, as, has, rfl⟩ := hf
    obtain ⟨b, hb, bs, hbs, rfl⟩ := hg
    obtain ⟨hc, hl⟩ := List.forall_mem_cons.1 h
    exact .cons (hc a b ha hb) (ih has hbs hl)

theorem forall₂_isEmpty (h : List.Forall₂ R xs ys) : xs.isEmpty = ys.isEmpty := by
  cases h <;> rfl

theorem optionRel_getD {o : Option α} {p : Option β} {a : α} {b : β} (h : Option.Rel R o p) (hab : R a b) :
    R (o.getD a) (p.getD b) := by
  cases h with
  | none => exact hab
  | some h => exact h

theorem optionRel_map {o : Option α} {p : Option β} {f : α → γ} {g : β → δ} (h : Option.Rel R o p)
    (hfg : ∀ a b, R a b → S (f a) (g b)) : Option.Rel S (o.map f) (p.map g) := by
  cases h with
  | none => exact .none
  | some h => exact .some (hfg _ _ h)

theorem optionRel_bind {o : Option α} {p : Option β} {f : α → Option γ} {g : β → Option δ} (h : Option.Rel R o p)
    (hfg : ∀ a b, R a b → Option.Rel S (f a) (g b)) : Option.Rel S (o.bind f) (p.bind g) := by
  cases h with
  | none => exact .none
  | some h => exact hfg _ _ h

theorem optionRel_mono {S : α → β → Prop} {o : Option α} {p : Option β} (h : Option.Rel R o p)
    (hRS : ∀ a b, R a b → S a b) : Option.Rel S o p := by
  cases h with
  | none => exact .none
  | some h => exact .some (hRS _ _ h)

theorem optionRel_cases {o : Option α} {p : Option β} (h : Option.Rel R o p) :
    (o = none ∧ p = none) ∨ ∃ a b, o = some a ∧ p = some b ∧ R a b := by
  cases h with
  | none => exact .inl ⟨rfl, rfl⟩
  | some h => exact .inr ⟨_, _, rfl, rfl, h⟩

theorem optionRel_isSome {o : Option α} {p : Option β} (h : Option.Rel R o p) : o.isSome = p.isSome := by
  cases h <;> rfl

theorem forall₂_getElem? (h : List.Forall₂ R xs ys) (i : Nat) : Option.Rel R xs[i]? ys[i]? := by
  induction h generalizing i with
  | nil => exact .none
  | cons hxy _ ih =>
    cases i with
    | zero => exact .some hxy
    | succ i => exact ih i

theorem forall₂_head? (h : List.Forall₂ R xs ys) : Option.Rel R xs.head? ys.head? := by
  cases h with
  | nil => exact .none
  | cons hab _ => exact .some hab

theorem forall₂_find? (h : List.Forall₂ R xs ys) {p : α → Bool} {q : β → Bool} (hpq : ∀ a b, R a b → p a = q b) :
    Option.Rel R (xs.find? p) (ys.find? q) := by
  induction h with
  | nil => exact .none
  | @cons a b _ _ hab _ ih =>
    rw [List.find?_cons, List.find?_cons, ← hpq a b hab]
    cases p a
    · exact ih
    · exact .some hab

theorem forall₂_filter (h : List.Forall₂ R xs ys) {p : α → Bool} {q : β → Bool} (hpq : ∀ a b, R a b → p a = q b) :
    List.Forall₂ R (xs.filter p) (ys.filter q) :=
  List.rel_filter (fun a b hab => by simp only [hpq a b hab]) h

theorem forall₂_map (h : List.Forall₂ R xs ys) {f : α → γ} {g : β → δ} (hfg : ∀ a b, R a b → S (f a) (g b)) :
    List.Forall₂ S (xs.map f) (ys.map g) :=
  List.rel_map (fun a b hab => hfg a b hab) h

theorem forall₂_zip {R : α → α → Prop} {S : γ → γ → Prop} {xs ys : List α} {zs ws : List γ}
    (h : List.Forall₂ R xs ys) (h' : List.Forall₂ S zs ws) : List.Forall₂ (Prod.RProd R S) (xs.zip zs) (ys.zip ws) := by
  induction h generalizing zs ws with
  | nil => exact .nil
  | cons hab _ ih =>
    cases h' with
    | nil => exact .nil
    | cons hcd hs => exact .cons ⟨hab, hcd⟩ (ih hs)

theorem forall₂_zipIdx {R : α → α → Prop} {xs ys : List α} (h : List.Forall₂ R xs ys) (i : Nat) :
    List.Forall₂ (Prod.RProd R Eq) (xs.zipIdx i) (ys.zipIdx i) := by
  induction h generalizing i with
  | nil => exact .nil
  | cons hab _ ih => exact .cons ⟨hab, rfl⟩ (ih (i + 1))

theorem forall₂_flatten_replicate (h : List.Forall₂ R xs ys) (n : Nat) :
    List.Forall₂ R (List.replicate n xs).flatten (List.replicate n ys).flatten := by
  induction n with
  | zero => exact .nil
  | succ n ih =>
    simp only [List.replicate_succ, List.flatten_cons]
    exact List.rel_append h ih

end

end Rulebook
