import Rulebook.Proofs.Leniency.Value
import Rulebook.Template.Access

/-!
# What is not there

A part that is not there is a value of its own, so looking for a part under one policy has to fail in this way wherever
it does under the other.
-/

namespace Rulebook.Template
open Value (Eases)

/-- The second computation finds what the first one finds, and where the first says that something is not there, so does
the second. -/
structure Finds {α β : Type} (R : α → β → Prop) (x : Except Fault α) (y : Except Fault β) : Prop where
  follows : Follows R x y
  absent : ∀ f, x = .error f → isAbsence f = true → ∃ g, y = .error g ∧ isAbsence g = true

namespace Finds
variable {α β γ δ : Type} {R : α → β → Prop} {S : γ → δ → Prop}

theorem ok {a : α} {b : β} (h : R a b) : Finds R (.ok a) (.ok b) := ⟨follows_ok_ok.2 h, nofun⟩

/-- Something is missing for both. -/
theorem missing {f g : Fault} (hg : isAbsence g = true) : Finds R (.error f) (.error g) :=
  ⟨follows_error _ _, fun _ _ _ => ⟨g, rfl, hg⟩⟩

/-- Both fail for the same reason. -/
theorem same_error (f : Fault) : Finds R (.error f) (.error f) := by
  refine ⟨follows_error _ _, fun g hg habsent => ⟨f, rfl, ?_⟩⟩
  cases hg
  exact habsent

/-- The first fails for another reason. -/
theorem failed {f : Fault} (hf : isAbsence f = false) (y : Except Fault β) : Finds R (.error f) y := by
  refine ⟨follows_error _ _, fun g hg habsent => ?_⟩
  cases hg
  rw [hf] at habsent
  cases habsent

theorem refl {R : α → α → Prop} (hR : ∀ a, R a a) (x : Except Fault α) : Finds R x x :=
  ⟨.refl hR x, fun f hf habsent => ⟨f, hf, habsent⟩⟩

theorem eq (x : Except Fault α) : Finds Eq x x := refl (fun _ => rfl) x

theorem mono {R' : α → β → Prop} {x : Except Fault α} {y : Except Fault β} (h : Finds R x y)
    (hR : ∀ a b, R a b → R' a b) : Finds R' x y :=
  ⟨h.follows.mono hR, h.absent⟩

theorem bind {x : Except Fault α} {y : Except Fault β} {f : α → Except Fault γ} {g : β → Except Fault δ}
    (h : Finds R x y) (hf : ∀ a b, R a b → Finds S (f a) (g b)) : Finds S (x >>= f) (y >>= g) := by
  refine ⟨h.follows.bind fun a b hab => (hf a b hab).follows, fun e he habsent => ?_⟩
  rcases bind_eq_error_iff.1 he with he | ⟨a, ha, he⟩
  · obtain ⟨e', rfl, habsent'⟩ := h.absent e he habsent
    exact ⟨e', rfl, habsent'⟩
  · obtain ⟨b, rfl, hab⟩ := h.follows a ha
    exact (hf a b hab).absent e he habsent

theorem bind_eq {x y : Except Fault α} {f : α → Except Fault γ} {g : α → Except Fault δ} (h : Finds Eq x y)
    (hf : ∀ a, Finds S (f a) (g a)) : Finds S (x >>= f) (y >>= g) :=
  bind h fun a _ hab => hab ▸ hf a

/-- Three cases to go on from a search: something is found, nothing is there, or the search fails. -/
theorem elim {x : Except Fault α} {y : Except Fault β} {z : Except Fault γ} {z' : Except Fault δ} (h : Finds R x y)
    (hok : ∀ a b, x = .ok a → y = .ok b → R a b → Follows S z z')
    (habsent : ∀ f g, x = .error f → y = .error g → isAbsence f = true → isAbsence g = true → Follows S z z')
    (hfailed : ∀ f, x = .error f → isAbsence f = false → Follows S z z') : Follows S z z' := by
  cases hx : x with
  | ok a =>
    obtain ⟨b, hy, hab⟩ := h.follows a hx
    exact hok a b hx hy hab
  | error f =>
    cases hf : isAbsence f with
    | true =>
      obtain ⟨g, hy, hg⟩ := h.absent f hx hf
      exact habsent f g hx hy hf hg
    | false => exact hfailed f hx hf

end Finds

@[simp] theorem isAbsence_undefined (u : Undefined) : isAbsence u.fault = false := by
  unfold Undefined.fault
  cases u.forbidden <;> rfl

@[simp] theorem kind_undefined_ne_wrongType (u : Undefined) : u.fault.kind ≠ .wrongType := by
  unfold Undefined.fault
  cases u.forbidden <;> nofun

/-! ### Keys -/

variable {v w : Value}

/-- A key other than a tuple is refused for what is strictly undefined in it, or because it changes. -/
theorem finds_checkKey_plain (h : Eases v w) (hv : ∀ items, v ≠ .tuple items) (hw : ∀ items, w ≠ .tuple items)
    (hkey : isKey v = isKey w) : Finds (fun _ _ => w = v) (checkKey v) (checkKey w) := by
  rw [checkKey.eq_2 v hv, checkKey.eq_2 w hw, ← hkey]
  split
  · cases hpart : strictPart? v with
    | some u => exact .failed (isAbsence_undefined u) _
    | none =>
      rw [h.eq_of_strictPart?_eq_none hpart, hpart]
      exact .ok rfl
  · exact .missing rfl

mutual

/-- A key that may be looked up is the same under both policies, and one that cannot be hashed stays so. -/
theorem finds_checkKey {v w : Value} (h : Eases v w) : Finds (fun _ _ => w = v) (checkKey v) (checkKey w) := by
  cases h with
  | same => exact (Finds.eq _).mono fun _ _ _ => rfl
  | tuple h =>
    rw [checkKey, checkKey]
    exact (finds_checkKeys h).mono fun _ _ h => h ▸ rfl
  | undefined h => exact finds_checkKey_plain (.undefined h) nofun nofun rfl
  | list h => exact finds_checkKey_plain (.list h) nofun nofun rfl
  | view kind h =>
    refine finds_checkKey_plain (.view kind h) nofun nofun ?_
    cases kind <;> rfl
  | mapping h => exact finds_checkKey_plain (.mapping h) nofun nofun rfl
  | record typeName shown h => exact finds_checkKey_plain (.record typeName shown h) nofun nofun rfl
  | method h htype name => exact finds_checkKey_plain (.method h htype name) nofun nofun rfl

theorem finds_checkKeys {vs ws : List Value} (h : List.Forall₂ Eases vs ws) :
    Finds (fun _ _ => ws = vs) (checkKeys vs) (checkKeys ws) := by
  cases h with
  | nil => exact .ok rfl
  | cons h hs =>
    rw [checkKeys, checkKeys]
    exact (finds_checkKey h).bind fun _ _ hv => (finds_checkKeys hs).mono fun _ _ hvs => hv ▸ hvs ▸ rfl

end

end Rulebook.Template
