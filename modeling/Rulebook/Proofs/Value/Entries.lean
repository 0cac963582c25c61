import Rulebook.Proofs.Text.Order
import Rulebook.Value.Equality

/-!
# Entries of mappings

A text key is equal to itself alone. So a value put in under one key is found under it, and what stands under other text
keys is found as before.
-/

namespace Rulebook

/-- All keys are texts. -/
def KeyedByTexts (entries : List (Value × Value)) : Prop := ∀ p ∈ entries, ∃ t, p.1 = .text t

namespace Value

theorem equal_text_right {k : Value} {t : Text} : equal k (.text t) = true ↔ k = .text t := by
  cases k with
  | text s => simp [equal, Text.same_iff]
  | _ => simp [equal, equalNumbers, equalReals, asInteger?]

theorem equal_text_left {k : Value} {t : Text} : equal (.text t) k = true ↔ k = .text t := by
  cases k with
  | text s =>
    simp only [equal, Text.same_iff, text.injEq]
    exact eq_comm
  | _ => simp [equal, equalNumbers, equalReals, asInteger?]

theorem equal_text_self (t : Text) : equal (.text t) (.text t) = true := equal_text_right.2 rfl

theorem isSome_lookup_cons (key : Value) (e : Value × Value) (es : List (Value × Value)) :
    (lookup key (e :: es)).isSome = (equal e.1 key || (lookup key es).isSome) := by
  rw [lookup]
  split <;> simp_all

theorem replaceEntry_cons (key v : Value) (e : Value × Value) (es : List (Value × Value)) :
    replaceEntry key v (e :: es) = (if equal e.1 key then (e.1, v) else e) :: replaceEntry key v es := by
  cases e
  rfl

/-! ### Values of text keys -/

section Lookup

variable {t : Text} {key v : Value} {es fs : List (Value × Value)}

theorem lookupText_cons (t : Text) (e : Value × Value) (es : List (Value × Value)) :
    lookupText t (e :: es) = if equal e.1 (.text t) then some e.2 else lookupText t es := rfl

theorem lookupText_append : lookupText t (es ++ fs) = (lookupText t es).or (lookupText t fs) := by
  induction es with
  | nil => rfl
  | cons e es ih =>
    rw [List.cons_append, lookupText_cons, lookupText_cons, ih]
    split <;> rfl

theorem lookupText_eq_none_iff : lookupText t es = none ↔ ∀ e ∈ es, e.1 ≠ .text t := by
  induction es with
  | nil => simp [lookupText, lookup]
  | cons e es ih =>
    rw [lookupText_cons]
    split
    · rename_i h
      simp [equal_text_right.1 h]
    · rename_i h
      rw [equal_text_right] at h
      simp [ih, h]

theorem mem_of_lookupText (h : lookupText t es = some v) : (.text t, v) ∈ es := by
  induction es with
  | nil => cases h
  | cons e es ih =>
    rw [lookupText_cons] at h
    split at h
    · rename_i he
      obtain rfl := Option.some.inj h
      rw [← equal_text_right.1 he]
      exact List.mem_cons_self
    · exact List.mem_cons_of_mem e (ih h)

theorem lookupText_replaceEntry :
    lookupText t (replaceEntry key v es) =
      if equal key (.text t) then (lookupText t es).map fun _ => v else lookupText t es := by
  induction es with
  | nil =>
    show lookupText t [] = _
    simp [lookupText, lookup]
  | cons e es ih =>
    rw [replaceEntry_cons, lookupText_cons, lookupText_cons, ih]
    by_cases he : e.1 = .text t
    · have hkey : equal e.1 key = equal key (.text t) := by
        rw [he, Bool.eq_iff_iff, equal_text_left, equal_text_right]
      rw [hkey]
      cases h : equal key (.text t) <;> simp [he, equal_text_self]
    · have hne : equal e.1 (.text t) = false := by simpa [← Bool.not_eq_true, equal_text_right] using he
      split <;> simp [hne]

theorem lookupText_insertEntry :
    lookupText t (insertEntry key v es) = if equal key (.text t) then some v else lookupText t es := by
  rw [insertEntry]
  by_cases hkey : equal key (.text t) = true
  · obtain rfl := equal_text_right.1 hkey
    rw [if_pos hkey]
    split
    · rename_i h
      rw [lookupText_replaceEntry, if_pos hkey]
      obtain ⟨w, hw⟩ := Option.isSome_iff_exists.1 h
      rw [lookupText, hw]
      rfl
    · rename_i h
      have hnone : lookupText t es = none := by simpa [lookupText] using h
      rw [lookupText_append, hnone, lookupText_cons, if_pos hkey]
      rfl
  · rw [if_neg hkey]
    split
    · rw [lookupText_replaceEntry, if_neg hkey]
    · rw [lookupText_append, lookupText_cons, if_neg hkey]
      exact Option.or_none

theorem lookupText_insertEntry_self : lookupText t (insertEntry (.text t) v es) = some v := by
  rw [lookupText_insertEntry, if_pos (equal_text_self t)]

theorem lookupText_insertEntry_of_ne (h : key ≠ .text t) : lookupText t (insertEntry key v es) = lookupText t es := by
  rw [lookupText_insertEntry, if_neg (mt equal_text_right.1 h)]

/-- What is put in under a text key is the only new entry. -/
theorem mem_insertEntry_text {e : Value × Value} (h : e ∈ insertEntry (.text t) v es) : e = (.text t, v) ∨ e ∈ es := by
  rw [insertEntry] at h
  split at h
  · obtain ⟨f, hf, rfl⟩ := List.mem_map.1 h
    obtain ⟨k, w⟩ := f
    dsimp only at *
    split
    · rename_i hk
      rw [equal_text_right.1 hk]
      exact .inl rfl
    · exact .inr hf
  · rcases List.mem_append.1 h with h | h
    · exact .inr h
    · exact .inl (List.mem_singleton.1 h)

end Lookup

/-! ### Distinct keys -/

/-- No key is equal to another one. -/
def DistinctKeys (entries : List (Value × Value)) : Prop := entries.Pairwise fun a b => equal a.1 b.1 = false

namespace DistinctKeys

variable {key v : Value} {e : Value × Value} {es : List (Value × Value)}

theorem nil : DistinctKeys [] := List.Pairwise.nil

theorem tail (h : DistinctKeys (e :: es)) : DistinctKeys es := (List.pairwise_cons.1 h).2

/-- A text key of the first entry is not among the others. -/
theorem lookupText_tail {t : Text} (h : DistinctKeys (e :: es)) (he : e.1 = .text t) : lookupText t es = none := by
  refine lookupText_eq_none_iff.2 fun f hf hft => ?_
  have hne := (List.pairwise_cons.1 h).1 f hf
  rw [he, hft, equal_text_self] at hne
  cases hne

theorem insertEntry_of_lookup (h : lookup key es = none) : insertEntry key v es = es ++ [(key, v)] := by
  rw [Value.insertEntry, h]
  rfl

theorem forall_of_lookup (h : lookup key es = none) : ∀ e ∈ es, equal e.1 key = false := by
  induction es with
  | nil => simp
  | cons e es ih =>
    rw [lookup] at h
    split at h
    · cases h
    · rename_i he
      exact List.forall_mem_cons.2 ⟨by simpa using he, ih h⟩

theorem lookup_of_forall (h : ∀ e ∈ es, equal e.1 key = false) : lookup key es = none := by
  induction es with
  | nil => rfl
  | cons e es ih =>
    obtain ⟨he, hes⟩ := List.forall_mem_cons.1 h
    rw [lookup, he]
    exact ih hes

theorem insertEntry (h : DistinctKeys es) : DistinctKeys (insertEntry key v es) := by
  cases hkey : lookup key es with
  | none =>
    rw [insertEntry_of_lookup hkey]
    refine List.pairwise_append.2 ⟨h, List.pairwise_singleton _ _, fun e he f hf => ?_⟩
    obtain rfl := List.mem_singleton.1 hf
    exact forall_of_lookup hkey e he
  | some w =>
    rw [Value.insertEntry, hkey]
    refine List.pairwise_map.2 (h.imp ?_)
    rintro ⟨a, x⟩ ⟨b, y⟩ hab
    dsimp only
    split <;> split <;> exact hab

end DistinctKeys

end Value

end Rulebook
