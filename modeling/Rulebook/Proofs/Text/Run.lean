import Rulebook.Text.Basic
import Mathlib.Data.List.TakeWhile

/-!
# Runs of code points

A reader takes the code points of a kind as far as they go, and goes on with the first one of another kind.
-/

namespace Rulebook.Text

variable {p : CodePoint → Bool} {s t : Text}

theorem takeWhile_eq_nil_iff_head? : t.takeWhile p = [] ↔ ∀ c ∈ t.head?, p c = false := by
  cases t <;> simp

theorem head?_dropWhile (t : Text) : ∀ c ∈ (t.dropWhile p).head?, p c = false := by
  intro c hc
  have hstop := List.head?_dropWhile_not p t
  rwa [hc] at hstop

/-- A run goes up to where it ends. -/
theorem takeWhile_dropWhile_append (rest : Text) (hs : ∀ c ∈ s, p c = true) (hrest : ∀ c ∈ rest.head?, p c = false) :
    (s ++ rest).takeWhile p = s ∧ (s ++ rest).dropWhile p = rest := by
  rw [List.takeWhile_append_of_pos hs, List.dropWhile_append_of_pos hs]
  cases rest with
  | nil => simp
  | cons c t => simp [hrest c rfl]

end Rulebook.Text
