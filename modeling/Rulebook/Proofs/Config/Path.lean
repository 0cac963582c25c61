import Rulebook.Config.Environment
import Rulebook.Proofs.Value.Path

/-!
# Paths into configurations

Where a path leads through tables only, setting a value at the end of another path is said by what stands at the end of
the path before.
-/

namespace Rulebook.Config

open Value

variable {v : Value} {key next : Text} {path other : List Text} {entries : List (Value × Value)}

/-- A way of more than one key leads into a section, which is there or is made, or it is blocked. -/
theorem setAt_cons_cases (v : Value) (key next : Text) (path : List Text) (entries : List (Value × Value)) :
    (∃ inner, (lookupText key entries).getD (.mapping []) = .mapping inner ∧
        setAt v (key :: next :: path) entries =
          insertEntry (.text key) (.mapping (setAt v (next :: path) inner)) entries) ∨
      (∀ inner, (lookupText key entries).getD (.mapping []) ≠ .mapping inner) ∧
        setAt v (key :: next :: path) entries = entries := by
  have hne : next :: path = [] → False := List.cons_ne_nil next path
  cases hw : lookupText key entries with
  | none =>
    refine .inl ⟨[], rfl, ?_⟩
    rw [setAt, hw]
    exact hne
  | some w =>
    cases w with
    | mapping inner =>
      refine .inl ⟨inner, rfl, ?_⟩
      rw [setAt, hw]
      exact hne
    | _ =>
      refine .inr ⟨by simp, ?_⟩
      rw [setAt, hw]
      exact hne

theorem setAt_single : setAt v [key] entries = insertEntry (.text key) v entries := rfl

/-- A longer path leads on from the section of its first key. -/
theorem at?_cons_of_ne_nil (h : path ≠ []) :
    at? (key :: path) (.mapping entries) = at? path ((lookupText key entries).getD (.mapping [])) := by
  rw [at?_cons_mapping]
  cases hw : lookupText key entries with
  | some w => rfl
  | none =>
    cases path with
    | nil => exact absurd rfl h
    | cons next path => rfl

theorem lookupText_setAt_of_ne (h : key ≠ next) :
    lookupText next (setAt v (key :: path) entries) = lookupText next entries := by
  have hinsert : ∀ w, lookupText next (insertEntry (.text key) w entries) = lookupText next entries := fun w =>
    lookupText_insertEntry_of_ne (by simpa using h)
  cases path with
  | nil => exact hinsert v
  | cons key' path =>
    rcases setAt_cons_cases v key key' path entries with ⟨inner, -, hset⟩ | ⟨-, hset⟩ <;> rw [hset]
    exact hinsert _

theorem distinctKeys_setAt (h : DistinctKeys entries) : DistinctKeys (setAt v path entries) := by
  cases path with
  | nil => exact h
  | cons key path =>
    cases path with
    | nil => exact h.insertEntry
    | cons next path =>
      rcases setAt_cons_cases v key next path entries with ⟨inner, -, hset⟩ | ⟨-, hset⟩ <;> rw [hset]
      · exact h.insertEntry
      · exact h

theorem at?_setAt_self (hpath : path ≠ []) (h : TablesAlong path (.mapping entries)) :
    at? path (.mapping (setAt v path entries)) = some v := by
  induction path generalizing entries with
  | nil => exact absurd rfl hpath
  | cons key path ih =>
    cases path with
    | nil => rw [setAt_single, at?_cons_mapping, lookupText_insertEntry_self, Option.bind_some, at?]
    | cons next path =>
      obtain ⟨-, h⟩ := tablesAlong_cons_mapping.1 h
      have hsection := tablesAlong_getD h
      rcases setAt_cons_cases v key next path entries with ⟨inner, hinner, hset⟩ | ⟨hblocked, -⟩
      · rw [hset, at?_cons_mapping, lookupText_insertEntry_self, Option.bind_some]
        exact ih (List.cons_ne_nil next path) (hinner ▸ hsection)
      · obtain ⟨inner, hinner, -⟩ := hsection
        exact absurd hinner (hblocked inner)

/-- Where neither path leads on from the end of the other, the value at the end of one is the same as before. -/
theorem at?_setAt_of_diverge (h : ¬path <+: other) (h' : ¬other <+: path) :
    at? other (.mapping (setAt v path entries)) = at? other (.mapping entries) := by
  induction path generalizing other entries with
  | nil => exact absurd List.nil_prefix h
  | cons key path ih =>
    cases other with
    | nil => exact absurd List.nil_prefix h'
    | cons key' other =>
      by_cases hkey : key = key'
      · subst hkey
        rw [List.prefix_cons_inj] at h h'
        cases path with
        | nil => exact absurd List.nil_prefix h
        | cons next path =>
          -- neither path ends at the key that they share, so both lead on into the same section
          have hother : other ≠ [] := by
            rintro rfl
            exact h' List.nil_prefix
          rcases setAt_cons_cases v key next path entries with ⟨inner, hinner, hset⟩ | ⟨-, hset⟩
          · rw [hset, at?_cons_mapping, lookupText_insertEntry_self, Option.bind_some, ih h h',
              at?_cons_of_ne_nil hother, hinner]
          · rw [hset]
      · rw [at?_cons_mapping, at?_cons_mapping, lookupText_setAt_of_ne hkey]

/-- Setting a value leaves tables along every path that does not lead on from it. -/
theorem tablesAlong_setAt (hother : path <+: other → path = other) (h : TablesAlong other (.mapping entries)) :
    TablesAlong other (.mapping (setAt v path entries)) := by
  induction path generalizing other entries with
  | nil => exact h
  | cons key path ih =>
    cases other with
    | nil => trivial
    | cons key' other =>
      obtain ⟨hdistinct, h⟩ := tablesAlong_cons_mapping.1 h
      refine tablesAlong_cons_mapping.2 ⟨distinctKeys_setAt hdistinct, ?_⟩
      by_cases hkey : key = key'
      · subst hkey
        rw [List.prefix_cons_inj, List.cons.injEq, and_iff_right rfl] at hother
        cases path with
        | nil =>
          -- the other path ends here too, and nothing is asked of what is set there
          rw [← hother List.nil_prefix]
          exact fun _ _ => trivial
        | cons next path =>
          rcases setAt_cons_cases v key next path entries with ⟨inner, hinner, hset⟩ | ⟨-, hset⟩
          · rw [hset, lookupText_insertEntry_self]
            rintro _ ⟨⟩
            refine ih hother ?_
            rw [← hinner]
            exact tablesAlong_getD h
          · rw [hset]
            exact h
      · rw [lookupText_setAt_of_ne hkey]
        exact h

end Rulebook.Config
