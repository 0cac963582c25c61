import Rulebook.Proofs.Value.Entries

/-!
# Paths into mappings

A path of keys leads through mappings to a value, or to nothing where a key is missing or the way is blocked.
-/

namespace Rulebook.Value

/-- The value that a path of keys leads to through mappings. -/
def at? : List Text → Value → Option Value
  | [], v => some v
  | key :: path, .mapping entries => (lookupText key entries).bind (at? path)
  | _ :: _, _ => none

/-- A path leads through mappings only, as far as it leads, and none of them has a key twice. -/
def TablesAlong : List Text → Value → Prop
  | [], _ => True
  | key :: path, v =>
    ∃ entries, v = .mapping entries ∧ DistinctKeys entries ∧
      ∀ w, lookupText key entries = some w → TablesAlong path w

/-- The same value, or a mapping where the other has a mapping. -/
inductive SameOrTables : Option Value → Option Value → Prop
  | same (v? : Option Value) : SameOrTables v? v?
  | tables (es fs : List (Value × Value)) : SameOrTables (some (.mapping es)) (some (.mapping fs))

namespace SameOrTables

variable {a b c d : Option Value}

theorem trans (h : SameOrTables a b) (h' : SameOrTables b c) : SameOrTables a c := by
  cases h with
  | same => exact h'
  | tables es fs =>
    cases h' with
    | same => exact .tables es fs
    | tables _ gs => exact .tables es gs

theorem or (h : SameOrTables a b) (h' : SameOrTables c d) : SameOrTables (a.or c) (b.or d) := by
  cases h with
  | same =>
    cases a with
    | none => exact h'
    | some v => exact .same (some v)
  | tables es fs => exact .tables es fs

end SameOrTables

section Path

variable {key : Text} {path : List Text} {entries : List (Value × Value)}

theorem at?_cons_mapping : at? (key :: path) (.mapping entries) = (lookupText key entries).bind (at? path) := rfl

theorem at?_single : at? [key] (.mapping entries) = lookupText key entries := by
  rw [at?_cons_mapping]
  cases lookupText key entries <;> rfl

theorem tablesAlong_cons_mapping :
    TablesAlong (key :: path) (.mapping entries) ↔
      DistinctKeys entries ∧ ∀ w, lookupText key entries = some w → TablesAlong path w := by
  constructor
  · rintro ⟨_, ⟨⟩, h⟩
    exact h
  · exact fun h => ⟨entries, rfl, h⟩

theorem tablesAlong_empty (path : List Text) : TablesAlong path (.mapping []) := by
  cases path with
  | nil => trivial
  | cons key path => exact tablesAlong_cons_mapping.2 ⟨.nil, fun w h => by cases h⟩

/-- What a key leads to continues the tables, also where it is not there and an empty table stands for it. -/
theorem tablesAlong_getD (h : ∀ w, lookupText key entries = some w → TablesAlong path w) :
    TablesAlong path ((lookupText key entries).getD (.mapping [])) := by
  cases hw : lookupText key entries with
  | none => exact tablesAlong_empty path
  | some w => exact h w hw

end Path

end Rulebook.Value
