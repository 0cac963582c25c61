import Rulebook.Config.Source
import Rulebook.Proofs.Config.Merge
import Rulebook.Proofs.Config.Path

/-!
# Leaves of settings

The single fields of the settings, each with the path that leads to it and the variable that sets it. A configuration in
which every section on these paths is a table is a layer; it says of each leaf whether it has a value, and which.
-/

namespace Rulebook.Config

open Value

/-- A field of the settings that is no section. -/
inductive Leaf where
  | appName
  | debug
  | undefinedVariables
  | maxPatternLength
  | level
  | format
  | redactSensitive
  deriving DecidableEq

namespace Leaf

/-- The names of the sections that the leaf is in, and its own. -/
def names : Leaf → List String
  | appName => ["app_name"]
  | debug => ["debug"]
  | undefinedVariables => ["logic", "undefined_variables"]
  | maxPatternLength => ["logic", "max_pattern_length"]
  | level => ["observability", "logging", "level"]
  | format => ["observability", "logging", "format"]
  | redactSensitive => ["observability", "logging", "redact_sensitive"]

/-- The path of keys to the leaf. -/
def path (leaf : Leaf) : List Text := leaf.names.map Text.ofString

/-- The name of the variable that sets the leaf, in lower case. -/
def variableName (leaf : Leaf) : Text := environmentMark ++ Text.join sectionMark leaf.path

theorem path_ne_nil (leaf : Leaf) : leaf.path ≠ [] := by
  cases leaf <;> exact List.cons_ne_nil _ _

theorem eq_of_path_prefix {leaf other : Leaf} (h : leaf.path <+: other.path) : leaf = other := by
  revert h
  cases leaf <;> cases other <;> decide

/-- Paths that start in the same section lead on from it in different ways. -/
theorem eq_of_tail_prefix {leaf other : Leaf} {key : Text} {path path' : List Text} (h : leaf.path = key :: path)
    (h' : other.path = key :: path') (hlead : path <+: path') : leaf = other := by
  refine eq_of_path_prefix ?_
  rw [h, h']
  exact (List.prefix_cons_inj key).2 hlead

theorem eq_of_variableName_eq {leaf other : Leaf} (h : leaf.variableName = other.variableName) : leaf = other := by
  revert h
  cases leaf <;> cases other <;> decide

end Leaf

/-- The value that a configuration has for a leaf. -/
def leafIn (entries : List (Value × Value)) (leaf : Leaf) : Option Value := at? leaf.path (.mapping entries)

/-- Every section of the settings that the configuration has is a table, with no key twice. -/
def IsLayer (entries : List (Value × Value)) : Prop := ∀ leaf : Leaf, TablesAlong leaf.path (.mapping entries)

theorem isLayer_nil : IsLayer [] := fun leaf => tablesAlong_empty leaf.path

theorem IsLayer.setAt {entries : List (Value × Value)} (h : IsLayer entries) (leaf : Leaf) (v : Value) :
    IsLayer (setAt v leaf.path entries) := by
  intro other
  refine tablesAlong_setAt (fun hlead => ?_) (h other)
  rw [Leaf.eq_of_path_prefix hlead]

/-- Setting a leaf sets no other one. -/
theorem leafIn_setAt {entries : List (Value × Value)} (h : IsLayer entries) (leaf other : Leaf) (v : Value) :
    leafIn (setAt v leaf.path entries) other = if other = leaf then some v else leafIn entries other := by
  by_cases hl : other = leaf
  · rw [if_pos hl, hl, leafIn, at?_setAt_self leaf.path_ne_nil (h leaf)]
  · rw [if_neg hl, leafIn, leafIn]
    exact at?_setAt_of_diverge (fun hp => hl (Leaf.eq_of_path_prefix hp).symm) fun hp => hl (Leaf.eq_of_path_prefix hp)

/-- Of a configuration laid over another each leaf is taken that it has, the others from below. -/
theorem leafIn_mergeEntries {a b : List (Value × Value)} (hb : IsLayer b) (leaf : Leaf) :
    SameOrTables (leafIn (mergeEntries a b) leaf) ((leafIn b leaf).or (leafIn a leaf)) :=
  sameOrTables_mergeOver (v := .mapping a) (hb leaf)

theorem IsLayer.mergeEntries {a b : List (Value × Value)} (ha : IsLayer a) (hb : IsLayer b) :
    IsLayer (mergeEntries a b) :=
  fun leaf => tablesAlong_mergeOver (v := .mapping a) (ha leaf) (hb leaf)

end Rulebook.Config
