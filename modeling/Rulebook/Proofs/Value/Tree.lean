import Rulebook.Proofs.Value.Path

/-!
# Trees of tables

A table is a mapping whose keys are texts, none of them twice. Tables keep their order: two of them are equal if they have
the same keys in the same order, with the same values under them. A tree has tables as its nodes, to any depth, and other
values as its leaves.
-/

namespace Rulebook.Value

/-- The text that a key is. -/
def keyText? : Value → Option Text
  | .text t => some t
  | _ => none

/-- The texts among the keys, in order. -/
def textKeys (entries : List (Value × Value)) : List Text := entries.filterMap fun e => keyText? e.1

/-- The keys of a table, none where there is no table. -/
def tableKeys : Option Value → List Text
  | some (.mapping entries) => textKeys entries
  | _ => []

/-- The keys are texts, and none of them stands twice. -/
structure IsTable (entries : List (Value × Value)) : Prop where
  keyed : KeyedByTexts entries
  distinct : DistinctKeys entries

section Keys

variable {t : Text} {v : Value} {es fs : List (Value × Value)}

theorem keyText?_eq_some_iff {k : Value} : keyText? k = some t ↔ k = .text t := by
  cases k <;> simp [keyText?]

theorem tableKeys_eq_nil {old : Option Value} (h : ∀ a, old ≠ some (.mapping a)) : tableKeys old = [] := by
  cases old with
  | none => rfl
  | some v =>
    cases v with
    | mapping a => exact absurd rfl (h a)
    | _ => rfl

@[simp] theorem textKeys_cons_text : textKeys ((.text t, v) :: es) = t :: textKeys es := rfl

theorem textKeys_append : textKeys (es ++ fs) = textKeys es ++ textKeys fs := List.filterMap_append

theorem lookupText_eq_none_iff_notMem : lookupText t es = none ↔ t ∉ textKeys es := by
  rw [lookupText_eq_none_iff, textKeys, List.mem_filterMap]
  simp only [keyText?_eq_some_iff]
  constructor
  · rintro h ⟨e, he, hkey⟩
    exact h e he hkey
  · intro h e he hkey
    exact h ⟨e, he, hkey⟩

theorem isSome_lookupText : (lookupText t es).isSome = true ↔ t ∈ textKeys es := by
  rw [← not_iff_not, ← lookupText_eq_none_iff_notMem, Option.not_isSome_iff_eq_none]

theorem DistinctKeys.nodup_textKeys (h : DistinctKeys es) : (textKeys es).Nodup := by
  refine List.pairwise_filterMap.2 (h.imp fun {e f} hne t ht u hu => ?_)
  rw [keyText?_eq_some_iff] at ht hu
  rintro rfl
  rw [ht, hu, equal_text_self] at hne
  cases hne

theorem textKeys_replaceEntry (key : Value) : textKeys (replaceEntry key v es) = textKeys es := by
  rw [textKeys, replaceEntry, List.filterMap_map]
  refine congrArg (List.filterMap · es) (funext fun e => ?_)
  dsimp only [Function.comp_apply]
  split <;> rfl

/-- A new key comes last, and one that is there keeps its place. -/
theorem textKeys_insertEntry :
    textKeys (insertEntry (.text t) v es) = if t ∈ textKeys es then textKeys es else textKeys es ++ [t] := by
  have hsome : (lookup (.text t) es).isSome = true ↔ t ∈ textKeys es := isSome_lookupText
  rw [insertEntry]
  by_cases ht : t ∈ textKeys es
  · rw [if_pos (hsome.2 ht), if_pos ht, textKeys_replaceEntry]
  · rw [if_neg (mt hsome.1 ht), if_neg ht, textKeys_append]
    rfl

end Keys

namespace IsTable

variable {t : Text} {k v : Value} {es fs : List (Value × Value)}

theorem nil : IsTable [] := ⟨by simp [KeyedByTexts], .nil⟩

theorem head (h : IsTable ((k, v) :: es)) : ∃ t, k = .text t := h.keyed (k, v) List.mem_cons_self

theorem tail {e : Value × Value} (h : IsTable (e :: es)) : IsTable es :=
  ⟨fun f hf => h.keyed f (List.mem_cons_of_mem e hf), h.distinct.tail⟩

theorem insertEntry (h : IsTable es) : IsTable (insertEntry (.text t) v es) := by
  refine ⟨fun e he => ?_, h.distinct.insertEntry⟩
  rcases mem_insertEntry_text he with rfl | he
  · exact ⟨t, rfl⟩
  · exact h.keyed e he

/-- An entry of a table is found under its key. -/
theorem exists_lookupText {e : Value × Value} (h : IsTable es) (he : e ∈ es) : ∃ t, lookupText t es = some e.2 := by
  induction es with
  | nil => cases he
  | cons f es ih =>
    obtain ⟨k, v⟩ := f
    obtain ⟨t, rfl⟩ := h.head
    rcases List.mem_cons.1 he with rfl | he
    · exact ⟨t, by rw [lookupText_cons, if_pos (equal_text_self t)]⟩
    · obtain ⟨u, hu⟩ := ih h.tail he
      refine ⟨u, ?_⟩
      have hne : ¬equal (.text t) (.text u) = true := by
        rw [equal_text_right]
        rintro ⟨⟩
        rw [h.distinct.lookupText_tail rfl] at hu
        cases hu
      rw [lookupText_cons, if_neg hne, hu]

/-- Tables with the same keys in the same order and the same values under them are equal. -/
theorem ext (hes : IsTable es) (hfs : IsTable fs) (hkeys : textKeys es = textKeys fs)
    (hvalues : ∀ t, lookupText t es = lookupText t fs) : es = fs := by
  induction es generalizing fs with
  | nil =>
    cases fs with
    | nil => rfl
    | cons f fs =>
      obtain ⟨k, w⟩ := f
      obtain ⟨t, rfl⟩ := hfs.head
      cases hkeys
  | cons e es ih =>
    obtain ⟨k, v⟩ := e
    obtain ⟨t, rfl⟩ := hes.head
    cases fs with
    | nil => cases hkeys
    | cons f fs =>
      obtain ⟨k', w⟩ := f
      obtain ⟨t', rfl⟩ := hfs.head
      rw [textKeys_cons_text, textKeys_cons_text, List.cons.injEq] at hkeys
      obtain ⟨rfl, hkeys⟩ := hkeys
      have hvalue : v = w := by
        have := hvalues t
        rw [lookupText_cons, lookupText_cons, if_pos (equal_text_self t), if_pos (equal_text_self t)] at this
        exact Option.some.inj this
      have hrest : es = fs := by
        refine ih hes.tail hfs.tail hkeys fun u => ?_
        by_cases hu : t = u
        · rw [← hu, hes.distinct.lookupText_tail rfl, hfs.distinct.lookupText_tail rfl]
        · have hne : ¬equal (.text t) (.text u) = true := by simpa [equal_text_right] using hu
          have := hvalues u
          rwa [lookupText_cons, lookupText_cons, if_neg hne, if_neg hne] at this
      rw [hvalue, hrest]

end IsTable

/-! ### Trees -/

/-- The value is no mapping. -/
def IsLeaf (v : Value) : Prop := ∀ entries, v ≠ .mapping entries

/-- Tables in tables to any depth, with leaves of some kind. -/
inductive IsTree (Leaf : Value → Prop) : Value → Prop
  | leaf {v : Value} (h : Leaf v) : IsTree Leaf v
  | table {entries : List (Value × Value)} (h : IsTable entries) (hbelow : ∀ e ∈ entries, IsTree Leaf e.2) :
      IsTree Leaf (.mapping entries)

theorem isLeaf_or_mapping (v : Value) : IsLeaf v ∨ ∃ entries, v = .mapping entries := by
  cases v with
  | mapping entries => exact .inr ⟨entries, rfl⟩
  | _ => exact .inl (by simp [IsLeaf])

/-- A path is blocked where it would lead on from a leaf. -/
def Blocked (path : List Text) (v : Value) : Prop :=
  ∃ before u, before <+: path ∧ before ≠ path ∧ at? before v = some u ∧ IsLeaf u

theorem at?_append (path rest : List Text) (v : Value) : at? (path ++ rest) v = (at? path v).bind (at? rest) := by
  induction path generalizing v with
  | nil => rfl
  | cons key path ih =>
    cases v with
    | mapping entries =>
      rw [List.cons_append, at?_cons_mapping, at?_cons_mapping]
      cases lookupText key entries with
      | none => rfl
      | some w => exact ih w
    | _ => rfl

theorem IsLeaf.at?_eq_none {v : Value} (h : IsLeaf v) {path : List Text} (hpath : path ≠ []) : at? path v = none := by
  cases path with
  | nil => exact absurd rfl hpath
  | cons key path =>
    cases v with
    | mapping entries => exact absurd rfl (h entries)
    | _ => rfl

theorem Blocked.at?_eq_none {path : List Text} {v : Value} (h : Blocked path v) : at? path v = none := by
  obtain ⟨before, u, ⟨rest, rfl⟩, hne, hat, hleaf⟩ := h
  have hrest : rest ≠ [] := by
    rintro rfl
    exact hne (List.append_nil before).symm
  rw [at?_append, hat, Option.bind_some, hleaf.at?_eq_none hrest]

theorem blocked_cons_mapping {key : Text} {path : List Text} {entries : List (Value × Value)} :
    Blocked (key :: path) (.mapping entries) ↔ ∃ w, lookupText key entries = some w ∧ Blocked path w := by
  constructor
  · rintro ⟨before, u, hprefix, hne, hat, hu⟩
    rcases List.prefix_cons_iff.1 hprefix with rfl | ⟨before, rfl, hbefore⟩
    · cases hat
      exact absurd rfl (hu entries)
    · obtain ⟨w, hkey, hat⟩ := Option.bind_eq_some_iff.1 hat
      exact ⟨w, hkey, before, u, hbefore, mt (congrArg (key :: ·)) hne, hat, hu⟩
  · rintro ⟨w, hkey, before, u, hprefix, hne, hat, hu⟩
    refine ⟨key :: before, u, (List.prefix_cons_inj key).2 hprefix, fun heq => hne (List.cons.inj heq).2, ?_, hu⟩
    rw [at?_cons_mapping, hkey, Option.bind_some, hat]

namespace IsTree

variable {Leaf : Value → Prop} {t : Text} {v w : Value} {entries : List (Value × Value)}

theorem of_lookupText (h : ∀ e ∈ entries, IsTree Leaf e.2) (ht : lookupText t entries = some w) : IsTree Leaf w :=
  h _ (mem_of_lookupText ht)

theorem of_mapping (hleaf : ∀ v, Leaf v → IsLeaf v) (h : IsTree Leaf (.mapping entries)) :
    IsTable entries ∧ ∀ e ∈ entries, IsTree Leaf e.2 := by
  cases h with
  | leaf h => exact absurd rfl (hleaf _ h entries)
  | table h hbelow => exact ⟨h, hbelow⟩

/-- Values under distinct texts are a table. -/
theorem of_pairs (pairs : List (Text × Value)) (hkeys : (pairs.map Prod.fst).Nodup)
    (hbelow : ∀ p ∈ pairs, IsTree Leaf p.2) : IsTree Leaf (.mapping (pairs.map fun p => (.text p.1, p.2))) := by
  refine .table ⟨?_, ?_⟩ ?_
  · intro e he
    obtain ⟨p, _, rfl⟩ := List.mem_map.1 he
    exact ⟨p.1, rfl⟩
  · refine List.pairwise_map.2 ((List.pairwise_map.1 hkeys).imp fun {p q} hne => ?_)
    rw [Bool.eq_false_iff, ne_eq, equal_text_right, text.injEq]
    exact hne
  · intro e he
    obtain ⟨p, hp, rfl⟩ := List.mem_map.1 he
    exact hbelow p hp

theorem of_leaves (pairs : List (Text × Value)) (hkeys : (pairs.map Prod.fst).Nodup) (hleaf : ∀ p ∈ pairs, Leaf p.2) :
    IsTree Leaf (.mapping (pairs.map fun p => (.text p.1, p.2))) :=
  of_pairs pairs hkeys fun p hp => .leaf (hleaf p hp)

/-- A path through a tree leads to a tree. -/
theorem of_at? {path : List Text} (hleaf : ∀ v, Leaf v → IsLeaf v) (h : IsTree Leaf v) (hw : at? path v = some w) :
    IsTree Leaf w := by
  induction path generalizing v with
  | nil =>
    cases hw
    exact h
  | cons key path ih =>
    rcases isLeaf_or_mapping v with hv | ⟨entries, rfl⟩
    · rw [hv.at?_eq_none (List.cons_ne_nil key path)] at hw
      cases hw
    · obtain ⟨u, hkey, hu⟩ := Option.bind_eq_some_iff.1 hw
      exact ih (of_lookupText (h.of_mapping hleaf).2 hkey) hu

/-- A path through a tree leads through tables as far as it leads, or it is blocked. -/
theorem tablesAlong_or_blocked (hleaf : ∀ v, Leaf v → IsLeaf v) (h : IsTree Leaf v) (path : List Text) :
    TablesAlong path v ∨ Blocked path v := by
  induction path generalizing v with
  | nil => exact .inl trivial
  | cons key path ih =>
    cases h with
    | leaf h => exact .inr ⟨[], v, List.nil_prefix, (List.cons_ne_nil key path).symm, rfl, hleaf v h⟩
    | @table entries h hbelow =>
      rw [tablesAlong_cons_mapping]
      cases hkey : lookupText key entries with
      | none => exact .inl ⟨h.distinct, by simp⟩
      | some w =>
        rcases ih (of_lookupText hbelow hkey) with htables | hblocked
        · refine .inl ⟨h.distinct, ?_⟩
          rintro _ ⟨⟩
          exact htables
        · exact .inr (blocked_cons_mapping.2 ⟨w, hkey, hblocked⟩)

end IsTree

end Rulebook.Value
