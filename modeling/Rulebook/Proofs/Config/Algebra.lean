import Rulebook.Proofs.Config.Merge

/-!
# The algebra of configuration layers

Trees of tables laid over each other: the empty table changes nothing on either side, a tree changes nothing over itself
nor a second time, and three trees may be laid over each other from either end, except where the middle one has a leaf
between two tables. There the order matters: the leaf hides the lower table, or it is gone before it meets it.
-/

namespace Rulebook.Config

open Value

/-- Somewhere the lower and the upper value have a table each, and the middle one a leaf between them. -/
def LeafBetween (lower middle upper : Value) : Prop :=
  ∃ path a b v, at? path lower = some (.mapping a) ∧ at? path upper = some (.mapping b) ∧
    at? path middle = some v ∧ IsLeaf v

/-- New keys after keys may be taken from either end. -/
theorem append_new_assoc (as bs cs : List Text) :
    (as ++ bs.filter fun t => t ∉ as) ++ (cs.filter fun t => t ∉ as ++ bs.filter fun t => t ∉ as) =
      as ++ (bs ++ cs.filter fun t => t ∉ bs).filter fun t => t ∉ as := by
  rw [List.filter_append, List.filter_filter, List.append_assoc]
  congr 2
  refine List.filter_congr fun t _ => ?_
  by_cases ht : t ∈ as <;> simp [ht]

section Laws

variable {a b c : List (Value × Value)} {t : Text} {x y z : Value}

theorem mergeEntries_nil_left (ha : IsTable a) : mergeEntries [] a = a := by
  refine (isTable_mergeEntries .nil ha).ext ha ?_ fun t => ?_
  · rw [textKeys_mergeEntries ha]
    exact List.filter_eq_self.2 (by simp [textKeys])
  · rw [lookupText_mergeEntries ha.distinct]
    exact none_overlay _

/-- A tree laid over itself changes nothing. -/
theorem mergeOver_self (hx : IsTree IsLeaf x) : mergeOver (some x) x = x := by
  induction hx with
  | leaf h => exact mergeOver_leaf h _
  | @table a ha hbelow ih =>
    rw [mergeOver_tables, mapping.injEq]
    refine (isTable_mergeEntries ha ha).ext ha ?_ fun t => ?_
    · rw [textKeys_mergeEntries ha, List.append_right_eq_self, List.filter_eq_nil_iff]
      simp
    · rw [lookupText_mergeEntries ha.distinct]
      cases ht : lookupText t a with
      | none => rfl
      | some v => rw [overlay_some, ih _ (mem_of_lookupText ht)]

/-- A tree laid over what it has been laid over already changes nothing. -/
theorem mergeOver_again (hx : IsTree IsLeaf x) (hy : IsTree IsLeaf y) :
    mergeOver (some (mergeOver (some x) y)) y = mergeOver (some x) y := by
  induction hy generalizing x with
  | leaf h => rw [mergeOver_leaf h, mergeOver_leaf h]
  | @table b hb hbelow ih =>
    rcases isLeaf_or_mapping x with hx' | ⟨a, rfl⟩
    · rw [mergeOver_onLeaf hx']
      exact mergeOver_self (.table hb hbelow)
    · obtain ⟨ha, habove⟩ := hx.of_mapping fun _ h => h
      have hab : IsTable (mergeEntries a b) := isTable_mergeEntries ha hb
      rw [mergeOver_tables, mergeOver_tables, mapping.injEq]
      refine (isTable_mergeEntries hab hb).ext hab ?_ fun t => ?_
      · rw [textKeys_mergeEntries hb, List.append_right_eq_self, List.filter_eq_nil_iff, textKeys_mergeEntries hb]
        simp +contextual
      · rw [lookupText_mergeEntries hb.distinct, lookupText_mergeEntries hb.distinct]
        cases hlb : lookupText t b with
        | none => rfl
        | some w =>
          cases hla : lookupText t a with
          | none => rw [none_overlay, overlay_some, mergeOver_self (.of_lookupText hbelow hlb)]
          | some v => rw [overlay_some, overlay_some, ih _ (mem_of_lookupText hlb) (.of_lookupText habove hla)]

theorem not_leafBetween_lookupText (h : ¬LeafBetween (.mapping a) (.mapping b) (.mapping c)) (hx : lookupText t a = some x)
    (hy : lookupText t b = some y) (hz : lookupText t c = some z) : ¬LeafBetween x y z := by
  rintro ⟨path, e, f, v, he, hf, hv, hleaf⟩
  refine h ⟨t :: path, e, f, v, ?_, ?_, ?_, hleaf⟩ <;> rw [at?_cons_mapping]
  · rw [hx, Option.bind_some, he]
  · rw [hz, Option.bind_some, hf]
  · rw [hy, Option.bind_some, hv]

/-- Three trees laid over each other from either end. -/
theorem mergeOver_assoc (hx : IsTree IsLeaf x) (hy : IsTree IsLeaf y) (hz : IsTree IsLeaf z) (h : ¬LeafBetween x y z) :
    mergeOver (some (mergeOver (some x) y)) z = mergeOver (some x) (mergeOver (some y) z) := by
  induction hz generalizing x y with
  | leaf hz => rw [mergeOver_leaf hz, mergeOver_leaf hz, mergeOver_leaf hz]
  | @table c hc hupper ih =>
    rcases isLeaf_or_mapping y with hy' | ⟨b, rfl⟩
    · -- the middle leaf hides what is below it, so no table may be there
      have hlower : ∀ a, some x ≠ some (.mapping a) := by
        rintro a ⟨⟩
        exact h ⟨[], a, c, y, rfl, rfl, rfl, hy'⟩
      rw [mergeOver_leaf hy', mergeOver_onLeaf hy', mergeOver_of_noTable hlower]
    rcases isLeaf_or_mapping x with hx' | ⟨a, rfl⟩
    · rw [mergeOver_onLeaf hx', mergeOver_onLeaf hx']
    obtain ⟨ha, hlower⟩ := hx.of_mapping fun _ h => h
    obtain ⟨hb, hmiddle⟩ := hy.of_mapping fun _ h => h
    have hbc : IsTable (mergeEntries b c) := isTable_mergeEntries hb hc
    rw [mergeOver_tables, mergeOver_tables, mergeOver_tables, mergeOver_tables, mapping.injEq]
    refine (isTable_mergeEntries (isTable_mergeEntries ha hb) hc).ext (isTable_mergeEntries ha hbc) ?_ fun t => ?_
    · rw [textKeys_mergeEntries hc, textKeys_mergeEntries hb, textKeys_mergeEntries hbc, textKeys_mergeEntries hc]
      exact append_new_assoc _ _ _
    · rw [lookupText_mergeEntries hc.distinct, lookupText_mergeEntries hb.distinct,
        lookupText_mergeEntries hbc.distinct, lookupText_mergeEntries hc.distinct]
      cases hlc : lookupText t c with
      | none => rfl
      | some w =>
        cases hlb : lookupText t b with
        | none => rw [none_overlay, overlay_none]
        | some v =>
          cases hla : lookupText t a with
          | none => rw [none_overlay, none_overlay]
          | some u =>
            rw [overlay_some, overlay_some, overlay_some, overlay_some]
            exact congrArg some (ih _ (mem_of_lookupText hlc) (.of_lookupText hlower hla) (.of_lookupText hmiddle hlb)
              (not_leafBetween_lookupText h hla hlb hlc))

end Laws

section Merging

variable {a b c : List (Value × Value)}

/-- **The algebra of layers.** The empty configuration is neutral on both sides, a configuration changes nothing over
itself, laying one over another a second time changes nothing, and three may be laid over each other from either end
unless the middle one has a leaf somewhere between two tables. -/
theorem merge_algebra (ha : IsTree IsLeaf (.mapping a)) (hb : IsTree IsLeaf (.mapping b))
    (hc : IsTree IsLeaf (.mapping c)) :
    merge (.mapping []) (.mapping a) = .ok (.mapping a) ∧
    merge (.mapping a) (.mapping []) = .ok (.mapping a) ∧
    merge (.mapping a) (.mapping a) = .ok (.mapping a) ∧
    (∃ ab, merge (.mapping a) (.mapping b) = .ok ab ∧ merge ab (.mapping b) = .ok ab) ∧
    (¬LeafBetween (.mapping a) (.mapping b) (.mapping c) →
      ∃ ab bc abc, merge (.mapping a) (.mapping b) = .ok ab ∧ merge (.mapping b) (.mapping c) = .ok bc ∧
        merge ab (.mapping c) = .ok abc ∧ merge (.mapping a) bc = .ok abc) := by
  have htable : IsTable a := (ha.of_mapping fun _ h => h).1
  refine ⟨?_, rfl, ?_, ⟨_, rfl, ?_⟩, fun h => ⟨_, _, _, rfl, rfl, rfl, ?_⟩⟩
  · rw [merge_tables, mergeEntries_nil_left htable]
  · rw [merge_tables, ← mergeOver_tables, mergeOver_self ha]
  · rw [merge_tables, ← mergeOver_tables, ← mergeOver_tables, mergeOver_again ha hb]
  · rw [merge_tables, ← mergeOver_tables, ← mergeOver_tables, ← mergeOver_assoc ha hb hc h]
    rfl

/-- A configuration that changes a leaf of `upperSections` alone. -/
def levelSection : List (Value × Value) := [(.text "log", .mapping [(.text "level", .text "DEBUG")])]

theorem isTree_levelSection : IsTree IsLeaf (.mapping levelSection) := by
  refine .of_pairs [("log", _)] (by decide) (List.forall_mem_singleton.2 ?_)
  exact .of_leaves [("level", _)] (by decide) (by simp [IsLeaf])

theorem merge_algebra_sections :
    IsTree IsLeaf (.mapping lowerSections) ∧ IsTree IsLeaf (.mapping upperSections) ∧
      IsTree IsLeaf (.mapping levelSection) ∧
      ¬LeafBetween (.mapping lowerSections) (.mapping upperSections) (.mapping levelSection) ∧
      merge (.mapping lowerSections) (.mapping lowerSections) = .ok (.mapping lowerSections) ∧
      ∃ ab bc abc, merge (.mapping lowerSections) (.mapping upperSections) = .ok ab ∧
        merge (.mapping upperSections) (.mapping levelSection) = .ok bc ∧
        merge ab (.mapping levelSection) = .ok abc ∧ merge (.mapping lowerSections) bc = .ok abc := by
  have hbetween : ¬LeafBetween (.mapping lowerSections) (.mapping upperSections) (.mapping levelSection) := by
    rintro ⟨path, x, z, v, hx, hz, hv, hleaf⟩
    cases path with
    | nil =>
      cases hv
      exact hleaf _ rfl
    | cons key path =>
      -- the first and the third configuration have no key in common
      by_cases hkey : key = ("log" : Text)
      · have hnone : lookupText "log" lowerSections = none := lookupText_eq_none_iff_notMem.2 (by decide)
        rw [at?_cons_mapping, hkey, hnone] at hx
        cases hx
      · have hnone : lookupText key levelSection = none :=
          lookupText_eq_none_iff_notMem.2 (by simpa [levelSection, textKeys, keyText?] using hkey)
        rw [at?_cons_mapping, hnone] at hz
        cases hz
  obtain ⟨-, -, hself, -, hassoc⟩ := merge_algebra isTree_lowerSections isTree_upperSections isTree_levelSection
  exact ⟨isTree_lowerSections, isTree_upperSections, isTree_levelSection, hbetween, hself, hassoc hbetween⟩

end Merging

end Rulebook.Config
