import Rulebook.Config.Merge
import Rulebook.Proofs.Value.Tree

/-!
# Configurations laid over each other

What a configuration laid over another holds at the end of a path: the value of the upper one, or the value of the lower
one where the upper has none and is not in the way; tables that both have there are laid over each other in turn. The
keys of the lower table come first, in their order, then the new ones.
-/

namespace Rulebook.Config

open Value

/-- What one configuration may hold laid over what another may hold. -/
def overlay (lower upper : Option Value) : Option Value := (upper.map (mergeOver lower)).or lower

@[simp] theorem overlay_none (lower : Option Value) : overlay lower none = lower := rfl

@[simp] theorem overlay_some (lower : Option Value) (w : Value) : overlay lower (some w) = some (mergeOver lower w) := rfl

/-! ### Entries -/

section Entries

variable {a b : List (Value × Value)} {t : Text}

theorem distinctKeys_mergeEntries (ha : DistinctKeys a) : DistinctKeys (mergeEntries a b) := by
  induction b generalizing a with
  | nil => exact ha
  | cons e b ih =>
    obtain ⟨k, v⟩ := e
    rw [mergeEntries]
    exact ih ha.insertEntry

theorem lookupText_mergeEntries (hb : DistinctKeys b) :
    lookupText t (mergeEntries a b) = overlay (lookupText t a) (lookupText t b) := by
  induction b generalizing a with
  | nil => rfl
  | cons e b ih =>
    obtain ⟨k, v⟩ := e
    rw [mergeEntries, ih hb.tail, lookupText_cons]
    by_cases hk : equal k (.text t) = true
    · obtain rfl := equal_text_right.1 hk
      rw [hb.lookupText_tail rfl, if_pos hk, lookupText_insertEntry_self]
      rfl
    · rw [if_neg hk, lookupText_insertEntry_of_ne (mt equal_text_right.2 hk)]

theorem isTable_mergeEntries (ha : IsTable a) (hb : IsTable b) : IsTable (mergeEntries a b) := by
  induction b generalizing a with
  | nil => exact ha
  | cons e b ih =>
    obtain ⟨k, v⟩ := e
    obtain ⟨t, rfl⟩ := hb.head
    rw [mergeEntries]
    exact ih ha.insertEntry hb.tail

/-- The keys that are there keep their places, and the new ones follow in their order. -/
theorem textKeys_mergeEntries (hb : IsTable b) :
    textKeys (mergeEntries a b) = textKeys a ++ (textKeys b).filter fun t => t ∉ textKeys a := by
  induction b generalizing a with
  | nil => exact (List.append_nil _).symm
  | cons e b ih =>
    obtain ⟨k, v⟩ := e
    obtain ⟨t, rfl⟩ := hb.head
    have hnew : t ∉ textKeys b := lookupText_eq_none_iff_notMem.1 (hb.distinct.lookupText_tail rfl)
    rw [mergeEntries, ih hb.tail, textKeys_insertEntry, textKeys_cons_text]
    by_cases ht : t ∈ textKeys a
    · rw [if_pos ht, List.filter_cons_of_neg (by simpa using ht)]
    · rw [if_neg ht, List.filter_cons_of_pos (by simpa using ht), List.append_assoc, List.singleton_append]
      -- the key that has just been put in is not among those still to come
      congr 2
      refine List.filter_congr fun u hu => ?_
      have hne : u ≠ t := ne_of_mem_of_not_mem hu hnew
      simp [hne]

theorem mergeOver_tables : mergeOver (some (.mapping a)) (.mapping b) = .mapping (mergeEntries a b) := rfl

theorem merge_tables : merge (.mapping a) (.mapping b) = .ok (.mapping (mergeEntries a b)) := rfl

end Entries

/-! ### Values -/

section Values

variable {v w : Value} {old : Option Value} {path : List Text}

/-- Where there is no table below, the upper value stands as it is. -/
theorem mergeOver_of_noTable (h : ∀ a, old ≠ some (.mapping a)) (w : Value) : mergeOver old w = w := by
  cases w with
  | mapping b =>
    cases old with
    | none => rfl
    | some v =>
      cases v with
      | mapping a => exact absurd rfl (h a)
      | _ => rfl
  | _ => rfl

theorem mergeOver_none (w : Value) : mergeOver none w = w := mergeOver_of_noTable (by simp) w

theorem none_overlay (upper : Option Value) : overlay none upper = upper := by
  cases upper with
  | none => rfl
  | some w => rw [overlay_some, mergeOver_none]

/-- What is no table replaces what was there. -/
theorem mergeOver_leaf (hw : IsLeaf w) (old : Option Value) : mergeOver old w = w := by
  cases w with
  | mapping b => exact absurd rfl (hw b)
  | _ => rfl

theorem mergeOver_onLeaf (hv : IsLeaf v) (w : Value) : mergeOver (some v) w = w :=
  mergeOver_of_noTable (fun a h => hv a (Option.some.inj h)) w

/-- Along tables of the upper configuration paths lead to what it has, laid over what the lower one has. -/
theorem at?_mergeOver (hw : TablesAlong path w) :
    at? path (mergeOver (some v) w) = overlay (at? path v) (at? path w) := by
  induction path generalizing v w with
  | nil => rfl
  | cons key path ih =>
    rcases isLeaf_or_mapping v with hv | ⟨a, rfl⟩
    · rw [mergeOver_onLeaf hv, hv.at?_eq_none (List.cons_ne_nil key path), none_overlay]
    · obtain ⟨b, rfl, hb, hbelow⟩ := hw
      rw [mergeOver_tables, at?_cons_mapping, at?_cons_mapping, at?_cons_mapping, lookupText_mergeEntries hb]
      cases hlb : lookupText key b with
      | none => rfl
      | some w =>
        cases hla : lookupText key a with
        | none =>
          rw [overlay_some, mergeOver_none]
          exact (none_overlay (at? path w)).symm
        | some v => exact ih (hbelow w hlb)

theorem tablesAlong_mergeOver (hv : TablesAlong path v) (hw : TablesAlong path w) :
    TablesAlong path (mergeOver (some v) w) := by
  induction path generalizing v w with
  | nil => trivial
  | cons key path ih =>
    obtain ⟨a, rfl, ha, hva⟩ := hv
    obtain ⟨b, rfl, hb, hwb⟩ := hw
    rw [mergeOver_tables, tablesAlong_cons_mapping, lookupText_mergeEntries hb]
    refine ⟨distinctKeys_mergeEntries ha, ?_⟩
    cases hlb : lookupText key b with
    | none => exact hva
    | some w =>
      cases hla : lookupText key a with
      | none =>
        rintro _ ⟨⟩
        rw [mergeOver_none]
        exact hwb w hlb
      | some v =>
        rintro _ ⟨⟩
        exact ih (hva v hla) (hwb w hlb)

/-- Along tables a merged configuration has what the upper one has, or else the lower one, up to tables that both have. -/
theorem sameOrTables_mergeOver (hw : TablesAlong path w) :
    SameOrTables (at? path (mergeOver (some v) w)) ((at? path w).or (at? path v)) := by
  rw [at?_mergeOver hw]
  cases at? path w with
  | none => exact .same _
  | some w =>
    rcases isLeaf_or_mapping w with hw | ⟨b, rfl⟩
    · rw [overlay_some, mergeOver_leaf hw]
      exact .same _
    · cases at? path v with
      | none => exact .same _
      | some v =>
        rcases isLeaf_or_mapping v with hv | ⟨a, rfl⟩
        · rw [overlay_some, mergeOver_onLeaf hv]
          exact .same _
        · exact .tables _ _

/-- Where the upper configuration is in the way of a path, the path leads nowhere. -/
theorem blocked_mergeOver (h : Blocked path w) (hw : ∀ before, TablesAlong before w ∨ Blocked before w) :
    Blocked path (mergeOver (some v) w) := by
  obtain ⟨before, u, hprefix, hne, hat, hu⟩ := h
  have htables : TablesAlong before w := (hw before).resolve_right fun hblocked => by
    rw [hblocked.at?_eq_none] at hat
    cases hat
  refine ⟨before, u, hprefix, hne, ?_, hu⟩
  rw [at?_mergeOver htables, hat, overlay_some, mergeOver_leaf hu]

end Values

/-! ### Trees -/

section Trees

variable {Leaf : Value → Prop} {v w : Value} {old : Option Value} {m : List (Value × Value)} {path : List Text}

/-- Trees laid over each other are a tree. -/
theorem isTree_mergeOver (hleaf : ∀ v, Leaf v → IsLeaf v) (hv : IsTree Leaf v) (hw : IsTree Leaf w) :
    IsTree Leaf (mergeOver (some v) w) := by
  induction hw generalizing v with
  | leaf h =>
    rw [mergeOver_leaf (hleaf _ h)]
    exact .leaf h
  | @table b hb hbelow ih =>
    rcases isLeaf_or_mapping v with hv' | ⟨a, rfl⟩
    · rw [mergeOver_onLeaf hv']
      exact .table hb hbelow
    · obtain ⟨ha, habove⟩ := hv.of_mapping hleaf
      have htable := isTable_mergeEntries ha hb
      refine .table htable fun e he => ?_
      obtain ⟨t, ht⟩ := htable.exists_lookupText he
      rw [lookupText_mergeEntries hb.distinct] at ht
      cases hlb : lookupText t b with
      | none =>
        rw [hlb] at ht
        exact .of_lookupText habove ht
      | some u =>
        rw [hlb] at ht
        rw [← Option.some.inj ht]
        cases hla : lookupText t a with
        | none =>
          rw [mergeOver_none]
          exact .of_lookupText hbelow hlb
        | some x => exact ih _ (mem_of_lookupText hlb) (.of_lookupText habove hla)

/-- The keys of the lower table come first, in their order, then the new ones of the upper table. -/
theorem textKeys_mergeOver (hw : IsTree IsLeaf w) (hm : mergeOver old w = .mapping m) :
    textKeys m = tableKeys old ++ (tableKeys (some w)).filter fun t => t ∉ tableKeys old := by
  rcases isLeaf_or_mapping w with hleaf | ⟨b, rfl⟩
  · rw [mergeOver_leaf hleaf] at hm
    exact absurd hm (hleaf m)
  · by_cases hold : ∃ a, old = some (.mapping a)
    · obtain ⟨a, rfl⟩ := hold
      rw [mergeOver_tables, mapping.injEq] at hm
      rw [← hm]
      exact textKeys_mergeEntries (hw.of_mapping fun _ h => h).1
    · rw [not_exists] at hold
      rw [mergeOver_of_noTable hold, mapping.injEq] at hm
      rw [tableKeys_eq_nil hold, hm]
      exact (List.filter_eq_self.2 (by simp)).symm

end Trees

/-! ### Merging -/

section Merging

variable {a b : List (Value × Value)}

/-- **Merging, path by path.** Two trees of tables merge to a tree of tables. At the end of a path it has the leaf that
the upper tree has there; where the upper one has a table, the merge with the lower one's table, or that table alone;
where the upper one has nothing, what the lower one has, but nothing if a leaf of the upper one is in the way. The keys of
each table are those of the lower tree's table there, in order, then the new ones of the upper tree's, in order. -/
theorem merge_pathwise (ha : IsTree IsLeaf (.mapping a)) (hb : IsTree IsLeaf (.mapping b)) :
    ∃ c, merge (.mapping a) (.mapping b) = .ok (.mapping c) ∧ IsTree IsLeaf (.mapping c) ∧
      (∀ path,
        (∀ v, at? path (.mapping b) = some v → IsLeaf v → at? path (.mapping c) = some v) ∧
        (∀ y, at? path (.mapping b) = some (.mapping y) →
          (∀ x, at? path (.mapping a) = some (.mapping x) →
            ∃ m, merge (.mapping x) (.mapping y) = .ok m ∧ at? path (.mapping c) = some m) ∧
          ((∀ x, at? path (.mapping a) ≠ some (.mapping x)) → at? path (.mapping c) = some (.mapping y))) ∧
        (at? path (.mapping b) = none →
          (¬Blocked path (.mapping b) → at? path (.mapping c) = at? path (.mapping a)) ∧
          (Blocked path (.mapping b) → at? path (.mapping c) = none))) ∧
      ∀ path m, at? path (.mapping c) = some (.mapping m) →
        textKeys m = tableKeys (at? path (.mapping a)) ++
          (tableKeys (at? path (.mapping b))).filter (fun t => t ∉ tableKeys (at? path (.mapping a))) ∧
        (textKeys m).Nodup := by
  have htree : IsTree IsLeaf (.mapping (mergeEntries a b)) := isTree_mergeOver (fun _ h => h) ha hb
  have hway := hb.tablesAlong_or_blocked fun _ h => h
  have hblocked : ∀ path, Blocked path (.mapping b) → at? path (.mapping (mergeEntries a b)) = none := fun path h =>
    (blocked_mergeOver (v := .mapping a) h hway).at?_eq_none
  -- a path that leads somewhere in the upper tree, or ends where a key is missing, leads through tables
  have hat : ∀ path, ¬Blocked path (.mapping b) → at? path (.mapping (mergeEntries a b)) =
      overlay (at? path (.mapping a)) (at? path (.mapping b)) := fun path h =>
    at?_mergeOver (v := .mapping a) ((hway path).resolve_right h)
  have hfree : ∀ path v, at? path (.mapping b) = some v → ¬Blocked path (.mapping b) := by
    intro path v hv h
    rw [h.at?_eq_none] at hv
    cases hv
  refine ⟨mergeEntries a b, rfl, htree, fun path => ⟨fun v hv hleaf => ?_, fun y hy => ⟨fun x hx => ?_, fun hx => ?_⟩,
    fun hnone => ⟨fun h => ?_, hblocked path⟩⟩, fun path m hm => ⟨?_, ?_⟩⟩
  · rw [hat path (hfree path v hv), hv, overlay_some, mergeOver_leaf hleaf]
  · refine ⟨.mapping (mergeEntries x y), rfl, ?_⟩
    rw [hat path (hfree path _ hy), hy, hx]
    rfl
  · rw [hat path (hfree path _ hy), hy, overlay_some, mergeOver_of_noTable hx]
  · rw [hat path h, hnone]
    rfl
  · have hopen : ¬Blocked path (.mapping b) := by
      intro h
      rw [hblocked path h] at hm
      cases hm
    rw [hat path hopen] at hm
    cases hb' : at? path (.mapping b) with
    | none =>
      rw [hb'] at hm
      rw [show at? path (.mapping a) = some (.mapping m) from hm]
      exact (List.append_nil _).symm
    | some w =>
      rw [hb'] at hm
      exact textKeys_mergeOver (hb.of_at? (fun _ h => h) hb') (Option.some.inj hm)
  · exact ((htree.of_at? (fun _ h => h) hm).of_mapping fun _ h => h).1.distinct.nodup_textKeys

/-- Two sections of a configuration. -/
def lowerSections : List (Value × Value) :=
  [(.text "logic", .mapping [(.text "policy", .text "strict"), (.text "length", .int 10)]),
    (.text "server", .mapping [(.text "port", .int 80)])]

/-- A configuration that changes a leaf, replaces a section by a leaf and has a section more. -/
def upperSections : List (Value × Value) :=
  [(.text "log", .mapping [(.text "level", .text "INFO")]), (.text "server", .text "off"),
    (.text "logic", .mapping [(.text "length", .int 20)])]

theorem isTree_lowerSections : IsTree IsLeaf (.mapping lowerSections) := by
  refine .of_pairs [("logic", _), ("server", _)] (by decide) (List.forall_mem_cons.2 ⟨?_, ?_⟩)
  · exact .of_leaves [("policy", _), ("length", _)] (by decide) (by simp [IsLeaf])
  · rw [List.forall_mem_singleton]
    exact .of_leaves [("port", _)] (by decide) (by simp [IsLeaf])

theorem isTree_upperSections : IsTree IsLeaf (.mapping upperSections) := by
  refine .of_pairs [("log", _), ("server", _), ("logic", _)] (by decide) ?_
  rw [List.forall_mem_cons, List.forall_mem_cons, List.forall_mem_singleton]
  refine ⟨?_, .leaf (by simp [IsLeaf]), ?_⟩
  · exact .of_leaves [("level", _)] (by decide) (by simp [IsLeaf])
  · exact .of_leaves [("length", _)] (by decide) (by simp [IsLeaf])

theorem merge_pathwise_sections :
    IsTree IsLeaf (.mapping lowerSections) ∧ IsTree IsLeaf (.mapping upperSections) ∧
      ∃ c, merge (.mapping lowerSections) (.mapping upperSections) = .ok (.mapping c) ∧
        at? ["logic", "length"] (.mapping c) = some (.int 20) ∧
        at? ["logic", "policy"] (.mapping c) = some (.text "strict") ∧
        at? ["server", "port"] (.mapping c) = none ∧
        textKeys c = textKeys lowerSections ++ [("log" : Text)] := by
  refine ⟨isTree_lowerSections, isTree_upperSections, ?_⟩
  obtain ⟨c, hc, -, hpath, hkeys⟩ := merge_pathwise isTree_lowerSections isTree_upperSections
  have hne : Text.same (Text.ofString "log") (Text.ofString "logic") = false ∧
      Text.same (Text.ofString "server") (Text.ofString "logic") = false ∧
      Text.same (Text.ofString "length") (Text.ofString "policy") = false ∧
      Text.same (Text.ofString "log") (Text.ofString "server") = false := by decide
  have hlogic : lookupText "logic" upperSections = some (.mapping [(.text "length", .int 20)]) := by
    simp [upperSections, lookupText, lookup, equal, hne]
  have hpolicy : lookupText "policy" [(.text "length", .int 20)] = none := by
    simp [lookupText, lookup, equal, hne]
  have hserver : at? ["server"] (.mapping upperSections) = some (.text "off") := by
    simp [at?, upperSections, lookupText, lookup, equal, hne]
  have hopen : ¬Blocked ["logic", "policy"] (.mapping upperSections) := by
    simp [blocked_cons_mapping, hlogic, hpolicy]
  have hshut : Blocked ["server", "port"] (.mapping upperSections) :=
    ⟨["server"], _, ⟨["port"], rfl⟩, by simp, hserver, by simp [IsLeaf]⟩
  refine ⟨c, hc, (hpath _).1 _ ?_ (by simp [IsLeaf]), ?_, ((hpath _).2.2 hshut.at?_eq_none).2 hshut, ?_⟩
  · simp [at?, upperSections, lookupText, lookup, equal, hne]
  · rw [((hpath _).2.2 (by simp [at?, hlogic, hpolicy])).1 hopen]
    simp [at?, lowerSections, lookupText, lookup, equal]
  · rw [(hkeys [] c rfl).1]
    decide

end Merging

end Rulebook.Config
