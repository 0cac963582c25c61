import Mathlib.Data.List.Induction
import Rulebook.Proofs.Config.Leaf
import Rulebook.Proofs.Config.Shape
import Rulebook.Proofs.Outcome

/-!
# Settings from variables of leaves

An environment whose variables for sections all set leaves gives a layer: each leaf has the text of its variable, and of
several spellings of the variable the last counts.
-/

namespace Rulebook.Config

open Value

variable {env : Environment} {name t : Text}

/-! ### Names in lower case -/

/-- The value of a variable by its name in lower case. -/
def variableOf (env : Environment) (name : Text) : Option Text :=
  (env.reverse.find? fun e => Text.same (Text.lower e.1) name).map (·.2)

theorem variableOf_concat (e : Text × Text) :
    variableOf (env ++ [e]) name = if Text.lower e.1 = name then some e.2 else variableOf env name := by
  rw [variableOf, List.reverse_append, List.reverse_singleton, List.singleton_append, List.find?_cons]
  by_cases h : Text.lower e.1 = name
  · rw [if_pos h, Text.same_iff.2 h]
    rfl
  · rw [if_neg h, Bool.eq_false_iff.2 (mt Text.same_iff.1 h)]
    rfl

theorem exists_mem_of_variableOf (h : variableOf env name = some t) : ∃ e ∈ env, Text.lower e.1 = name ∧ e.2 = t := by
  obtain ⟨e, he, rfl⟩ := Option.map_eq_some_iff.1 h
  have hname := List.find?_some (p := fun e : Text × Text => Text.same (Text.lower e.1) name) he
  exact ⟨e, List.mem_reverse.1 (List.mem_of_find?_eq_some he), Text.same_iff.1 hname, rfl⟩

/-- Variables as entries of a mapping. -/
def asEntries (env : Environment) : List (Value × Value) := env.map fun e => (.text e.1, .text e.2)

theorem lookupText_asEntries_cons (e : Text × Text) (env : Environment) :
    lookupText name (asEntries (e :: env)) = if Text.same e.1 name then some (.text e.2)
      else lookupText name (asEntries env) := by
  rw [asEntries, List.map_cons, lookupText_cons, equal]
  rfl

theorem lookupText_asEntries :
    lookupText name (asEntries env) = ((env.find? fun e => Text.same e.1 name).map (·.2)).map .text := by
  induction env with
  | nil => rfl
  | cons e env ih =>
    rw [lookupText_asEntries_cons, List.find?_cons, ih]
    cases Text.same e.1 name <;> rfl

/-- Texts under text keys are variables. -/
theorem exists_asEntries_eq {entries : List (Value × Value)} (h : ∀ e ∈ entries, ∃ k t, e = (.text k, .text t)) :
    asEntries (entries.filterMap fun (k, v) => match k, v with | .text k, .text v => some (k, v) | _, _ => none) =
      entries := by
  induction entries with
  | nil => rfl
  | cons e entries ih =>
    obtain ⟨⟨k, t, rfl⟩, hrest⟩ := List.forall_mem_cons.1 h
    exact congrArg (List.cons (Value.text k, Value.text t)) (ih hrest)

/-- The environment with names in lower case has each name once, with the value that counts. -/
theorem lowered_spec (env : Environment) :
    DistinctKeys (asEntries (lowered env)) ∧
      ∀ name, lookupText name (asEntries (lowered env)) = (variableOf env name).map .text := by
  have hfold : ∀ env : Environment,
      let entries := env.foldl (fun done e => insertEntry (.text (Text.lower e.1)) (.text e.2) done) []
      DistinctKeys entries ∧ (∀ e ∈ entries, ∃ k t, e = (.text k, .text t)) ∧
        ∀ name, lookupText name entries = (variableOf env name).map .text := by
    intro env
    -- from the end, as the last of several spellings counts
    induction env using List.reverseRecOn with
    | nil => exact ⟨.nil, by simp, fun _ => rfl⟩
    | append_singleton env e ih =>
      obtain ⟨hdistinct, htexts, hlookup⟩ := ih
      simp only [List.foldl_append, List.foldl_cons, List.foldl_nil]
      refine ⟨hdistinct.insertEntry, fun f hf => ?_, fun name => ?_⟩
      · rcases mem_insertEntry_text hf with rfl | hf
        · exact ⟨_, _, rfl⟩
        · exact htexts f hf
      · rw [lookupText_insertEntry, hlookup, variableOf_concat]
        simp only [equal, Text.same_iff]
        split <;> rfl
  obtain ⟨hdistinct, htexts, hlookup⟩ := hfold env
  have heq := exists_asEntries_eq htexts
  change asEntries (lowered env) = _ at heq
  rw [heq]
  exact ⟨hdistinct, hlookup⟩

theorem find?_lowered (env : Environment) (name : Text) :
    ((lowered env).find? fun e => Text.same e.1 name).map (·.2) = variableOf env name := by
  have h := (lowered_spec env).2 name
  rw [lookupText_asEntries] at h
  exact Option.map_injective (fun _ _ => Value.text.inj) h

theorem exists_mem_of_mem_lowered {e : Text × Text} (h : e ∈ lowered env) : ∃ f ∈ env, Text.lower f.1 = e.1 := by
  have hfound : ((lowered env).find? fun f => Text.same f.1 e.1).isSome := by
    rw [List.find?_isSome]
    exact ⟨e, h, Text.same_self e.1⟩
  obtain ⟨f, hf⟩ := Option.isSome_iff_exists.1 hfound
  have hvariable := find?_lowered env e.1
  rw [hf] at hvariable
  obtain ⟨g, hg, hname, -⟩ := exists_mem_of_variableOf hvariable.symm
  exact ⟨g, hg, hname⟩

/-! ### Leaves of a section -/

/-- There are two sections of settings. -/
theorem section_cases {field : String} {of : List (String × Shape)} (h : (field, Shape.fields of) ∈ settingsShape) :
    field = "logic" ∧ of = [("undefined_variables", .single), ("max_pattern_length", .single)] ∨
      field = "observability" ∧
        of = [("logging", .fields [("level", .single), ("format", .single), ("redact_sensitive", .single)])] := by
  simpa [settingsShape] using h

theorem ownNames_section {field : String} {of : List (String × Shape)}
    (h : (field, Shape.fields of) ∈ settingsShape) : OwnNames of := by
  rcases section_cases h with ⟨-, rfl⟩ | ⟨-, rfl⟩ <;> decide +kernel

theorem leads_path (leaf : Leaf) : Leads settingsShape leaf.path := by
  have hsettings : OwnNames settingsShape := by decide +kernel
  cases leaf
  case appName | debug => exact .single hsettings (by simp [settingsShape])
  case undefinedVariables | maxPatternLength =>
    exact .inner hsettings (List.mem_of_getElem? (i := 2) rfl) (.single (by decide +kernel) (by simp))
  case level | format | redactSensitive =>
    exact .inner hsettings (List.mem_of_getElem? (i := 3) rfl)
      (.inner (by decide +kernel) (List.mem_of_getElem? (i := 0) rfl) (.single (by decide +kernel) (by simp)))

/-- What the names of variables for fields of a section start with. -/
def sectionLead (name : String) : Text := environmentMark ++ Text.ofString name ++ sectionMark

/-- The path in a section that the rest of a name spells. -/
def pathOf (tail : Text) : List Text := Text.splitAt sectionMark (tail.length + 1) (tail.length + 1) [] tail

section Section

variable {field : String} {of : List (String × Shape)} {leaf : Leaf} {path : List Text}

/-- The variable of a leaf leads into a section as the path of the leaf does. -/
theorem pathOf_variableName (hsection : (field, Shape.fields of) ∈ settingsShape) :
    (Text.after? (sectionLead field) leaf.variableName).map pathOf = some path ↔
      leaf.path = Text.ofString field :: path := by
  have hsplit : (Text.after? (sectionLead field) leaf.variableName).map pathOf =
      if leaf.path.head? = some (Text.ofString field) then some leaf.path.tail else none := by
    rcases section_cases hsection with ⟨rfl, -⟩ | ⟨rfl, -⟩ <;> cases leaf <;> decide
  rw [hsplit]
  cases leaf.path with
  | nil => simp
  | cons key rest => simp

/-- Variables of leaves are taken as texts. -/
theorem fieldValue?_eq (hsection : (field, .fields of) ∈ settingsShape)
    (hpath : leaf.path = Text.ofString field :: path) (t : Text) :
    fieldValue? (.fields of) path t = some (.text t) := by
  rcases section_cases hsection with ⟨rfl, rfl⟩ | ⟨rfl, rfl⟩ <;> cases leaf <;> cases hpath <;> rfl

/-- Variables of leaves, each there once, set these leaves in a section. -/
theorem nestedEntries_spec (hsection : (field, .fields of) ∈ settingsShape) {entries : List (Value × Value)}
    (hdistinct : DistinctKeys (asEntries env))
    (hleaves : ∀ e ∈ env, (Text.after? (sectionLead field) e.1).isSome → ∃ leaf : Leaf, e.1 = leaf.variableName)
    (hfits : Fits (.fields of) (.mapping entries)) :
    ∃ more, nestedEntries (.fields of) (sectionLead field) env entries = some more ∧
      Fits (.fields of) (.mapping more) ∧
      ∀ (leaf : Leaf) (path : List Text), leaf.path = Text.ofString field :: path →
        at? path (.mapping more) = (lookupText leaf.variableName (asEntries env)).or (at? path (.mapping entries)) := by
  induction env generalizing entries with
  | nil => exact ⟨entries, rfl, hfits, fun _ _ _ => rfl⟩
  | cons e env ih =>
    obtain ⟨name, t⟩ := e
    obtain ⟨hfirst, hrest⟩ := List.forall_mem_cons.1 hleaves
    cases htail : Text.after? (sectionLead field) name with
    | none =>
      obtain ⟨more, hmore, hfits', hat⟩ := ih hdistinct.tail hrest hfits
      refine ⟨more, ?_, hfits', fun leaf path hpath => (hat leaf path hpath).trans ?_⟩
      · rw [nestedEntries, htail]
        exact hmore
      · have hne : name ≠ leaf.variableName := by
          rintro rfl
          have hsome := (pathOf_variableName hsection).2 hpath
          rw [htail] at hsome
          cases hsome
        rw [lookupText_asEntries_cons, if_neg (mt Text.same_iff.1 hne)]
    | some tail =>
      -- the name leads into the section, so it is that of a leaf, whose path there the rest of the name spells
      obtain ⟨first, rfl⟩ := hfirst (by rw [htail]; rfl)
      have hpath : first.path = Text.ofString field :: pathOf tail := by
        refine (pathOf_variableName hsection).1 ?_
        rw [htail]
        rfl
      have hleads : Leads of (pathOf tail) := (hpath ▸ leads_path first).of_section hsection
      obtain ⟨more, hmore, hfits', hat⟩ := ih hdistinct.tail hrest (hfits.setAt hleads (.text t))
      refine ⟨more, ?_, hfits', fun leaf path hpath' => (hat leaf path hpath').trans ?_⟩
      · have hvalue := fieldValue?_eq hsection hpath t
        rw [pathOf] at hvalue
        rw [nestedEntries, htail]
        dsimp only
        rw [hvalue]
        exact hmore
      · rw [lookupText_asEntries_cons]
        by_cases hleaf : leaf = first
        · subst hleaf
          obtain rfl : pathOf tail = path := (List.cons.inj (hpath.symm.trans hpath')).2
          -- no variable behind has the name again, so what was set stays
          have hnone : lookupText leaf.variableName (asEntries env) = none := hdistinct.lookupText_tail rfl
          rw [if_pos (Text.same_self _), hnone, at?_setAt_self hleads.ne_nil (hfits.tablesAlong hleads)]
          rfl
        · rw [if_neg fun hname => hleaf (Leaf.eq_of_variableName_eq (Text.same_iff.1 hname)).symm,
            at?_setAt_of_diverge (fun h => hleaf (Leaf.eq_of_tail_prefix hpath hpath' h).symm)
              fun h => hleaf (Leaf.eq_of_tail_prefix hpath' hpath h)]

end Section

/-! ### The fields that an environment sets -/

theorem isPrefix_of_after? {s t rest : Text} (h : Text.after? s t = some rest) : s <+: t := by
  induction s generalizing t with
  | nil => exact List.nil_prefix
  | cons a s ih =>
    cases t with
    | nil => cases h
    | cons b t =>
      rw [Text.after?] at h
      split at h
      · rename_i hab
        exact hab ▸ (List.prefix_cons_inj a).2 (ih h)
      · cases h

/-- No variable sets a section as a whole, and those for fields of sections set leaves. -/
def OnlyLeaves (env : Environment) : Prop :=
  ∀ e ∈ env, ∀ (field : String) (of : List (String × Shape)), (field, .fields of) ∈ settingsShape →
    Text.lower e.1 ≠ environmentMark ++ Text.ofString field ∧
      (sectionLead field <+: Text.lower e.1 → ∃ leaf : Leaf, Text.lower e.1 = leaf.variableName)

theorem onlyLeaves_nil : OnlyLeaves [] := fun _ he => absurd he List.not_mem_nil

/-- One more variable of a leaf leads nowhere else. -/
theorem OnlyLeaves.concat (h : OnlyLeaves env) {leaf : Leaf} (hname : Text.lower name = leaf.variableName) :
    OnlyLeaves (env ++ [(name, t)]) := by
  intro e he field of hsection
  rcases List.mem_append.1 he with he | he
  · exact h e he field of hsection
  · obtain rfl := List.mem_singleton.1 he
    refine ⟨?_, fun _ => ⟨leaf, hname⟩⟩
    show Text.lower name ≠ _
    rw [hname]
    rcases section_cases hsection with ⟨rfl, -⟩ | ⟨rfl, -⟩ <;> cases leaf <;> decide

/-- The value of a field, if it has one, holds at each leaf behind the field the text of the leaf's variable. -/
def HoldsLeaves (env : Environment) (field : String) (v? : Option Value) : Prop :=
  ∀ (leaf : Leaf) (path : List Text), leaf.path = Text.ofString field :: path →
    (∀ v, v? = some v → TablesAlong path v) ∧ v?.bind (at? path) = (variableOf env leaf.variableName).map .text

section Field

variable {field : String} {of : List (String × Shape)}

theorem environmentField?_single (hf : (field, .single) ∈ settingsShape) :
    ∃ v?, environmentField? (lowered env) field .single = .ok v? ∧ HoldsLeaves env field v? := by
  refine ⟨(variableOf env (environmentMark ++ Text.ofString field)).map .text, ?_, fun leaf path hpath => ?_⟩
  · rw [environmentField?, find?_lowered env (environmentMark ++ Text.ofString field)]
  · obtain rfl : path = [] := (hpath ▸ leads_path leaf).of_single hf
    refine ⟨fun _ _ => trivial, ?_⟩
    rw [Leaf.variableName, hpath]
    exact Option.bind_fun_some _

/-- No variable is that of the section itself. -/
theorem OnlyLeaves.variableOf_section (h : OnlyLeaves env) (hf : (field, .fields of) ∈ settingsShape) :
    variableOf env (environmentMark ++ Text.ofString field) = none := by
  refine Option.eq_none_iff_forall_ne_some.2 fun t ht => ?_
  obtain ⟨e, he, hname, -⟩ := exists_mem_of_variableOf ht
  exact (h e he field of hf).1 hname

/-- The variables that lead into the section are those of leaves. -/
theorem OnlyLeaves.lowered_section (h : OnlyLeaves env) (hf : (field, .fields of) ∈ settingsShape) :
    ∀ e ∈ lowered env, (Text.after? (sectionLead field) e.1).isSome → ∃ leaf : Leaf, e.1 = leaf.variableName := by
  intro e he hsome
  obtain ⟨rest, hrest⟩ := Option.isSome_iff_exists.1 hsome
  obtain ⟨g, hg, hname⟩ := exists_mem_of_mem_lowered he
  obtain ⟨leaf, hleaf⟩ := (h g hg field of hf).2 (hname ▸ isPrefix_of_after? hrest)
  exact ⟨leaf, hname.symm.trans hleaf⟩

/-- A section that no variable sets as a whole is what its nested variables make of it, if there are any. -/
theorem environmentField?_fields {more : List (Value × Value)}
    (hown : variableOf env (environmentMark ++ Text.ofString field) = none)
    (hmore : nestedEntries (.fields of) (sectionLead field) (lowered env) [] = some more)
    (hfits : Fits (.fields of) (.mapping more)) :
    environmentField? (lowered env) field (.fields of) = .ok (if more.isEmpty then none else some (.mapping more)) := by
  rw [environmentField?, find?_lowered env (environmentMark ++ Text.ofString field), hown, ← sectionLead]
  cases more with
  | nil =>
    rw [hmore]
    rfl
  | cons e more =>
    rw [hmore]
    show Except.ok (some (respelledValue of (.mapping (e :: more)))) = _
    rw [hfits.respelledValue_eq]
    rfl

theorem environmentField?_section (h : OnlyLeaves env) (hf : (field, .fields of) ∈ settingsShape) :
    ∃ v?, environmentField? (lowered env) field (.fields of) = .ok v? ∧ HoldsLeaves env field v? := by
  obtain ⟨more, hmore, hfits, hat⟩ :=
    nestedEntries_spec hf (lowered_spec env).1 (h.lowered_section hf) (.nil (ownNames_section hf))
  refine ⟨_, environmentField?_fields (h.variableOf_section hf) hmore hfits, fun leaf path hpath => ?_⟩
  have hleads := (hpath ▸ leads_path leaf).of_section hf
  have hleaf := hat leaf path hpath
  have hempty : at? path (.mapping []) = none := by
    cases path with
    | nil => exact absurd rfl hleads.ne_nil
    | cons key path => rfl
  rw [(lowered_spec env).2, hempty, Option.or_none] at hleaf
  rw [← hleaf]
  cases more with
  | nil =>
    refine ⟨?_, hempty.symm⟩
    rintro _ ⟨⟩
  | cons e more =>
    refine ⟨?_, rfl⟩
    rintro _ ⟨⟩
    exact hfits.tablesAlong hleads

/-- A field that the environment sets has the leaves whose variables are set. -/
theorem environmentField?_spec (h : OnlyLeaves env) {f : String × Shape} (hf : f ∈ settingsShape) :
    ∃ v?, environmentField? (lowered env) f.1 f.2 = .ok v? ∧ HoldsLeaves env f.1 v? := by
  obtain ⟨field, shape⟩ := f
  cases shape with
  | single => exact environmentField?_single hf
  | fields of => exact environmentField?_section h hf

end Field

/-- The entries of the fields that are set. -/
def given (found : List (String × Option Value)) : List (Value × Value) :=
  found.filterMap fun (name, v?) => v?.map fun v => (Value.text name, v)

section Given

variable {found : List (String × Option Value)} {e : String × Option Value}

theorem given_cons (e : String × Option Value) (found : List (String × Option Value)) :
    given (e :: found) = (e.2.map fun v => (Value.text e.1, v)).toList ++ given found := by
  obtain ⟨name, v?⟩ := e
  cases v? <;> rfl

theorem exists_mem_of_mem_given {x : Value × Value} (h : x ∈ given found) :
    ∃ e ∈ found, x.1 = .text (Text.ofString e.1) := by
  obtain ⟨e, he, hx⟩ := List.mem_filterMap.1 h
  obtain ⟨v, -, rfl⟩ := Option.map_eq_some_iff.1 hx
  exact ⟨e, he, rfl⟩

/-- A field with another name than all that are found is not given. -/
theorem lookupText_given_of_notMem (h : name ∉ found.map fun e => Text.ofString e.1) :
    lookupText name (given found) = none := by
  refine lookupText_eq_none_iff.2 fun x hx hname => h ?_
  obtain ⟨e, he, hx⟩ := exists_mem_of_mem_given hx
  exact List.mem_map.2 ⟨e, he, Value.text.inj (hx.symm.trans hname)⟩

theorem given_spec (h : (found.map fun e => Text.ofString e.1).Nodup) :
    DistinctKeys (given found) ∧ ∀ e ∈ found, lookupText (Text.ofString e.1) (given found) = e.2 := by
  induction found with
  | nil => exact ⟨.nil, by simp⟩
  | cons e found ih =>
    obtain ⟨hnew, hrest⟩ := List.nodup_cons.1 h
    obtain ⟨hdistinct, hlookup⟩ := ih hrest
    have hnone := lookupText_given_of_notMem hnew
    obtain ⟨field, v?⟩ := e
    rw [given_cons]
    cases v? with
    | none => exact ⟨hdistinct, List.forall_mem_cons.2 ⟨hnone, hlookup⟩⟩
    | some v =>
      refine ⟨List.pairwise_cons.2 ⟨fun x hx => ?_, hdistinct⟩, List.forall_mem_cons.2 ⟨?_, fun f hf => ?_⟩⟩
      · exact Bool.eq_false_iff.2 fun heq => lookupText_eq_none_iff.1 hnone x hx (equal_text_left.1 heq)
      · exact if_pos (equal_text_self _)
      · have hne : Text.ofString field ≠ Text.ofString f.1 := by
          intro hname
          exact hnew (List.mem_map.2 ⟨f, hf, hname.symm⟩)
        exact (if_neg (by simpa [equal_text_right] using hne)).trans (hlookup f hf)

end Given

/-- The environment gives a layer, and in it each leaf has the text of its variable. -/
theorem environmentEntries_spec (h : OnlyLeaves env) :
    ∃ entries, environmentEntries env = .ok entries ∧ IsLayer entries ∧
      ∀ leaf, leafIn entries leaf = (variableOf env leaf.variableName).map .text := by
  have hfields : ∀ f ∈ settingsShape, _ := fun f hf => environmentField?_spec h hf
  choose! value hvalue hleaf using hfields
  have hnodup : ((settingsShape.map fun f => (f.1, value f)).map fun e => Text.ofString e.1).Nodup := by
    rw [List.map_map]
    show (settingsShape.map fun f => Text.ofString f.1).Nodup
    decide
  obtain ⟨hdistinct, hlookup⟩ := given_spec hnodup
  refine ⟨given (settingsShape.map fun f => (f.1, value f)), ?_, ?_⟩
  · refine bind_eq_ok_iff.2 ⟨settingsShape.map fun f => (f.1, value f), ?_, rfl⟩
    refine mapM_eq_ok_iff.2 (List.forall₂_map_right_iff.2 (List.forall₂_same.2 fun f hf => ?_))
    exact bind_eq_ok_iff.2 ⟨value f, hvalue f hf, rfl⟩
  · rw [IsLayer, ← forall_and]
    intro leaf
    cases hpath : leaf.path with
    | nil => exact absurd hpath leaf.path_ne_nil
    | cons key path =>
      obtain ⟨f, hf, rfl, -⟩ := (hpath ▸ leads_path leaf).exists_field
      have hfield : lookupText (Text.ofString f.1) (given (settingsShape.map fun f => (f.1, value f))) = value f :=
        hlookup _ (List.mem_map_of_mem hf)
      obtain ⟨htables, hat⟩ := hleaf f hf leaf path hpath
      rw [leafIn, hpath, at?_cons_mapping, tablesAlong_cons_mapping, hfield]
      exact ⟨⟨hdistinct, htables⟩, hat⟩

end Rulebook.Config
