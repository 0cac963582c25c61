import Rulebook.Config.Loader
import Rulebook.Proofs.Config.Environment
import Rulebook.Proofs.Config.Reading

/-!
# Settings leaf by leaf

Each leaf of the settings is taken from the first source that has it: arguments, then the environment, then the file of
the environment, then the file of defaults. What sources below have for the leaf never matters, and setting one leaf
leaves all others as they are.
-/

namespace Rulebook.Config

open Value

/-- What settings are made from. -/
structure Layers where
  /-- The file of defaults, if there is one. -/
  defaults : Option (List (Value × Value))
  /-- The file of the environment, if there is one. -/
  special : Option (List (Value × Value))
  environment : Environment
  arguments : List (Value × Value)

/-- Where a leaf can come from. -/
inductive Source where
  | arguments
  | environment
  | special
  | defaults
  deriving DecidableEq

/-- The sources that come before a source. -/
def Source.above : Source → List Source
  | arguments => []
  | environment => [.arguments]
  | special => [.arguments, .environment]
  | defaults => [.arguments, .environment, .special]

namespace Layers

variable {s s' : Layers}

/-- Sections are tables in every source, and variables set leaves. -/
structure WellFormed (s : Layers) : Prop where
  defaults : IsLayer (s.defaults.getD [])
  special : IsLayer (s.special.getD [])
  environment : OnlyLeaves s.environment
  arguments : IsLayer s.arguments

/-- The configuration of the files. -/
def files (s : Layers) : List (Value × Value) := mergeEntries (s.defaults.getD []) (s.special.getD [])

/-- The value that a source has for a leaf. -/
def leafOf (s : Layers) (source : Source) (leaf : Leaf) : Option Value :=
  match source with
  | .arguments => leafIn s.arguments leaf
  | .environment => (variableOf s.environment leaf.variableName).map .text
  | .special => leafIn (s.special.getD []) leaf
  | .defaults => leafIn (s.defaults.getD []) leaf

/-- The value of a leaf in the first source that has it. -/
def value (s : Layers) (leaf : Leaf) : Option Value :=
  (s.leafOf .arguments leaf).or ((s.leafOf .environment leaf).or
    ((s.leafOf .special leaf).or (s.leafOf .defaults leaf)))

/-- Values below one that is there do not matter. -/
theorem value_eq_of_overridden {leaf : Leaf}
    (h : ∀ source, s'.leafOf source leaf = s.leafOf source leaf ∨
      ∃ higher ∈ source.above, (s.leafOf higher leaf).isSome) : s'.value leaf = s.value leaf := by
  have harguments := h .arguments
  have henvironment := h .environment
  have hspecial := h .special
  have hdefaults := h .defaults
  simp only [Source.above, List.mem_cons, List.not_mem_nil, or_false, false_and, exists_false, exists_eq_or_imp,
    exists_eq_left] at harguments henvironment hspecial hdefaults
  -- down to the first source that has the leaf all values are the same
  rw [value, value, harguments]
  cases harg : s.leafOf .arguments leaf with
  | some v => rfl
  | none =>
    rw [harg] at henvironment hspecial hdefaults
    simp only [Option.isSome_none, Bool.false_eq_true, or_false, false_or] at henvironment hspecial hdefaults
    rw [henvironment]
    cases henv : s.leafOf .environment leaf with
    | some v => rfl
    | none =>
      rw [henv] at hspecial hdefaults
      simp only [Option.isSome_none, Bool.false_eq_true, or_false, false_or] at hspecial hdefaults
      rw [hspecial]
      cases hspec : s.leafOf .special leaf with
      | some v => rfl
      | none =>
        rw [hspec] at hdefaults
        simp only [Option.isSome_none, Bool.false_eq_true, or_false] at hdefaults
        rw [hdefaults]

/-- The settings are those of the leaves. -/
theorem settings_eq (h : s.WellFormed) :
    loadSettings (.mapping s.files) s.environment s.arguments = (settingsOf s.value).mapError .invalid := by
  obtain ⟨entries, hentries, hlayer, hleaf⟩ := environmentEntries_spec h.environment
  have hcombined : combined (.mapping s.files) s.environment s.arguments =
      .ok (mergeEntries s.files (mergeEntries entries s.arguments)) := by
    rw [combined, hentries]
    rfl
  have hfiles : IsLayer s.files := h.defaults.mergeEntries h.special
  have hupper := hlayer.mergeEntries h.arguments
  rw [loadSettings, hcombined]
  dsimp only
  rw [readSettings_eq (hfiles.mergeEntries hupper)]
  refine congrArg (Except.mapError Obstacle.invalid) (settingsOf_congr fun leaf => ?_)
  have hvalue : s.value leaf = ((leafIn s.arguments leaf).or (leafIn entries leaf)).or
      ((leafIn (s.special.getD []) leaf).or (leafIn (s.defaults.getD []) leaf)) := by
    rw [hleaf, Option.or_assoc]
    rfl
  rw [hvalue]
  exact (leafIn_mergeEntries hupper leaf).trans
    ((leafIn_mergeEntries h.arguments leaf).or (leafIn_mergeEntries h.special leaf))

/-- The files of a host give the configuration. -/
theorem load_eq {host : Host} {directory : Path} (hdirectory : Config.directory host = .ok directory)
    (hdefaults : loadOptional host (defaultsPath directory) = .ok (s.defaults.map .mapping))
    (hspecial : loadOptional host (environmentPath host directory) = .ok (s.special.map .mapping)) :
    load host = .ok (.mapping s.files) := by
  rw [load, hdirectory]
  show (loadOptional host (defaultsPath directory) >>= _) = _
  rw [hdefaults]
  show (loadOptional host (environmentPath host directory) >>= _) = _
  rw [hspecial, files]
  cases s.defaults <;> cases s.special <;> rfl

end Layers

/-! ### Setting one leaf -/

/-- One leaf set in one source. A variable can be spelled in any case. -/
inductive Change where
  | arguments (leaf : Leaf) (v : Value)
  | environment (leaf : Leaf) (name t : Text) (spelled : Text.lower name = leaf.variableName)
  | special (leaf : Leaf) (v : Value)
  | defaults (leaf : Leaf) (v : Value)

namespace Change

/-- The source that is changed. -/
def source : Change → Source
  | arguments _ _ => .arguments
  | environment _ _ _ _ => .environment
  | special _ _ => .special
  | defaults _ _ => .defaults

/-- The leaf that is set. -/
def leaf : Change → Leaf
  | arguments leaf _ => leaf
  | environment leaf _ _ _ => leaf
  | special leaf _ => leaf
  | defaults leaf _ => leaf

/-- The value that it is set to. -/
def value : Change → Value
  | arguments _ v => v
  | environment _ _ t _ => .text t
  | special _ v => v
  | defaults _ v => v

end Change

namespace Layers

variable {s : Layers}

/-- The sources after a change. -/
def apply (s : Layers) : Change → Layers
  | .arguments leaf v => { s with arguments := setAt v leaf.path s.arguments }
  | .environment _ name t _ => { s with environment := s.environment ++ [(name, t)] }
  | .special leaf v => { s with special := some (setAt v leaf.path (s.special.getD [])) }
  | .defaults leaf v => { s with defaults := some (setAt v leaf.path (s.defaults.getD [])) }

theorem WellFormed.apply (h : s.WellFormed) (c : Change) : (s.apply c).WellFormed := by
  cases c with
  | arguments leaf v => exact { h with arguments := h.arguments.setAt leaf v }
  | environment leaf name t hname => exact { h with environment := h.environment.concat hname }
  | special leaf v => exact { h with special := h.special.setAt leaf v }
  | defaults leaf v => exact { h with defaults := h.defaults.setAt leaf v }

theorem WellFormed.foldl_apply (h : s.WellFormed) (changes : List Change) :
    (changes.foldl Layers.apply s).WellFormed := by
  induction changes generalizing s with
  | nil => exact h
  | cons c changes ih => exact ih (h.apply c)

theorem leafOf_apply_of_ne {c : Change} {source : Source} (hsource : source ≠ c.source) (leaf : Leaf) :
    (s.apply c).leafOf source leaf = s.leafOf source leaf := by
  cases c <;> cases source <;> first | rfl | exact absurd rfl hsource

theorem leafOf_apply_self (h : s.WellFormed) (c : Change) (leaf : Leaf) :
    (s.apply c).leafOf c.source leaf = if leaf = c.leaf then some c.value else s.leafOf c.source leaf := by
  cases c with
  | arguments changed v => exact leafIn_setAt h.arguments changed leaf v
  | environment changed name t hname =>
    show (variableOf (s.environment ++ [(name, t)]) leaf.variableName).map Value.text = _
    rw [variableOf_concat, hname]
    by_cases hleaf : leaf = changed
    · rw [hleaf, if_pos rfl]
      exact (if_pos rfl).symm
    · rw [if_neg fun heq => hleaf (Leaf.eq_of_variableName_eq heq).symm]
      exact (if_neg hleaf).symm
  | special changed v => exact leafIn_setAt h.special changed leaf v
  | defaults changed v => exact leafIn_setAt h.defaults changed leaf v

/-- No other leaf has another value after a change. -/
theorem value_apply_of_ne (h : s.WellFormed) {c : Change} {leaf : Leaf} (hleaf : leaf ≠ c.leaf) :
    (s.apply c).value leaf = s.value leaf := by
  refine value_eq_of_overridden fun source => .inl ?_
  by_cases hsource : source = c.source
  · rw [hsource, leafOf_apply_self h, if_neg hleaf]
  · exact leafOf_apply_of_ne hsource leaf

/-- Nothing is set. -/
def empty : Layers := ⟨none, none, [], []⟩

theorem wellFormed_empty : empty.WellFormed := ⟨isLayer_nil, isLayer_nil, onlyLeaves_nil, isLayer_nil⟩

end Layers

/-- Settings are made leaf by leaf: each leaf is taken from the first source that has it, or it is standard, and it is
checked by itself. So what a source has for a leaf has no effect where a source above has that leaf, and a change of one
leaf has none on another leaf. -/
theorem settings_leafwise (s : Layers) (h : s.WellFormed) :
    merge (.mapping (s.defaults.getD [])) (.mapping (s.special.getD [])) = .ok (.mapping s.files) ∧
    (∀ (host : Host) (directory : Path), Config.directory host = .ok directory →
      loadOptional host (defaultsPath directory) = .ok (s.defaults.map .mapping) →
      loadOptional host (environmentPath host directory) = .ok (s.special.map .mapping) →
      load host = .ok (.mapping s.files)) ∧
    loadSettings (.mapping s.files) s.environment s.arguments = (settingsOf s.value).mapError .invalid ∧
    (∀ s' : Layers, s'.WellFormed →
      (∀ source leaf, s'.leafOf source leaf = s.leafOf source leaf ∨
        ∃ higher ∈ source.above, (s.leafOf higher leaf).isSome) →
      loadSettings (.mapping s'.files) s'.environment s'.arguments =
        loadSettings (.mapping s.files) s.environment s.arguments) ∧
    ∀ c : Change, (s.apply c).WellFormed ∧
      (∀ source leaf, (s.apply c).leafOf source leaf =
        if source = c.source ∧ leaf = c.leaf then some c.value else s.leafOf source leaf) ∧
      ∀ leaf, leaf ≠ c.leaf → (s.apply c).value leaf = s.value leaf := by
  refine ⟨rfl, fun host directory hdirectory hdefaults hspecial => Layers.load_eq hdirectory hdefaults hspecial,
    Layers.settings_eq h, fun s' h' hsame => ?_,
    fun c => ⟨h.apply c, fun source leaf => ?_, fun leaf hleaf => Layers.value_apply_of_ne h hleaf⟩⟩
  · have hvalue : s'.value = s.value := funext fun leaf => Layers.value_eq_of_overridden fun source => hsame source leaf
    rw [Layers.settings_eq h', Layers.settings_eq h, hvalue]
  · by_cases hsource : source = c.source
    · subst hsource
      simp only [true_and]
      exact Layers.leafOf_apply_self h c leaf
    · rw [if_neg fun hboth => hsource hboth.1]
      exact Layers.leafOf_apply_of_ne hsource leaf

/-- A wrong policy in the file of defaults does no harm where a variable sets the policy. -/
def overridden : Layers :=
  [Change.defaults .appName (.text "rules"), .defaults .undefinedVariables (.text "lax"),
    .defaults .maxPatternLength (.int 40), .special .level (.text "DEBUG"),
    .environment .undefinedVariables "CONFLOGIC_LOGIC__UNDEFINED_VARIABLES" "empty"
      ((Text.lower_of_ascii (by decide)).trans (by decide)),
    .arguments .debug (.bool true)].foldl Layers.apply .empty

theorem settings_leafwise_overridden :
    overridden.WellFormed ∧
      loadSettings (.mapping overridden.files) overridden.environment overridden.arguments =
        .ok ⟨"rules", true, ⟨.empty, 40⟩, ⟨.debug, .json, true⟩⟩ := by
  have h : overridden.WellFormed := Layers.wellFormed_empty.foldl_apply _
  have hvalid : settingsOf overridden.value = .ok ⟨"rules", true, ⟨.empty, 40⟩, ⟨.debug, .json, true⟩⟩ := by
    decide +kernel
  refine ⟨h, (settings_leafwise overridden h).2.2.1.trans ?_⟩
  rw [hvalid]
  rfl

end Rulebook.Config
