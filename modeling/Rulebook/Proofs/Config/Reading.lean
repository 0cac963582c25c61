import Rulebook.Proofs.Config.Leaf

/-!
# Reading settings from a layer

The settings that are read from a layer are those of its leaves: each leaf is checked by itself, and one without a value
has its standard value. No reader of a leaf tells two tables apart.
-/

namespace Rulebook.Config

open Value

/-! ### Errors under a path -/

namespace Checked

variable {α β : Type}

/-- The value of a field, or its errors under a path. -/
def along (names : List String) (x : Checked α) : Checked α :=
  x.mapError fun errors => errors.map fun e => { e with path := names ++ e.path }

theorem along_along (names more : List String) (x : Checked α) :
    (x.along more).along names = x.along (names ++ more) := by
  cases x with
  | ok a => rfl
  | error errors => simp [along, Except.mapError]

theorem along_ok (names : List String) (a : α) : along names (.ok a) = .ok a := rfl

theorem along_bind_pure (names : List String) (x : Checked α) (f : α → β) :
    along names (do return f (← x)) = do return f (← x.along names) := by
  cases x <;> rfl

theorem along_both (names : List String) (x : Checked α) (y : Checked β) :
    (x.both y).along names = (x.along names).both (y.along names) := by
  cases x <;> cases y <;> simp [along, both, Except.mapError]

end Checked

/-! ### Settings of leaves -/

/-- A value checked for the field at the end of a path, or the standard one if there is none. -/
def check {α : Type} (v? : Option Value) (names : List String) (standard : α) (read : Value → Checked α) : Checked α :=
  match v? with
  | some v => (read v).along names
  | none => .ok standard

/-- The configuration of rules whose leaves have these values. -/
def logicOf (value : Leaf → Option Value) : Checked LogicConfig := do
  let (policy, limit) ←
    (check (value .undefinedVariables) Leaf.undefinedVariables.names LogicConfig.standard.undefinedVariables
      (readChoice [("strict", .strict), ("empty", .empty)])).both
    (check (value .maxPatternLength) Leaf.maxPatternLength.names LogicConfig.standard.maxPatternLength (readAtLeast 1))
  return ⟨policy, limit⟩

/-- The configuration of logging whose leaves have these values. -/
def loggingOf (value : Leaf → Option Value) : Checked LoggingConfig := do
  let (level, format, redact) ←
    (check (value .level) Leaf.level.names LoggingConfig.standard.level (readChoice levels)).both
    ((check (value .format) Leaf.format.names LoggingConfig.standard.format
        (readChoice [("json", .json), ("console", .console)])).both
      (check (value .redactSensitive) Leaf.redactSensitive.names LoggingConfig.standard.redactSensitive readBool))
  return ⟨level, format, redact⟩

/-- The settings whose leaves have these values, or the errors of all leaves in order. -/
def settingsOf (value : Leaf → Option Value) : Checked Settings := do
  let (appName, debug, logic, logging) ←
    (check (value .appName) Leaf.appName.names Settings.standard.appName readText).both
    ((check (value .debug) Leaf.debug.names Settings.standard.debug readBool).both
      ((logicOf value).both (loggingOf value)))
  return ⟨appName, debug, logic, logging⟩

/-- A reader that treats all tables alike. -/
def BlindToTables {α : Type} (read : Value → Checked α) : Prop := ∀ es fs, read (.mapping es) = read (.mapping fs)

theorem blindToTables_readText : BlindToTables readText := fun _ _ => rfl

theorem blindToTables_readBool : BlindToTables readBool := fun _ _ => rfl

theorem blindToTables_readAtLeast (bound : Int) : BlindToTables (readAtLeast bound) := fun _ _ => rfl

theorem blindToTables_readChoice {α : Type} (options : List (String × α)) : BlindToTables (readChoice options) :=
  fun _ _ => rfl

section Check

variable {α : Type} {a b : Option Value} {names : List String} {standard : α} {read : Value → Checked α}

theorem check_along (names more : List String) :
    (check a more standard read).along names = check a (names ++ more) standard read := by
  cases a with
  | none => rfl
  | some v => exact Checked.along_along names more (read v)

theorem check_congr (h : SameOrTables a b) (hread : BlindToTables read) :
    check a names standard read = check b names standard read := by
  cases h with
  | same => rfl
  | tables es fs =>
    show (read (.mapping es)).along names = (read (.mapping fs)).along names
    rw [hread es fs]

end Check

theorem settingsOf_congr {value value' : Leaf → Option Value} (h : ∀ leaf, SameOrTables (value leaf) (value' leaf)) :
    settingsOf value = settingsOf value' := by
  rw [settingsOf, settingsOf, logicOf, logicOf, loggingOf, loggingOf, check_congr (h .appName) blindToTables_readText,
    check_congr (h .debug) blindToTables_readBool, check_congr (h .undefinedVariables) (blindToTables_readChoice _),
    check_congr (h .maxPatternLength) (blindToTables_readAtLeast _),
    check_congr (h .level) (blindToTables_readChoice _), check_congr (h .format) (blindToTables_readChoice _),
    check_congr (h .redactSensitive) blindToTables_readBool]

/-! ### Settings of layers -/

section Layer

variable {α : Type} {es : List (Value × Value)} {standard : α} {read : Value → Checked α}

/-- The entries of a section, none if there is no such section. -/
def sectionIn (name : Text) (entries : List (Value × Value)) : List (Value × Value) :=
  match lookupText name entries with
  | some (.mapping inner) => inner
  | _ => []

theorem at?_sectionIn (name next : Text) (path : List Text) :
    at? (next :: path) (.mapping (sectionIn name es)) = at? (name :: next :: path) (.mapping es) := by
  show (lookupText next (sectionIn name es)).bind (at? path) = (lookupText name es).bind (at? (next :: path))
  rw [sectionIn]
  cases lookupText name es with
  | none => rfl
  | some w => cases w <;> rfl

theorem tablesAlong_sectionIn {name : Text} {path : List Text} (h : TablesAlong (name :: path) (.mapping es)) :
    TablesAlong path (.mapping (sectionIn name es)) := by
  obtain ⟨-, h⟩ := tablesAlong_cons_mapping.1 h
  rw [sectionIn]
  cases hw : lookupText name es with
  | none => exact tablesAlong_empty path
  | some w =>
    cases w with
    | mapping inner => exact h _ hw
    | _ => exact tablesAlong_empty path

theorem field_eq_check (name : String) :
    field es name standard read = check (at? [Text.ofString name] (.mapping es)) [name] standard read := by
  rw [field, at?_single]
  cases lookupText (Text.ofString name) es <;> rfl

/-- A section that is a table, or is not there, is read from its entries. -/
theorem field_readSection {name next title : String} {read : List (Value × Value) → Checked α} {path : List Text}
    (h : TablesAlong (Text.ofString name :: Text.ofString next :: path) (.mapping es))
    (hread : read [] = .ok standard) :
    field es name standard (readSection title read) = (read (sectionIn name es)).along [name] := by
  rw [field, sectionIn]
  cases hw : lookupText name es with
  | none =>
    show _ = (read []).along [name]
    rw [hread, Checked.along_ok]
  | some w =>
    obtain ⟨-, h⟩ := tablesAlong_cons_mapping.1 h
    obtain ⟨inner, rfl, -⟩ := h w hw
    rfl

theorem readLogic_nil : readLogic [] = .ok .standard := rfl

theorem readLogging_nil : readLogging [] = .ok .standard := rfl

theorem field_logic (h : IsLayer es) :
    field es "logic" LogicConfig.standard (readSection "LogicConfig" readLogic) = logicOf (leafIn es) := by
  rw [field_readSection (h .undefinedVariables) readLogic_nil, readLogic, field_eq_check, field_eq_check]
  refine (Checked.along_bind_pure _ _ _).trans ?_
  rw [Checked.along_both, check_along, check_along, at?_sectionIn, at?_sectionIn]
  rfl

theorem field_logging (h : IsLayer es) :
    (field es "observability" LoggingConfig.standard (readSection "ObservabilityConfig" fun es =>
      field es "logging" LoggingConfig.standard (readSection "LoggingConfig" readLogging))) =
      loggingOf (leafIn es) := by
  have hstandard : field [] "logging" LoggingConfig.standard (readSection "LoggingConfig" readLogging) =
      .ok .standard := rfl
  rw [field_readSection (h .level) hstandard, field_readSection (tablesAlong_sectionIn (h .level)) readLogging_nil,
    Checked.along_along, readLogging, field_eq_check, field_eq_check, field_eq_check]
  refine (Checked.along_bind_pure _ _ _).trans ?_
  rw [Checked.along_both, Checked.along_both, check_along, check_along, check_along, at?_sectionIn, at?_sectionIn,
    at?_sectionIn, at?_sectionIn, at?_sectionIn, at?_sectionIn]
  rfl

/-- From a layer the settings of its leaves are read. -/
theorem readSettings_eq (h : IsLayer es) : readSettings es = settingsOf (leafIn es) := by
  rw [readSettings, settingsOf, field_eq_check, field_eq_check, field_logic h]
  dsimp only
  rw [field_logging h]
  rfl

end Layer

end Rulebook.Config
