import Rulebook.Proofs.Template.ValueFault
import Rulebook.Template.Render

/-!
# Faults of filters, tests and calls

What filters, tests, methods and functions refuse are values and arguments, never the template that names them.
-/

namespace Rulebook.Template

/-! ### Filters -/

@[simp] theorem failsOnValues_integerArgument (v : Value) : FailsOnValues (integerArgument v) := by
  unfold integerArgument
  split <;> simp

@[simp] theorem failsOnValues_sizeArgument (v : Value) : FailsOnValues (sizeArgument v) := by
  simp [sizeArgument]

@[simp] theorem failsOnValues_iterateReversed (v : Value) : FailsOnValues (iterateReversed v) := by
  unfold iterateReversed
  dsimp only
  split <;> simp

@[simp] theorem failsOnValues_followPath (strict : Bool) (path : List Value) (v : Value) :
    FailsOnValues (followPath strict path v) :=
  .foldlM (fun w part => failsOnValues_getItem strict w part) path v

@[simp] theorem failsOnValues_toInteger (v default base : Value) : FailsOnValues (toInteger v default base) := by
  unfold toInteger
  dsimp only
  split
  · simp
  · split <;> simp
  · split
    · split <;> simp
    · simp
  · split <;> simp
  · split <;> simp
  · split <;> simp

@[simp] theorem failsOnValues_toReal (v default : Value) : FailsOnValues (toReal v default) := by
  unfold toReal
  dsimp only
  split
  · simp
  · simp
  · simp
  · simp
  · split <;> simp

@[simp] theorem failsOnValues_roundDouble (digits : Int) (x : Double) : FailsOnValues (roundDouble digits x) := by
  unfold roundDouble
  split
  · simp
  · split
    · simp
    · split
      · simp
      · split <;> simp

@[simp] theorem failsOnValues_nearest (n : Number) : FailsOnValues n.nearest := by
  unfold Number.nearest
  split
  · simp
  · split <;> simp

@[simp] theorem failsOnValues_round (digits : Int) (n : Number) : FailsOnValues (n.round digits) := by
  cases n <;> simp [Number.round]

@[simp] theorem failsOnValues_roundValue (v digits : Value) : FailsOnValues (roundValue v digits) := by
  unfold roundValue
  split
  · simp
  · split <;> simp

@[simp] theorem failsOnValues_next (upwards : Bool) (n : Number) : FailsOnValues (n.next upwards) := by
  unfold Number.next
  split
  · simp
  · split <;> simp

@[simp] theorem failsOnValues_roundTowards (upwards : Bool) (v digits : Value) :
    FailsOnValues (roundTowards upwards v digits) := by
  refine .bind (failsOnValues_arith .pow _ digits) fun unit => .bind (failsOnValues_arith .mul v unit) fun scaled => ?_
  split <;> simp

@[simp] theorem failsOnValues_roundBy (v digits method : Value) : FailsOnValues (roundBy v digits method) := by
  refine .bind (failsOnValues_checkMember method) fun _ => ?_
  split
  · split <;> simp
  · simp

theorem failsOnValues_insertByKey {less : Value → Value → Except Fault Bool} (hless : ∀ a b, FailsOnValues (less a b))
    (x : Value × Value) (ys : List (Value × Value)) : FailsOnValues (insertByKey less x ys) := by
  induction ys with
  | nil => simp [insertByKey]
  | cons y ys ih =>
    rw [insertByKey]
    split
    · next f h => simp [hless _ _ f h]
    · simp
    · split
      · simp
      · next f h => simp [ih f h]

@[simp] theorem failsOnValues_sortByKey (pairs : List (Value × Value)) (reversed : Bool) :
    FailsOnValues (sortByKey pairs reversed) := by
  refine .bind (.foldlM (fun done x => failsOnValues_insertByKey (fun a b => ?_) x done) pairs []) fun _ =>
    failsOnValues_ok _
  simp

@[simp] theorem failsOnValues_keyed (strict : Bool) (v caseSensitive part : Value) :
    FailsOnValues (keyed strict v caseSensitive part) := by
  refine .bind (failsOnValues_truth caseSensitive) fun respect => .bind (failsOnValues_iterate v) fun items => ?_
  exact .mapM (fun item => .bind (failsOnValues_followPath strict _ item) fun key => failsOnValues_ok _) items

@[simp] theorem failsOnValues_bestByKey (strict : Bool) (r : Relation) (pairs : List (Value × Value)) :
    FailsOnValues (bestByKey strict r pairs) := by
  unfold bestByKey
  split
  · simp
  · refine .bind (.foldlM (fun best x => ?_) _ _) fun _ => failsOnValues_ok _
    simp

@[simp] theorem failsOnValues_joinValues (strict : Bool) (v separator part : Value) :
    FailsOnValues (joinValues strict v separator part) := by
  refine .bind (failsOnValues_printed separator) fun sep => .bind (failsOnValues_iterate v) fun items => ?_
  refine .bind (.mapM (fun item => ?_) items) fun parts => failsOnValues_ok _
  simp

@[simp] theorem failsOnValues_orDefault (v other strictly : Value) : FailsOnValues (orDefault v other strictly) := by
  unfold orDefault
  split <;> simp

@[simp] theorem failsOnValues_replaceCount (count : Value) : FailsOnValues (replaceCount count) := by
  unfold replaceCount
  split <;> simp

@[simp] theorem failsOnValues_replaceParts (v old new count : Value) :
    FailsOnValues (replaceParts v old new count) := by
  simp [replaceParts]

@[simp] theorem failsOnValues_absolute (v : Value) : FailsOnValues (absolute v) := by
  unfold absolute
  split <;> simp

@[simp] theorem failsOnValues_checkStart (start : Value) : FailsOnValues (checkStart start) := by
  unfold checkStart
  dsimp only
  split <;> simp

@[simp] theorem failsOnValues_sumValues (strict : Bool) (v part start : Value) :
    FailsOnValues (sumValues strict v part start) := by
  refine .bind (failsOnValues_iterate v) fun items => .bind (failsOnValues_checkStart start) fun _ => ?_
  refine .foldlM (fun total item => ?_) items start
  simp

@[simp] theorem failsOnValues_namedProperty (strict : Bool) (v : Value) (name : Text) :
    FailsOnValues (namedProperty strict v name) := by
  unfold namedProperty
  dsimp only
  split <;> simp

@[simp] theorem failsOnValues_applyFilter (strict : Bool) (name : Text) (v : Value) (args : List Value)
    (named : List (Text × Value)) : FailsOnValues (applyFilter strict name v args named) := by
  unfold applyFilter
  dsimp only
  split
  -- most filters go on with the arguments that their signature gives them
  all_goals first
    | (simp; done)
    | (refine .bind (failsOnValues_signature _ _ _) fun values => ?_
       split <;> simp [FailsOnValues.forM])

/-! ### Tests -/

@[simp] theorem failsOnValues_isNameAmong (v : Value) (names : List Text) : FailsOnValues (isNameAmong v names) := by
  unfold isNameAmong
  split <;> simp

@[simp] theorem failsOnValues_isIterable (v : Value) : FailsOnValues (isIterable v) := by
  unfold isIterable
  split
  · simp
  · next f h => simp [failsOnValues_iterate v f h]

@[simp] theorem failsOnValues_applyTest (name : Text) (v : Value) (args : List Value) (named : List (Text × Value)) :
    FailsOnValues (applyTest name v args named) := by
  unfold applyTest
  dsimp only
  split
  · split
    · simp
    · split <;> simp
  · split
    all_goals first
      | (simp; done)
      | (refine .bind (failsOnValues_signature _ _ _) fun values => ?_
         split <;> simp)

/-! ### Methods -/

@[simp] theorem failsOnValues_noArguments (label : Text) (args : List Value) (named : List (Text × Value)) :
    FailsOnValues (noArguments label args named) := by
  simp [noArguments]

@[simp] theorem failsOnValues_noNames (label : Text) (named : List (Text × Value)) :
    FailsOnValues (noNames label named) := by
  simp [noNames]

@[simp] theorem failsOnValues_argumentCount (label : Text) (least most : Nat) (args : List Value) :
    FailsOnValues (argumentCount label least most args) := by
  simp [argumentCount]

@[simp] theorem failsOnValues_searchCount (label : Text) (args : List Value) :
    FailsOnValues (searchCount label args) := by
  simp [searchCount]

@[simp] theorem failsOnValues_between {α : Type} (items : List α) (bounds : List Value) :
    FailsOnValues (between items bounds) := by
  unfold between
  dsimp only
  split <;> split <;> simp

@[simp] theorem failsOnValues_listBound (v : Value) : FailsOnValues (listBound v) := by
  unfold listBound
  split <;> simp

@[simp] theorem failsOnValues_firstPlace (v : Value) (ws : List Value) : FailsOnValues (firstPlace v ws) := by
  induction ws with
  | nil => simp [firstPlace]
  | cons w ws ih => simp [firstPlace, ih]

@[simp] theorem failsOnValues_indexOf (v : Value) (items bounds : List Value) :
    FailsOnValues (indexOf v items bounds) := by
  unfold indexOf
  dsimp only
  split <;> split <;> simp

@[simp] theorem failsOnValues_textArgument (message : Value → Text) (v : Value) :
    FailsOnValues (textArgument message v) := by
  unfold textArgument
  split <;> simp

@[simp] theorem failsOnValues_affixes (label : Text) (v : Value) : FailsOnValues (affixes label v) := by
  unfold affixes
  split
  · simp
  · exact .mapM (fun w => failsOnValues_textArgument _ w) _
  · simp

@[simp] theorem failsOnValues_strippable (label : Text) (args : List Value) :
    FailsOnValues (strippable label args) := by
  unfold strippable
  split <;> simp

@[simp] theorem failsOnValues_splitText (t : Text) (args : List Value) (named : List (Text × Value)) :
    FailsOnValues (splitText t args named) := by
  unfold splitText
  refine .bind (failsOnValues_signature _ _ _) fun values => ?_
  split
  · refine .bind (failsOnValues_sizeArgument _) fun n => ?_
    dsimp only
    split <;> simp
  · simp

@[simp] theorem failsOnValues_joinTexts (sep : Text) (v : Value) : FailsOnValues (joinTexts sep v) := by
  refine .bind (failsOnValues_iterateOr _ v) fun items => .bind (.mapM (fun p => ?_) _) fun parts => failsOnValues_ok _
  exact failsOnValues_textArgument _ _

@[simp] theorem failsOnValues_paddingOf (label : Text) (args : List Value) (named : List (Text × Value)) :
    FailsOnValues (paddingOf label args named) := by
  unfold paddingOf
  refine .bind (failsOnValues_noNames _ named) fun _ => .bind (failsOnValues_argumentCount label 1 2 args) fun _ => ?_
  refine .bind (failsOnValues_sizeArgument _) fun width => ?_
  split <;> simp

@[simp] theorem failsOnValues_callLayoutMethod (t name : Text) (args : List Value) (named : List (Text × Value)) :
    FailsOnValues (callLayoutMethod t name args named) := by
  unfold callLayoutMethod
  dsimp only
  split <;> simp

@[simp] theorem failsOnValues_searched (t name : Text) (args : List Value) (named : List (Text × Value)) :
    FailsOnValues (searched t name args named) := by
  refine .bind (failsOnValues_noNames _ named) fun _ => .bind (failsOnValues_searchCount name args) fun _ => ?_
  split <;> simp

@[simp] theorem failsOnValues_placeOf (find : Text → Text → Option Nat) (t name : Text) (args : List Value)
    (named : List (Text × Value)) : FailsOnValues (placeOf find t name args named) := by
  refine .bind (failsOnValues_searched t name args named) fun found => ?_
  split <;> simp

@[simp] theorem failsOnValues_placeOrFault (place : Option Nat) : FailsOnValues (placeOrFault place) := by
  unfold placeOrFault
  split <;> simp

@[simp] theorem failsOnValues_countOf (t name : Text) (args : List Value) (named : List (Text × Value)) :
    FailsOnValues (countOf t name args named) := by
  refine .bind (failsOnValues_searched t name args named) fun found => ?_
  split <;> simp

@[simp] theorem failsOnValues_hasAffix (p : Text → Text → Bool) (t name : Text) (args : List Value)
    (named : List (Text × Value)) : FailsOnValues (hasAffix p t name args named) := by
  refine .bind (failsOnValues_noNames _ named) fun _ => .bind (failsOnValues_searchCount name args) fun _ => ?_
  split
  · refine .bind (failsOnValues_affixes name _) fun ends => .bind (failsOnValues_between t _) fun window => ?_
    split <;> simp
  · simp

@[simp] theorem failsOnValues_replaceLimit (args : List Value) : FailsOnValues (replaceLimit args) := by
  unfold replaceLimit
  split <;> simp

@[simp] theorem failsOnValues_replaceIn (t name : Text) (args : List Value) (named : List (Text × Value)) :
    FailsOnValues (replaceIn t name args named) := by
  refine .bind (failsOnValues_noNames _ named) fun _ => .bind (failsOnValues_argumentCount name 2 3 args) fun _ => ?_
  split <;> simp

@[simp] theorem failsOnValues_callTextMethod (t name : Text) (args : List Value) (named : List (Text × Value)) :
    FailsOnValues (callTextMethod t name args named) := by
  unfold callTextMethod
  dsimp only
  split <;> simp

@[simp] theorem failsOnValues_callSequenceMethod (kind : Text) {missing : Value → Except Fault Text}
    (hmissing : ∀ v, FailsOnValues (missing v)) (items : List Value) (name : Text) (args : List Value)
    (named : List (Text × Value)) : FailsOnValues (callSequenceMethod kind missing items name args named) := by
  unfold callSequenceMethod
  dsimp only
  split
  · refine .bind (failsOnValues_noNames _ named) fun _ => .bind (failsOnValues_argumentCount name 1 3 args) fun _ => ?_
    split
    · refine .bind (failsOnValues_indexOf _ items _) fun place => ?_
      split <;> simp [hmissing]
    · simp
  · refine .bind (failsOnValues_exactlyOne _ args named) fun v => ?_
    exact .bind (.filterM (fun w => failsOnValues_equalValues w v) items) fun _ => failsOnValues_ok _
  · simp
  · simp

@[simp] theorem failsOnValues_callMappingMethod (entries : List (Value × Value)) (name : Text) (args : List Value)
    (named : List (Text × Value)) : FailsOnValues (callMappingMethod entries name args named) := by
  unfold callMappingMethod
  dsimp only
  split
  · refine .bind (failsOnValues_noNames _ named) fun _ => .bind (failsOnValues_argumentCount name 1 2 args) fun _ => ?_
    split <;> simp
  all_goals simp

@[simp] theorem failsOnValues_callMethod (receiver : Value) (name : Text) (args : List Value)
    (named : List (Text × Value)) : FailsOnValues (callMethod receiver name args named) := by
  unfold callMethod
  split <;> simp

/-! ### Functions and arguments -/

@[simp] theorem failsOnValues_withRest (args : List Value) (rest : Value) : FailsOnValues (withRest args rest) := by
  simp [withRest]

@[simp] theorem failsOnValues_restEntries (rest : Value) : FailsOnValues (restEntries rest) := by
  unfold restEntries
  split <;> simp

@[simp] theorem failsOnValues_namedEntries (entries : List (Value × Value)) : FailsOnValues (namedEntries entries) := by
  refine .mapM (fun e => ?_) entries
  dsimp only
  split <;> simp

@[simp] theorem failsOnValues_withNamedRest (replaces : Bool) (named : Scope) (rest : Value) :
    FailsOnValues (withNamedRest replaces named rest) := by
  refine .bind (failsOnValues_restEntries rest) fun entries => .bind (failsOnValues_namedEntries entries) fun more => ?_
  dsimp only
  generalize (if replaces = true then none else List.find? (fun e => (Scope.find? e.1 named).isSome) more) = twice
  cases twice <;> simp

@[simp] theorem failsOnValues_refuseInternal (named : Scope) : FailsOnValues (refuseInternal named) := by
  simp [refuseInternal]

@[simp] theorem failsOnValues_askValue (strict : Bool) (asked : Asked) (name : Text) (v : Value) (args : List Value)
    (named : List (Text × Value)) : FailsOnValues (askValue strict asked name v args named) := by
  unfold askValue
  split <;> simp

@[simp] theorem failsOnValues_mappingOf (pairs : List (Value × Value)) : FailsOnValues (mappingOf pairs) := by
  refine .bind (.foldlM (fun entries e => ?_) pairs []) fun entries => failsOnValues_ok _
  simp

@[simp] theorem failsOnValues_namespaceOf (fields : List (Text × Value)) : FailsOnValues (namespaceOf fields) := by
  simp [namespaceOf]

@[simp] theorem failsOnValues_assignProperty (n property : Text) (v : Value) (scopes : List Scope) :
    FailsOnValues (assignProperty n property v scopes) := by
  induction scopes with
  | nil => simp [assignProperty]
  | cons scope outer ih =>
    unfold assignProperty
    split <;> simp [ih]

@[simp] theorem failsOnValues_constantValue (v : Value) : FailsOnValues (constantValue v) := by
  unfold constantValue
  split <;> simp

@[simp] theorem failsOnValues_rangeOf (args : List Value) : FailsOnValues (rangeOf args) := by
  refine .bind (failsOnValues_argumentCount _ _ _ args) fun _ => .bind (.mapM failsOnValues_integerArgument args) ?_
  intro bounds
  dsimp only
  split <;> simp

@[simp] theorem failsOnValues_entriesFrom (v : Value) : FailsOnValues (entriesFrom v) := by
  unfold entriesFrom
  split
  · simp
  · simp
  · refine .bind (failsOnValues_iterate _) fun items => .mapM (fun p => ?_) _
    refine .bind (failsOnValues_iterateOr _ p.1) fun parts => ?_
    split <;> simp

@[simp] theorem failsOnValues_namespaceFrom (pairs : List (Value × Value)) : FailsOnValues (namespaceFrom pairs) := by
  refine .bind (failsOnValues_mappingOf pairs) fun v => ?_
  split <;> simp

@[simp] theorem failsOnValues_callGlobal (n : Text) (args : List Value) (named : List (Text × Value)) :
    FailsOnValues (callGlobal n args named) := by
  unfold callGlobal
  dsimp only
  split
  · split <;> simp
  · refine .bind (failsOnValues_argumentCount _ _ _ args) fun _ => ?_
    split <;> simp
  · refine .bind (failsOnValues_argumentCount _ _ _ args) fun _ => ?_
    split <;> simp
  · simp

@[simp] theorem aboutValues_insertionFault (v : Value) : (insertionFault v).AboutValues := by
  unfold insertionFault
  split
  · simp
  · simp [noLoader]
  · split
    · next f h => exact failsOnValues_truth _ f h
    · simp
    · split
      · simp [noLoader]
      · next f h => exact failsOnValues_iterate _ f h

@[simp] theorem failsOnValues_arguments (c : Callable) (strict : Bool) (args : List Value)
    (named : List (Text × Value)) : FailsOnValues (c.arguments strict args named) := by
  unfold Callable.arguments
  dsimp only
  split
  · simp
  · split
    · simp
    · simp

end Rulebook.Template
