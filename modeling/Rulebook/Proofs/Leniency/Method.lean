import Rulebook.Proofs.Leniency.Filter
import Rulebook.Template.Method

/-!
# Methods of values that differ in what is undefined

A text is the same under both policies, and its methods give the same, whatever else is undefined. Lists, tuples and
mappings give parts that differ as they do.
-/

namespace Rulebook.Template
open Value (Eases forall₂_eases_refl)

variable {v v' w w' : Value} {args args' : List Value} {named named' : List (Text × Value)}

/-! ### Arguments -/

theorem noArguments_eq (label : Text) (hargs : List.Forall₂ Eases args args')
    (hnamed : List.Forall₂ EasesUnder named named') :
    noArguments label args named = noArguments label args' named' := by
  simp only [noArguments, forall₂_isEmpty hargs, forall₂_isEmpty hnamed, hargs.length_eq]

theorem noNames_eq (label : Text) (hnamed : List.Forall₂ EasesUnder named named') :
    noNames label named = noNames label named' := by
  simp only [noNames, forall₂_isEmpty hnamed]

theorem argumentCount_eq (label : Text) (least most : Nat) (hargs : List.Forall₂ Eases args args') :
    argumentCount label least most args = argumentCount label least most args' := by
  simp only [argumentCount, hargs.length_eq]

theorem searchCount_eq (label : Text) (hargs : List.Forall₂ Eases args args') :
    searchCount label args = searchCount label args' := by
  simp only [searchCount, forall₂_isEmpty hargs, hargs.length_eq]

theorem between_eq {α : Type} (items : List α) (h : List.Forall₂ Eases args args') :
    between items args = between items args' := by
  rcases h with _ | ⟨ha, _ | ⟨hb, _⟩⟩
  · rfl
  · simp only [between, sliceBound_eq ha]
  · simp only [between, sliceBound_eq ha, sliceBound_eq hb]

theorem listBound_eq (h : Eases v w) : listBound v = listBound w := by
  simp only [listBound, h.asInteger?]

theorem follows_textArgument (message : Value → Text) (h : Eases v w) :
    Follows Eq (textArgument message v) (textArgument message w) := by
  cases h with
  | same => exact .eq _
  | _ => exact follows_error _ _

/-- One argument by position that is a text. -/
theorem follows_textOfOne (label : String) (message : Value → Text) (hargs : List.Forall₂ Eases args args')
    (hnamed : List.Forall₂ EasesUnder named named') :
    Follows Eq (do textArgument message (← exactlyOne label args named))
      (do textArgument message (← exactlyOne label args' named')) :=
  (follows_exactlyOne label hargs hnamed).bind fun _ _ h => follows_textArgument message h

theorem follows_affixes (label : Text) (h : Eases v w) : Follows Eq (affixes label v) (affixes label w) := by
  cases h with
  | same => exact .eq _
  | tuple h => exact .mapM_eq h fun _ _ h => follows_textArgument _ h
  | _ => exact follows_error _ _

theorem follows_strippable (label : Text) (hargs : List.Forall₂ Eases args args') :
    Follows Eq (strippable label args) (strippable label args') := by
  rcases hargs with _ | ⟨h, _ | _⟩
  · exact .eq _
  · cases h with
    | same => exact .eq _
    | _ => exact follows_error _ _
  · unfold strippable
    split <;> first | exact follows_error _ _ | (next h => cases h)

/-! ### Texts -/

theorem follows_splitText (t : Text) (hargs : List.Forall₂ Eases args args')
    (hnamed : List.Forall₂ EasesUnder named named') :
    Follows Eq (splitText t args named) (splitText t args' named') := by
  refine (follows_signature _ hargs hnamed).bind fun _ _ h => ?_
  rcases h with _ | ⟨ha, _ | ⟨hb, _ | _⟩⟩
  case cons.cons.nil =>
    refine (follows_sizeArgument hb).bind_eq fun n => ?_
    cases ha with
    | same => exact .eq _
    | _ => exact follows_error _ _
  all_goals exact .eq _

theorem follows_joinItems (sep : Text) {items items' : List Value} (h : List.Forall₂ Eases items items') :
    Follows Eq
      (do
        let parts ← items.zipIdx.mapM fun (item, i) =>
          textArgument
            (fun w => "sequence item " ++ Text.ofNat i ++ ": expected str instance, " ++ w.operandName ++ " found") item
        return Value.text (Text.join sep parts))
      (do
        let parts ← items'.zipIdx.mapM fun (item, i) =>
          textArgument
            (fun w => "sequence item " ++ Text.ofNat i ++ ": expected str instance, " ++ w.operandName ++ " found") item
        return Value.text (Text.join sep parts)) := by
  refine Follows.bind_eq (.mapM_eq (forall₂_zipIdx h 0) ?_) fun parts => .eq _
  rintro ⟨item, i⟩ ⟨item', _⟩ ⟨hitem, rfl⟩
  exact follows_textArgument _ hitem

theorem follows_joinTexts (sep : Text) (h : Eases v w) : Follows Eq (joinTexts sep v) (joinTexts sep w) :=
  (follows_iterateOr _ _ h).bind fun _ _ hitems => follows_joinItems sep hitems

theorem follows_paddingOf (label : Text) (hargs : List.Forall₂ Eases args args')
    (hnamed : List.Forall₂ EasesUnder named named') :
    Follows Eq (paddingOf label args named) (paddingOf label args' named') := by
  unfold paddingOf
  rw [← noNames_eq _ hnamed, ← argumentCount_eq _ _ _ hargs]
  refine .bind_eq (.eq _) fun _ => .bind_eq (.eq _) fun _ => ?_
  cases hargs with
  | nil => exact .eq _
  | cons ha hrest =>
    refine (follows_sizeArgument ha).bind_eq fun width => ?_
    cases hrest with
    | nil => exact .eq _
    | @cons b _ _ _ hb _ =>
      cases hb with
      | same =>
        cases b with
        | text t => rcases t with _ | ⟨c, _ | _⟩ <;> exact .eq _
        | _ => exact follows_error _ _
      | _ => exact follows_error _ _

theorem follows_callLayoutMethod (t name : Text) (hargs : List.Forall₂ Eases args args')
    (hnamed : List.Forall₂ EasesUnder named named') :
    Follows Eq (callLayoutMethod t name args named) (callLayoutMethod t name args' named') := by
  unfold callLayoutMethod
  dsimp only
  split
  case h_1 | h_2 | h_3 => exact (follows_paddingOf name hargs hnamed).bind_eq fun p => .eq _
  case h_4 =>
    refine (follows_exactlyOne _ hargs hnamed).bind fun _ _ h => ?_
    exact (follows_sizeArgument h).bind_eq fun width => .eq _
  case h_5 | h_6 =>
    refine (follows_exactlyOne _ hargs hnamed).bind fun _ _ h => ?_
    exact (follows_textArgument _ h).bind_eq fun sep => .eq _
  case h_7 | h_8 => exact (follows_textOfOne _ _ hargs hnamed).bind_eq fun a => .eq _
  case h_9 => exact follows_error _ _

theorem follows_searched (t name : Text) (hargs : List.Forall₂ Eases args args')
    (hnamed : List.Forall₂ EasesUnder named named') :
    Follows Eq (searched t name args named) (searched t name args' named') := by
  unfold searched
  rw [← noNames_eq _ hnamed, ← searchCount_eq _ hargs]
  refine .bind_eq (.eq _) fun _ => .bind_eq (.eq _) fun _ => ?_
  cases hargs with
  | nil => exact .eq _
  | cons h hs =>
    dsimp only
    rw [← between_eq t hs]
    exact (follows_textArgument _ h).bind_eq fun part => .eq _

theorem follows_placeOf (find : Text → Text → Option Nat) (t name : Text) (hargs : List.Forall₂ Eases args args')
    (hnamed : List.Forall₂ EasesUnder named named') :
    Follows Eq (placeOf find t name args named) (placeOf find t name args' named') :=
  (follows_searched t name hargs hnamed).bind_eq fun _ => .eq _

theorem follows_countOf (t name : Text) (hargs : List.Forall₂ Eases args args')
    (hnamed : List.Forall₂ EasesUnder named named') :
    Follows Eq (countOf t name args named) (countOf t name args' named') :=
  (follows_searched t name hargs hnamed).bind_eq fun _ => .eq _

theorem follows_hasAffix (p : Text → Text → Bool) (t name : Text) (hargs : List.Forall₂ Eases args args')
    (hnamed : List.Forall₂ EasesUnder named named') :
    Follows Eq (hasAffix p t name args named) (hasAffix p t name args' named') := by
  unfold hasAffix
  rw [← noNames_eq _ hnamed, ← searchCount_eq _ hargs]
  refine .bind_eq (.eq _) fun _ => .bind_eq (.eq _) fun _ => ?_
  cases hargs with
  | nil => exact .eq _
  | cons h hs =>
    dsimp only
    rw [← between_eq t hs]
    exact (follows_affixes name h).bind_eq fun ends => .eq _

theorem follows_replaceLimit (hargs : List.Forall₂ Eases args args') :
    Follows Eq (replaceLimit args) (replaceLimit args') := by
  cases hargs with
  | nil => exact .eq _
  | cons h hs => exact (follows_sizeArgument h).bind_eq fun n => .eq _

theorem follows_replaceIn (t name : Text) (hargs : List.Forall₂ Eases args args')
    (hnamed : List.Forall₂ EasesUnder named named') :
    Follows Eq (replaceIn t name args named) (replaceIn t name args' named') := by
  unfold replaceIn
  rw [← noNames_eq _ hnamed, ← argumentCount_eq _ _ _ hargs]
  refine .bind_eq (.eq _) fun _ => .bind_eq (.eq _) fun _ => ?_
  rcases hargs with _ | ⟨hold, _ | ⟨hnew, hrest⟩⟩
  · exact .eq _
  · exact .eq _
  · refine (follows_textArgument _ hold).bind_eq fun old => (follows_textArgument _ hnew).bind_eq fun new => ?_
    exact (follows_replaceLimit hrest).bind_eq fun n => .eq _

theorem follows_callTextMethod (t name : Text) (hargs : List.Forall₂ Eases args args')
    (hnamed : List.Forall₂ EasesUnder named named') :
    Follows Eq (callTextMethod t name args named) (callTextMethod t name args' named') := by
  unfold callTextMethod
  dsimp only
  simp only [← noArguments_eq _ hargs hnamed, ← noNames_eq _ hnamed, ← argumentCount_eq _ _ _ hargs]
  split
  case h_6 | h_7 | h_8 =>
    refine .bind_eq (.eq _) fun _ => .bind_eq (.eq _) fun _ => ?_
    exact (follows_strippable name hargs).bind_eq fun p => .eq _
  case h_9 | h_10 => exact follows_hasAffix _ t name hargs hnamed
  case h_11 | h_12 | h_13 | h_14 => exact (follows_placeOf _ t name hargs hnamed).bind_eq fun place => .eq _
  case h_15 => exact follows_countOf t name hargs hnamed
  case h_16 => exact follows_replaceIn t name hargs hnamed
  case h_17 => exact follows_splitText t hargs hnamed
  case h_18 => exact (follows_exactlyOne _ hargs hnamed).bind fun _ _ h => follows_joinTexts t h
  case h_27 => exact follows_callLayoutMethod t name hargs hnamed
  all_goals exact .eq _

/-! ### Lists, tuples and mappings -/

theorem follows_firstPlace (hv : Eases v v') {ws ws' : List Value} (hws : List.Forall₂ Eases ws ws') :
    Follows Eq (firstPlace v ws) (firstPlace v' ws') := by
  induction hws with
  | nil => exact .eq _
  | cons hw _ ih =>
    rw [firstPlace, firstPlace]
    exact (follows_equalValues hw hv).bind_eq fun c => .ite (.eq _) (ih.bind_eq fun place => .eq _)

theorem follows_indexOf (hv : Eases v v') {items items' : List Value} (hitems : List.Forall₂ Eases items items')
    (hargs : List.Forall₂ Eases args args') : Follows Eq (indexOf v items args) (indexOf v' items' args') := by
  have hplace : ∀ first last : Nat, Follows Eq
      (do return (← firstPlace v ((items.take last).drop first)).map (first + ·))
      (do return (← firstPlace v' ((items'.take last).drop first)).map (first + ·)) := fun first last =>
    (follows_firstPlace hv (List.forall₂_drop first (List.forall₂_take last hitems))).bind_eq fun place => .eq _
  unfold indexOf
  dsimp only
  rw [← hitems.length_eq]
  rcases hargs with _ | ⟨ha, _ | ⟨hb, _⟩⟩
  · exact hplace _ _
  · dsimp only
    rw [← listBound_eq ha]
    exact .bind_eq (.eq _) fun start => .bind_eq (.eq _) fun first => hplace _ _
  · dsimp only
    rw [← listBound_eq ha, ← listBound_eq hb]
    refine .bind_eq (.eq _) fun start => .bind_eq (.eq _) fun first => ?_
    exact .bind_eq (.eq _) fun stop => .bind_eq (.eq _) fun last => hplace _ _

theorem follows_callSequenceMethod (kind : Text) {missing : Value → Except Fault Text} {items items' : List Value}
    (hitems : List.Forall₂ Eases items items') (name : Text) (hargs : List.Forall₂ Eases args args')
    (hnamed : List.Forall₂ EasesUnder named named') :
    Follows Eases (callSequenceMethod kind missing items name args named)
      (callSequenceMethod kind missing items' name args' named') := by
  unfold callSequenceMethod
  dsimp only
  simp only [← noArguments_eq _ hargs hnamed, ← noNames_eq _ hnamed, ← argumentCount_eq _ _ _ hargs]
  split
  · refine .bind_eq (.eq _) fun _ => .bind_eq (.eq _) fun _ => ?_
    cases hargs with
    | nil => exact follows_ok_ok.2 (.same _)
    | cons h hs =>
      refine (follows_indexOf h hitems hs).bind_eq fun place => ?_
      cases place with
      | some i => exact follows_ok_ok.2 (.same _)
      | none => cases missing _ <;> exact follows_error _ _
  · refine (follows_exactlyOne _ hargs hnamed).bind fun _ _ h => ?_
    refine (Follows.filterM hitems fun _ _ hw => follows_equalValues hw h).bind fun _ _ h => follows_ok_ok.2 ?_
    exact h.length_eq ▸ .same _
  · exact .bind_eq (.eq _) fun _ => follows_ok_ok.2 (.list hitems)
  · exact follows_error _ _

theorem follows_callMappingMethod {entries entries' : List (Value × Value)}
    (h : List.Forall₂ EasesUnder entries entries') (name : Text) (hargs : List.Forall₂ Eases args args')
    (hnamed : List.Forall₂ EasesUnder named named') :
    Follows Eases (callMappingMethod entries name args named) (callMappingMethod entries' name args' named') := by
  unfold callMappingMethod
  dsimp only
  simp only [← noArguments_eq _ hargs hnamed, ← noNames_eq _ hnamed, ← argumentCount_eq _ _ _ hargs]
  split
  · refine .bind_eq (.eq _) fun _ => .bind_eq (.eq _) fun _ => ?_
    cases hargs with
    | nil => exact follows_ok_ok.2 (.same _)
    | @cons k k' _ _ hk hrest =>
      refine (finds_checkKey hk).follows.bind ?_
      rintro _ _ rfl
      refine follows_ok_ok.2 (optionRel_getD (Eases.lookup h k') ?_)
      cases hrest with
      | nil => exact .same _
      | cons h _ => exact h
  · rw [Value.forall₂_easesUnder_keys h]
    exact .bind_eq (.eq _) fun _ => follows_ok_ok.2 (.same _)
  · exact .bind_eq (.eq _) fun _ => follows_ok_ok.2 (.view _ (forall₂_map h fun _ _ => EasesUnder.value))
  · refine .bind_eq (.eq _) fun _ => follows_ok_ok.2 (.view _ (forall₂_map h ?_))
    rintro ⟨k, v⟩ ⟨_, w⟩ ⟨rfl, hv⟩
    exact .tuple (.cons (.same k) (.cons hv .nil))
  · exact .bind_eq (.eq _) fun _ => follows_ok_ok.2 (.mapping h)
  · exact follows_error _ _

theorem follows_callMethod (h : Eases v w) (name : Text) (hargs : List.Forall₂ Eases args args')
    (hnamed : List.Forall₂ EasesUnder named named') :
    Follows Eases (callMethod v name args named) (callMethod w name args' named') := by
  cases h with
  | list h | tuple h => exact follows_callSequenceMethod _ h name hargs hnamed
  | mapping h => exact follows_callMappingMethod h name hargs hnamed
  | same =>
    cases v with
    | text t => exact (follows_callTextMethod t name hargs hnamed).mono fun _ _ h => h ▸ .same _
    | list items | tuple items => exact follows_callSequenceMethod _ (forall₂_eases_refl items) name hargs hnamed
    | mapping entries => exact follows_callMappingMethod (Value.forall₂_easesUnder_refl entries) name hargs hnamed
    | _ => exact follows_error _ _
  | _ => exact follows_error _ _

end Rulebook.Template
