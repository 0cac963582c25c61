import Rulebook.Proofs.Leniency.Method
import Rulebook.Template.Render

/-!
# Calls with values that differ in what is undefined

What is given to a call, and what the functions give that every template knows.
-/

namespace Rulebook.Template
open Value (Eases forall₂_eases_refl)

variable {v v' w w' : Value} {args args' : List Value} {named named' : List (Text × Value)}

/-! ### Mappings -/

theorem insertEntry_eases (k : Value) (hv : Eases v w) {entries entries' : List (Value × Value)}
    (h : List.Forall₂ EasesUnder entries entries') :
    List.Forall₂ EasesUnder (Value.insertEntry k v entries) (Value.insertEntry k w entries') := by
  unfold Value.insertEntry
  rw [← optionRel_isSome (Eases.lookup h k)]
  split
  · refine forall₂_map h ?_
    rintro ⟨l, a⟩ ⟨_, b⟩ ⟨rfl, hab⟩
    dsimp only
    split
    · exact ⟨rfl, hv⟩
    · exact ⟨rfl, hab⟩
  · exact List.rel_append h (.cons ⟨rfl, hv⟩ .nil)

theorem follows_entriesOf {pairs pairs' : List (Value × Value)} (h : List.Forall₂ EasesBoth pairs pairs') :
    Follows
      (fun v w => ∃ entries entries', v = .mapping entries ∧ w = .mapping entries' ∧
        List.Forall₂ EasesUnder entries entries')
      (mappingOf pairs) (mappingOf pairs') := by
  refine Follows.bind (.foldlM h ?_ .nil) fun _ _ h => follows_ok_ok.2 ⟨_, _, rfl, rfl, h⟩
  rintro entries entries' ⟨k, v⟩ ⟨k', w⟩ hentries ⟨hk, hv⟩
  refine (finds_checkKey hk).follows.bind ?_
  rintro _ _ rfl
  exact follows_ok_ok.2 (insertEntry_eases k' hv hentries)

theorem follows_mappingOf {pairs pairs' : List (Value × Value)} (h : List.Forall₂ EasesBoth pairs pairs') :
    Follows Eases (mappingOf pairs) (mappingOf pairs') := by
  refine (follows_entriesOf h).mono ?_
  rintro _ _ ⟨entries, entries', rfl, rfl, h⟩
  exact .mapping h

/-! ### Scopes -/

namespace Scope
variable {x y : Scope}

theorem find?_eases (h : List.Forall₂ EasesUnder x y) (n : Text) :
    Option.Rel Eases (Scope.find? n x) (Scope.find? n y) := by
  induction h with
  | nil => exact .none
  | @cons p q _ _ hpq _ ih =>
    obtain ⟨m, v⟩ := p
    obtain ⟨rfl, hv⟩ := hpq
    simp only [Scope.find?]
    split
    · exact .some hv
    · exact ih

theorem bind_eases (h : List.Forall₂ EasesUnder x y) (n : Text) {v w : Value} (hv : Eases v w) :
    List.Forall₂ EasesUnder (Scope.bind n v x) (Scope.bind n w y) := by
  induction h with
  | nil => exact .cons ⟨rfl, hv⟩ .nil
  | @cons p q _ _ hpq hs ih =>
    obtain ⟨m, u⟩ := p
    obtain ⟨rfl, hu⟩ := hpq
    simp only [Scope.bind]
    split
    · exact .cons ⟨rfl, hv⟩ hs
    · exact .cons ⟨rfl, hu⟩ ih

end Scope

theorem bindAll_eases {x y : Scope} (hnamed : List.Forall₂ EasesUnder named named') (h : List.Forall₂ EasesUnder x y) :
    List.Forall₂ EasesUnder (bindAll named x) (bindAll named' y) := by
  induction hnamed generalizing x y with
  | nil => exact h
  | @cons p q _ _ hpq _ ih =>
    obtain ⟨n, v⟩ := p
    obtain ⟨rfl, hv⟩ := hpq
    exact ih (Scope.bind_eases h n hv)

/-! ### Arguments -/

theorem follows_withRest (hargs : List.Forall₂ Eases args args') (h : Eases v w) :
    Follows (List.Forall₂ Eases) (withRest args v) (withRest args' w) :=
  (follows_iterateOr _ _ h).bind fun _ _ hmore => follows_ok_ok.2 (List.rel_append hargs hmore)

/-- Pairs that are read off the items of a value. -/
theorem follows_pairsFrom (h : Eases v w) : Follows (List.Forall₂ EasesBoth)
    (do
      (← iterate v).zipIdx.mapM fun (item, i) => do
        match ← iterateOr ("cannot convert dictionary update sequence element #" ++ Text.ofNat i ++ " to a sequence")
            item with
        | [k, w] => return (k, w)
        | parts =>
          throw (Fault.badValue ("dictionary update sequence element #" ++ Text.ofNat i ++ " has length " ++
            Text.ofNat parts.length ++ "; 2 is required")))
    (do
      (← iterate w).zipIdx.mapM fun (item, i) => do
        match ← iterateOr ("cannot convert dictionary update sequence element #" ++ Text.ofNat i ++ " to a sequence")
            item with
        | [k, w] => return (k, w)
        | parts =>
          throw (Fault.badValue ("dictionary update sequence element #" ++ Text.ofNat i ++ " has length " ++
            Text.ofNat parts.length ++ "; 2 is required"))) := by
  refine (follows_iterate h).bind fun _ _ hitems => .mapM (forall₂_zipIdx hitems 0) ?_
  rintro ⟨item, i⟩ ⟨item', _⟩ ⟨hitem, rfl⟩
  refine (follows_iterateOr _ _ hitem).bind fun parts parts' hparts => ?_
  rcases hparts with _ | ⟨ha, _ | ⟨hb, _ | _⟩⟩
  case cons.cons.nil => exact follows_ok_ok.2 ⟨ha, hb⟩
  all_goals exact follows_error _ _

theorem easesBoth_of_easesUnder {entries entries' : List (Value × Value)}
    (h : List.Forall₂ EasesUnder entries entries') : List.Forall₂ EasesBoth entries entries' :=
  h.imp fun _ _ h => ⟨h.key ▸ .same _, h.value⟩

theorem follows_entriesFrom (h : Eases v w) :
    Follows (List.Forall₂ EasesBoth) (entriesFrom v) (entriesFrom w) := by
  have hpairs := follows_pairsFrom h
  cases h with
  | mapping h => exact follows_ok_ok.2 (easesBoth_of_easesUnder h)
  | undefined => exact follows_error _ _
  | same =>
    cases v with
    | mapping entries => exact follows_ok_ok.2 (easesBoth_of_easesUnder (Value.forall₂_easesUnder_refl entries))
    | undefined => exact follows_error _ _
    | _ => exact hpairs
  | _ => exact hpairs

theorem follows_restEntries (h : Eases v w) :
    Follows (List.Forall₂ EasesBoth) (restEntries v) (restEntries w) := by
  cases h with
  | mapping h => exact follows_ok_ok.2 (easesBoth_of_easesUnder h)
  | same =>
    cases v with
    | mapping entries => exact follows_ok_ok.2 (easesBoth_of_easesUnder (Value.forall₂_easesUnder_refl entries))
    | _ => exact follows_error _ _
  | _ => exact follows_error _ _

theorem follows_namedEntries {entries entries' : List (Value × Value)} (h : List.Forall₂ EasesBoth entries entries') :
    Follows (List.Forall₂ EasesUnder) (namedEntries entries) (namedEntries entries') := by
  refine .mapM h ?_
  rintro ⟨k, v⟩ ⟨k', w⟩ ⟨hk, hv⟩
  cases k with
  | text t =>
    cases hk
    exact follows_ok_ok.2 ⟨rfl, hv⟩
  | _ => exact follows_error _ _

theorem follows_withNamedRest (replaces : Bool) (hnamed : List.Forall₂ EasesUnder named named') (h : Eases v w) :
    Follows (List.Forall₂ EasesUnder) (withNamedRest replaces named v) (withNamedRest replaces named' w) := by
  refine (follows_restEntries h).bind fun _ _ hentries => (follows_namedEntries hentries).bind fun more more' hmore => ?_
  have htwice := forall₂_find? hmore (p := fun e => (Scope.find? e.1 named).isSome)
    (q := fun e => (Scope.find? e.1 named').isSome)
    fun _ _ he => by rw [EasesUnder.key he, optionRel_isSome (Scope.find?_eases hnamed _)]
  cases replaces with
  | true => exact follows_ok_ok.2 (bindAll_eases hmore hnamed)
  | false =>
    dsimp only [Bool.false_eq_true, if_false]
    generalize List.find? _ more = o at htwice ⊢
    generalize List.find? _ more' = o' at htwice ⊢
    cases htwice with
    | none => exact follows_ok_ok.2 (bindAll_eases hmore hnamed)
    | some => exact follows_error _ _

theorem follows_withConstantRest (hnamed : List.Forall₂ EasesUnder named named') (h : Eases v w) :
    Follows (List.Forall₂ EasesUnder) (withConstantRest named v) (withConstantRest named' w) :=
  (follows_entriesFrom h).bind fun _ _ hentries => (follows_namedEntries hentries).bind fun _ _ hmore =>
    follows_ok_ok.2 (bindAll_eases hmore hnamed)

/-- A filter, or a test that does not tell the two kinds of undefined values apart. -/
theorem follows_askValue {asked : Asked} {name : Text}
    (hname : asked = .test → name.toStringLossy ≠ "sequence") (hv : Eases v w)
    (hargs : List.Forall₂ Eases args args') (hnamed : List.Forall₂ EasesUnder named named') :
    Follows Eases (askValue true asked name v args named) (askValue false asked name w args' named') := by
  cases asked with
  | filter => exact follows_applyFilter name hv hargs hnamed
  | test => exact follows_applyTest (hname rfl) hv hargs hnamed

/-- Which arguments by name are left depends on the names alone. -/
theorem filterNamed_eases (p : Text → Bool) (h : List.Forall₂ EasesUnder named named') :
    List.Forall₂ EasesUnder (named.filter fun e => p e.1) (named'.filter fun e => p e.1) :=
  forall₂_filter h fun _ _ he => by rw [EasesUnder.key he]

theorem findNamed_eases (p : Text → Bool) (h : List.Forall₂ EasesUnder named named') :
    Option.Rel Eases ((named.find? fun e => p e.1).map (·.2)) ((named'.find? fun e => p e.1).map (·.2)) :=
  optionRel_map (forall₂_find? h fun _ _ he => by rw [EasesUnder.key he]) fun _ _ => EasesUnder.value

/-- The values of parameters, by position and then by name. -/
theorem parameterValues_eases (params : List Text) (n : Nat) (hargs : List.Forall₂ Eases args args')
    (hnamed : List.Forall₂ EasesUnder named named') :
    List.Forall₂ (Option.Rel Eases)
      ((args.take params.length).map some ++
        (params.drop n).map fun p => (named.find? fun e => Text.same e.1 p).map (·.2))
      ((args'.take params.length).map some ++
        (params.drop n).map fun p => (named'.find? fun e => Text.same e.1 p).map (·.2)) := by
  refine List.rel_append (forall₂_map (List.forall₂_take _ hargs) fun _ _ h => .some h) ?_
  refine List.forall₂_map_left_iff.2 (List.forall₂_map_right_iff.2 (forall₂_refl (fun p => ?_) _))
  exact findNamed_eases (Text.same · p) hnamed

/-- The special name of the caller. -/
theorem callerScope_eases (uses : Bool) (h : List.Forall₂ EasesUnder named named') :
    List.Forall₂ EasesUnder
      (if uses then [(("caller" : Text), ((named.find? fun e => Text.same e.1 "caller").map (·.2)).getD
        (undefinedOf true "No caller defined"))] else [])
      (if uses then [(("caller" : Text), ((named'.find? fun e => Text.same e.1 "caller").map (·.2)).getD
        (undefinedOf false "No caller defined"))] else []) := by
  split
  · exact .cons ⟨rfl, optionRel_getD (findNamed_eases (Text.same · "caller") h) (undefinedOf_eases _ _)⟩ .nil
  · exact .nil

/-- The arguments by name that the caller leaves. -/
theorem besideCaller_eases (uses : Bool) (h : List.Forall₂ EasesUnder named named') :
    List.Forall₂ EasesUnder (if uses then named.filter fun e => !Text.same e.1 "caller" else named)
      (if uses then named'.filter fun e => !Text.same e.1 "caller" else named') := by
  split
  · exact filterNamed_eases (fun k => !Text.same k "caller") h
  · exact h

/-- The special name for the arguments by position that there are no parameters for. -/
theorem follows_positions {values values' : List (Option Value)} {scope scope' : Scope} {more more' : List Value}
    (uses : Bool) (f : Fault) (hvalues : List.Forall₂ (Option.Rel Eases) values values')
    (hscope : List.Forall₂ EasesUnder scope scope') (hmore : List.Forall₂ Eases more more') :
    Follows (Prod.RProd (List.Forall₂ (Option.Rel Eases)) (List.Forall₂ EasesUnder))
      (if uses then .ok (values, scope ++ [(("varargs" : Text), Value.tuple more)])
        else if more.isEmpty then .ok (values, scope ++ []) else .error f)
      (if uses then .ok (values', scope' ++ [(("varargs" : Text), Value.tuple more')])
        else if more'.isEmpty then .ok (values', scope' ++ []) else .error f) := by
  rw [← forall₂_isEmpty hmore]
  refine .ite (follows_ok_ok.2 ⟨hvalues, List.rel_append hscope (.cons ⟨rfl, .tuple hmore⟩ .nil)⟩) (.ite ?_ ?_)
  · exact follows_ok_ok.2 ⟨hvalues, List.rel_append hscope .nil⟩
  · exact follows_error _ _

theorem follows_arguments {c c' : Callable} (hname : c.name = c'.name) (hparams : c.params = c'.params)
    (hframe : c.frame = c'.frame) (hargs : List.Forall₂ Eases args args')
    (hnamed : List.Forall₂ EasesUnder named named') :
    Follows (Prod.RProd (List.Forall₂ (Option.Rel Eases)) (List.Forall₂ EasesUnder)) (c.arguments true args named)
      (c'.arguments false args' named') := by
  have hvalues := parameterValues_eases c.params args.length hargs hnamed
  have hunused := filterNamed_eases (fun k => !(c.params.drop args.length).any (Text.same k)) hnamed
  have hmore := List.forall₂_drop c.params.length hargs
  unfold Callable.arguments
  simp only [← hname, ← hparams, ← hframe, ← hargs.length_eq]
  generalize (c.frame.special.any (Text.same "caller") && _) = usesCaller
  have hcaller := callerScope_eases usesCaller hunused
  have hleft := besideCaller_eases usesCaller hunused
  generalize (if usesCaller then _ else named.filter _) = left at hleft ⊢
  generalize (if usesCaller then _ else named'.filter _) = left' at hleft ⊢
  refine .ite ?_ ?_
  · exact follows_positions _ _ hvalues (List.rel_append hcaller (.cons ⟨rfl, .mapping (byName_eases hleft)⟩ .nil)) hmore
  cases hleft with
  | nil => exact follows_positions _ _ hvalues (List.rel_append hcaller .nil) hmore
  | cons he _ =>
    obtain ⟨-, -⟩ := he
    dsimp only
    split <;> exact follows_error _ _

/-! ### Functions -/

theorem follows_rangeOf (hargs : List.Forall₂ Eases args args') : Follows Eases (rangeOf args) (rangeOf args') := by
  unfold rangeOf
  rw [← argumentCount_eq _ _ _ hargs]
  refine .bind_eq (.eq _) fun _ => (Follows.mapM_eq hargs fun _ _ h => follows_integerArgument h).bind_eq fun bounds => ?_
  exact .refl .same _

theorem follows_namespaceOf {fields fields' : List (Text × Value)} (h : List.Forall₂ EasesUnder fields fields') :
    Follows Eases (namespaceOf fields) (namespaceOf fields') := by
  have hshown := (Value.Eases.mapping (byName_eases h)).displayed
  unfold namespaceOf
  rw [hshown]
  exact .bind_eq (.eq _) fun shown => follows_ok_ok.2 (.record _ _ h)

theorem follows_namespaceFrom {pairs pairs' : List (Value × Value)} (h : List.Forall₂ EasesBoth pairs pairs') :
    Follows Eases (namespaceFrom pairs) (namespaceFrom pairs') := by
  refine (follows_entriesOf h).bind ?_
  rintro _ _ ⟨entries, entries', rfl, rfl, h⟩
  refine follows_namespaceOf (List.rel_filterMap (fun a b hab => ?_) h)
  obtain ⟨k, v⟩ := a
  obtain ⟨rfl, hv⟩ := hab
  cases k with
  | text t => exact .some ⟨rfl, hv⟩
  | _ => exact .none

theorem follows_callGlobal (n : Text) (hargs : List.Forall₂ Eases args args')
    (hnamed : List.Forall₂ EasesUnder named named') :
    Follows Eases (callGlobal n args named) (callGlobal n args' named') := by
  have hbyName := easesBoth_of_easesUnder (byName_eases hnamed)
  unfold callGlobal
  dsimp only
  rw [← argumentCount_eq _ _ _ hargs]
  split
  · cases hnamed with
    | nil => exact follows_rangeOf hargs
    | cons he _ =>
      obtain ⟨-, -⟩ := he
      exact follows_error _ _
  · refine .bind_eq (.eq _) fun _ => ?_
    cases hargs with
    | nil => exact follows_mappingOf hbyName
    | cons h _ => exact (follows_entriesFrom h).bind fun _ _ h => follows_mappingOf (List.rel_append h hbyName)
  · refine .bind_eq (.eq _) fun _ => ?_
    cases hargs with
    | nil => exact follows_namespaceFrom hbyName
    | cons h _ => exact (follows_entriesFrom h).bind fun _ _ h => follows_namespaceFrom (List.rel_append h hbyName)
  · exact follows_error _ _

theorem any_eq_of_easesUnder {α : Type} {R : α → α → Prop} {xs ys : List (Text × α)}
    (h : List.Forall₂ (Prod.RProd Eq R) xs ys) (p : Text → Bool) : xs.any (fun e => p e.1) = ys.any fun e => p e.1 := by
  induction h with
  | nil => rfl
  | cons he _ ih =>
    obtain ⟨hkey, -⟩ := he
    rw [List.any_cons, List.any_cons, hkey, ih]

theorem refuseInternal_eq (h : List.Forall₂ EasesUnder named named') : refuseInternal named = refuseInternal named' := by
  unfold refuseInternal
  rw [any_eq_of_easesUnder h fun k => internalArguments.any (Text.same k)]

theorem isEmptyChoice_of_eases {v w : Value} (h : Eases v w) (hv : isEmptyChoice v = true) :
    isEmptyChoice w = true := by
  have htruth := follows_truth h
  cases h with
  | same => exact hv
  | undefined => cases hv
  | list | tuple | view | mapping | record | method =>
    simp only [isEmptyChoice] at hv ⊢
    split at hv
    · next b hb =>
      obtain ⟨_, hb', rfl⟩ := htruth b hb
      rwa [hb']
    · cases hv

end Rulebook.Template
