import Rulebook.Proofs.Leniency.Access
import Rulebook.Template.Test

/-!
# Filters and tests of values that differ in what is undefined

What filters make of values, and what tests ask of them. One test tells the two kinds of undefined values apart: whether
a value is a sequence.
-/

namespace Rulebook.Template
open Value (Eases forall₂_eases_refl)

variable {v v' w w' : Value} {args args' : List Value} {named named' : List (Text × Value)}

/-! ### Arguments -/

/-- The arguments by position with the values of the parameters behind them, unless one of these is missing. -/
theorem follows_given (hargs : List.Forall₂ Eases args args') {values values' : List (Option Value)}
    (hvalues : List.Forall₂ (Option.Rel Eases) values values') (names : List Text) (f f' : Fault) :
    Follows (List.Forall₂ Eases)
      (if ((names.zip values).filter fun e => e.2.isNone).isEmpty then
        .ok (args ++ values.map fun v => v.getD .null) else .error f)
      (if ((names.zip values').filter fun e => e.2.isNone).isEmpty then
        .ok (args' ++ values'.map fun v => v.getD .null) else .error f') := by
  have hmissing : ((names.zip values).filter fun e => e.2.isNone).isEmpty =
      ((names.zip values').filter fun e => e.2.isNone).isEmpty := by
    refine forall₂_isEmpty (forall₂_filter (forall₂_zip (forall₂_refl (R := Eq) (fun _ => rfl) names) hvalues) ?_)
    rintro ⟨n, v⟩ ⟨_, w⟩ ⟨-, h⟩
    cases h <;> rfl
  rw [hmissing]
  refine .ite (follows_ok_ok.2 (List.rel_append hargs (forall₂_map hvalues fun v w h => ?_))) (follows_error _ _)
  exact optionRel_getD h (.same .null)

theorem findByName_eases (h : List.Forall₂ EasesUnder named named') (p : Text → Bool) :
    Option.Rel EasesUnder (named.find? fun e => p e.1) (named'.find? fun e => p e.1) :=
  forall₂_find? h fun _ _ h => congrArg p h.key

/-- The value for a parameter: what is given under its name, or else its standard value. -/
theorem parameterValue_eases (h : List.Forall₂ EasesUnder named named') (p : Param) : Option.Rel Eases
    (match named.find? fun e => Text.same e.1 (Text.ofString p.name) with
      | some (_, v) => some v
      | none => p.default)
    (match named'.find? fun e => Text.same e.1 (Text.ofString p.name) with
      | some (_, v) => some v
      | none => p.default) := by
  have hfound := findByName_eases h fun k => Text.same k (Text.ofString p.name)
  generalize List.find? _ named = o at hfound ⊢
  generalize List.find? _ named' = o' at hfound ⊢
  cases hfound with
  | some h => exact .some h.value
  | none =>
    cases p.default with
    | none => exact .none
    | some v => exact .some (.same v)

theorem follows_signature (s : Signature) (hargs : List.Forall₂ Eases args args')
    (hnamed : List.Forall₂ EasesUnder named named') :
    Follows (List.Forall₂ Eases) (s.bind args named) (s.bind args' named') := by
  have hfind := findByName_eases hnamed
  unfold Signature.bind
  dsimp only
  rw [← hargs.length_eq]
  -- a name that no parameter has, or that one by position has already
  have hunknown := hfind fun k => !(s.params.map fun p => Text.ofString p.name).any (Text.same k)
  generalize List.find? _ named = o at hunknown ⊢
  generalize List.find? _ named' = o' at hunknown ⊢
  cases hunknown with
  | some h => exact follows_error _ _
  | none =>
    have hdouble := hfind fun k => ((s.params.map fun p => Text.ofString p.name).take args.length).any (Text.same k)
    dsimp only [pure_bind]
    generalize hdouble_def : List.find? _ named = o at hdouble ⊢
    generalize hdouble_def' : List.find? _ named' = o' at hdouble ⊢
    cases hdouble with
    | some h => exact follows_error _ _
    | none =>
      refine .ite (follows_error _ _) ?_
      have hvalues := List.forall₂_map_left_iff.2 (List.forall₂_map_right_iff.2
        (forall₂_refl (parameterValue_eases hnamed) (s.params.drop args.length)))
      exact follows_given hargs hvalues _ _ _

theorem follows_exactlyOne (label : String) (hargs : List.Forall₂ Eases args args')
    (hnamed : List.Forall₂ EasesUnder named named') :
    Follows Eases (exactlyOne label args named) (exactlyOne label args' named') := by
  unfold exactlyOne
  rw [← forall₂_isEmpty hnamed]
  refine .ite (follows_error _ _) ?_
  cases hargs with
  | nil => exact follows_error _ _
  | cons h hs =>
    cases hs with
    | nil => exact follows_ok_ok.2 h
    | cons => exact follows_error _ _

theorem follows_integerArgument (h : Eases v w) : Follows Eq (integerArgument v) (integerArgument w) := by
  cases h with
  | same => exact .eq _
  | _ => exact follows_error _ _

theorem follows_sizeArgument (h : Eases v w) : Follows Eq (sizeArgument v) (sizeArgument w) :=
  (follows_integerArgument h).bind_eq fun _ => .eq _

/-! ### Members and their keys -/

/-- Values that differ only in what is undefined, with keys that do so too. -/
abbrev EasesBoth : Value × Value → Value × Value → Prop := Prod.RProd Eases Eases

theorem follows_iterateReversed (h : Eases v w) :
    Follows (List.Forall₂ Eases) (iterateReversed v) (iterateReversed w) := by
  have hreversed := (follows_iterateOr ("'" ++ v.operandName ++ "' object is not reversible")
    ("'" ++ w.operandName ++ "' object is not reversible") h).bind fun _ _ h => follows_ok_ok.2 (List.rel_reverse h)
  cases h with
  | same => exact .refl forall₂_eases_refl _
  | _ => exact hreversed

theorem partsOfPath_eases (h : Eases v w) : List.Forall₂ Eases (partsOfPath v) (partsOfPath w) := by
  have hself := h
  cases h with
  | same => exact forall₂_eases_refl _
  | _ => exact .cons hself .nil

theorem follows_followPath {path path' : List Value} (hpath : List.Forall₂ Eases path path') (h : Eases v w) :
    Follows Eases (followPath true path v) (followPath false path' w) :=
  .foldlM hpath (fun _ _ _ _ hv hpart => follows_getItem hv hpart) h

theorem ignoringCase_eases (h : Eases v w) : Eases (ignoringCase v) (ignoringCase w) := by
  have hself := h
  cases h with
  | same => exact .same _
  | _ => exact hself

theorem follows_keyed {a a' b b' : Value} (hv : Eases v v') (ha : Eases a a') (hb : Eases b b') :
    Follows (List.Forall₂ EasesBoth) (keyed true v a b) (keyed false v' a' b') := by
  refine (follows_truth ha).bind_eq fun respect => (follows_iterate hv).bind fun _ _ hitems => .mapM hitems ?_
  intro item item' hitem
  refine (follows_followPath (partsOfPath_eases hb) hitem).bind fun key key' hkey => follows_ok_ok.2 ⟨?_, hitem⟩
  cases respect
  · exact ignoringCase_eases hkey
  · exact hkey

theorem follows_insertByKey {less : Value → Value → Except Fault Bool}
    (hless : ∀ a a' b b', Eases a a' → Eases b b' → Follows Eq (less a b) (less a' b')) {x x' : Value × Value}
    (hx : EasesBoth x x') {ys ys' : List (Value × Value)} (hys : List.Forall₂ EasesBoth ys ys') :
    Follows (List.Forall₂ EasesBoth) (insertByKey less x ys) (insertByKey less x' ys') := by
  induction hys with
  | nil => exact follows_ok_ok.2 (.cons hx .nil)
  | @cons y y' ys ys' hy hys ih =>
    obtain ⟨k, v⟩ := x
    obtain ⟨l, w⟩ := y
    obtain ⟨hk, hv⟩ := hx
    obtain ⟨hl, hw⟩ := hy
    rw [insertByKey, insertByKey]
    cases hc : less k l with
    | error f => exact follows_error _ _
    | ok c =>
      obtain ⟨_, hc', rfl⟩ := hless _ _ _ _ hk hl c hc
      rw [hc']
      cases c with
      | true => exact follows_ok_ok.2 (.cons ⟨hk, hv⟩ (.cons ⟨hl, hw⟩ hys))
      | false =>
        cases hzs : insertByKey less (k, v) ys with
        | error f => exact follows_error _ _
        | ok zs =>
          obtain ⟨zs', hzs', hrest⟩ := ih zs hzs
          simp only [hzs']
          exact follows_ok_ok.2 (.cons ⟨hl, hw⟩ hrest)

theorem follows_sortByKey {pairs pairs' : List (Value × Value)} (h : List.Forall₂ EasesBoth pairs pairs')
    (reversed : Bool) : Follows (List.Forall₂ Eases) (sortByKey pairs reversed) (sortByKey pairs' reversed) := by
  refine Follows.bind (.foldlM h (fun _ _ _ _ hdone hx => follows_insertByKey ?_ hx hdone) .nil) ?_
  · intro a a' b b' ha hb
    exact .ite (follows_relate .gt ha hb) (follows_relate .lt ha hb)
  · intro sorted sorted' hsorted
    exact follows_ok_ok.2 (forall₂_map hsorted fun _ _ ⟨_, h⟩ => h)

theorem follows_bestByKey (r : Relation) {pairs pairs' : List (Value × Value)}
    (h : List.Forall₂ EasesBoth pairs pairs') : Follows Eases (bestByKey true r pairs) (bestByKey false r pairs') := by
  cases h with
  | nil => exact follows_ok_ok.2 (undefinedOf_eases _ _)
  | cons hfirst hrest =>
    refine Follows.bind (.foldlM hrest ?_ hfirst) fun _ _ ⟨_, h⟩ => follows_ok_ok.2 h
    rintro ⟨k, v⟩ ⟨k', v'⟩ ⟨l, w⟩ ⟨l', w'⟩ ⟨hk, hv⟩ ⟨hl, hw⟩
    refine (follows_relate r hl hk).bind_eq fun c => follows_ok_ok.2 ?_
    cases c
    · exact ⟨hk, hv⟩
    · exact ⟨hl, hw⟩

theorem follows_joinValues {a a' b b' : Value} (hv : Eases v v') (ha : Eases a a') (hb : Eases b b') :
    Follows Eases (joinValues true v a b) (joinValues false v' a' b') := by
  refine ha.follows_printed.bind_eq fun sep => (follows_iterate hv).bind fun _ _ hitems => ?_
  refine Follows.bind_eq (.mapM_eq hitems fun item item' hitem => ?_) fun parts => follows_ok_ok.2 (.same _)
  exact (follows_followPath (partsOfPath_eases hb) hitem).bind fun _ _ h => h.follows_printed

theorem checkStart_eq (h : Eases v w) : checkStart v = checkStart w := by
  cases h <;> rfl

theorem follows_sumValues {a a' b b' : Value} (hv : Eases v v') (ha : Eases a a') (hb : Eases b b') :
    Follows Eases (sumValues true v a b) (sumValues false v' a' b') := by
  refine (follows_iterate hv).bind fun _ _ hitems => .bind_eq (.of_eq (checkStart_eq hb)) fun _ => .foldlM hitems ?_ hb
  intro total total' item item' htotal hitem
  exact (follows_followPath (partsOfPath_eases ha) hitem).bind fun _ _ h => follows_arith .add htotal h

/-! ### Single values -/

theorem integerOfReal_eases (x : Double) (h : Eases v w) : Eases (integerOfReal x v) (integerOfReal x w) := by
  unfold integerOfReal
  split
  · exact .same _
  · exact h

/-- What is made of the number that a text denotes, or something else where it denotes none. -/
theorem readReal_eases {a a' : Value} {g g' : Double → Value} (hg : ∀ x, Eases (g x) (g' x)) (ha : Eases a a')
    (t : Text) :
    Eases (match Text.readReal? t with | some x => g x | none => a)
      (match Text.readReal? t with | some x => g' x | none => a') := by
  cases Text.readReal? t with
  | none => exact ha
  | some x => exact hg x

theorem follows_toInteger {a a' b b' : Value} (hv : Eases v v') (ha : Eases a a') (hb : Eases b b') :
    Follows Eases (toInteger v a b) (toInteger v' a' b') := by
  have hreal := readReal_eases (fun x => integerOfReal_eases x ha) ha
  cases hv with
  | undefined => exact follows_error _ _
  | same =>
    unfold toInteger
    rw [← hb.asInteger?]
    split
    · exact follows_error _ _
    · split
      · exact follows_error _ _
      · exact follows_ok_ok.2 (integerOfReal_eases _ ha)
    · split
      · dsimp only
        split
        · exact follows_ok_ok.2 (.same _)
        · exact follows_ok_ok.2 (hreal _)
      · exact follows_ok_ok.2 (hreal _)
    · split
      · exact follows_ok_ok.2 (.same _)
      · exact follows_ok_ok.2 (hreal _)
    · split
      · exact follows_ok_ok.2 (.same _)
      · exact follows_ok_ok.2 (hreal _)
    · split
      · exact follows_ok_ok.2 (.same _)
      · exact follows_ok_ok.2 ha
  | _ => exact follows_ok_ok.2 ha

theorem follows_toReal {a a' : Value} (hv : Eases v v') (ha : Eases a a') :
    Follows Eases (toReal v a) (toReal v' a') := by
  have hreal := readReal_eases (fun x => .same (.float x)) ha
  cases hv with
  | undefined => exact follows_error _ _
  | same =>
    unfold toReal
    split
    · exact follows_error _ _
    · exact follows_ok_ok.2 (hreal _)
    · exact follows_ok_ok.2 (hreal _)
    · exact follows_ok_ok.2 (hreal _)
    · split
      · exact .refl .same _
      · exact follows_ok_ok.2 ha
  | _ => exact follows_ok_ok.2 ha

theorem follows_roundValue (hv : Eases v v') (hw : Eases w w') :
    Follows Eases (roundValue v w) (roundValue v' w') := by
  unfold roundValue
  rw [← hv.asNumber?]
  cases asNumber? v with
  | none => exact follows_error _ _
  | some n =>
    cases hw with
    | same => exact Follows.refl .same _
    | _ => exact follows_error _ _

theorem follows_roundTowards (upwards : Bool) (hv : Eases v v') (hw : Eases w w') :
    Follows Eases (roundTowards upwards v w) (roundTowards upwards v' w') := by
  refine (follows_arith .pow (.same _) hw).bind fun unit unit' hunit => ?_
  refine (follows_arith .mul hv hunit).bind fun scaled scaled' hscaled => ?_
  rw [← hscaled.asNumber?]
  cases asNumber? scaled with
  | none => exact follows_error _ _
  | some n => exact Follows.bind_eq (.eq _) fun whole => follows_arith .div (.same _) hunit

theorem follows_roundBy {a a' : Value} (hv : Eases v v') (hw : Eases w w') (ha : Eases a a') :
    Follows Eases (roundBy v w a) (roundBy v' w' a') := by
  refine (follows_checkMember ha).bind ?_
  rintro _ _ rfl
  split
  · split
    · exact follows_roundValue hv hw
    · exact follows_roundTowards true hv hw
    · exact follows_roundTowards false hv hw
    · exact follows_error _ _
  · exact follows_error _ _

theorem follows_absolute (h : Eases v w) : Follows Eases (absolute v) (absolute w) := by
  cases h with
  | same => exact .refl .same _
  | _ => exact follows_error _ _

/-- A property that is asked for by its name, which something undefined need not have. -/
theorem follows_namedProperty (h : Eases v w) (name : Text) :
    Follows Eases (namedProperty true v name) (namedProperty false w name) := by
  have hproperty := safeProperty?_getD_eases h name
  by_cases hu : ∃ u, v = .undefined u
  · obtain ⟨u, rfl⟩ := hu
    have hoffered : ∀ u' : Undefined, (Text.startsWith name "__" || hasProperty (.undefined u) name) =
        (Text.startsWith name "__" || hasProperty (.undefined u') name) := by
      intro u'
      by_cases hname : name = "__contains__"
      · subst hname
        rfl
      · rw [hasProperty_undefined hname u u']
    cases h with
    | same =>
      simp only [namedProperty]
      exact Follows.ite (follows_ok_ok.2 hproperty) (follows_error _ _)
    | undefined =>
      simp only [namedProperty, ← hoffered]
      exact Follows.ite (follows_ok_ok.2 hproperty) (follows_error _ _)
  · rw [not_exists] at hu
    rw [namedProperty.eq_2 _ _ _ hu, namedProperty.eq_2 _ _ _ (h.ne_undefined hu), ← hidesProperty_eq h]
    exact .ite (follows_error _ _) (follows_ok_ok.2 hproperty)

theorem follows_orDefault {a a' b b' : Value} (hv : Eases v v') (ha : Eases a a') (hb : Eases b b') :
    Follows Eases (orDefault v a b) (orDefault v' a' b') := by
  by_cases hu : ∃ u, v = .undefined u
  · obtain ⟨u, rfl⟩ := hu
    cases hv <;> exact follows_ok_ok.2 ha
  · rw [not_exists] at hu
    rw [orDefault.eq_2 _ _ _ hu, orDefault.eq_2 _ _ _ (hv.ne_undefined hu)]
    refine (follows_truth hb).bind_eq fun strictly => .ite ?_ (follows_ok_ok.2 hv)
    refine (follows_truth hv).bind_eq fun c => follows_ok_ok.2 ?_
    cases c
    · exact ha
    · exact hv

theorem follows_replaceCount (h : Eases v w) : Follows Eq (replaceCount v) (replaceCount w) := by
  cases h with
  | same => exact .eq _
  | _ => exact follows_error _ _

theorem follows_replaceParts {a a' b b' c c' : Value} (hv : Eases v v') (ha : Eases a a') (hb : Eases b b')
    (hc : Eases c c') : Follows Eases (replaceParts v a b c) (replaceParts v' a' b' c') :=
  hv.follows_printed.bind_eq fun _ => ha.follows_printed.bind_eq fun _ => hb.follows_printed.bind_eq fun _ =>
    (follows_replaceCount hc).bind_eq fun _ => follows_ok_ok.2 (.same _)

/-! ### Bound values -/

section Bound
variable {vs vs' : List Value} {r r' : Except Fault Value}

/-- Two bound values, or what comes of any other number of them. -/
theorem follows_two {f g : Value → Value → Except Fault Value}
    (htwo : ∀ {a a' b b'}, Eases a a' → Eases b b' → Follows Eases (f a b) (g a' b')) (hother : Follows Eases r r') :
    List.Forall₂ Eases vs vs' →
      Follows Eases (match vs with | [a, b] => f a b | _ => r) (match vs' with | [a, b] => g a b | _ => r') := by
  rintro (_ | ⟨ha, _ | ⟨hb, _ | _⟩⟩)
  case cons.cons.nil => exact htwo ha hb
  all_goals exact hother

/-- Three bound values, or what comes of any other number of them. -/
theorem follows_three {f g : Value → Value → Value → Except Fault Value}
    (hthree : ∀ {a a' b b' c c'}, Eases a a' → Eases b b' → Eases c c' → Follows Eases (f a b c) (g a' b' c'))
    (hother : Follows Eases r r') :
    List.Forall₂ Eases vs vs' →
      Follows Eases (match vs with | [a, b, c] => f a b c | _ => r)
        (match vs' with | [a, b, c] => g a b c | _ => r') := by
  rintro (_ | ⟨ha, _ | ⟨hb, _ | ⟨hc, _ | _⟩⟩⟩)
  case cons.cons.cons.nil => exact hthree ha hb hc
  all_goals exact hother

/-- Four bound values, or what comes of any other number of them. -/
theorem follows_four {f g : Value → Value → Value → Value → Except Fault Value}
    (hfour : ∀ {a a' b b' c c' d d'}, Eases a a' → Eases b b' → Eases c c' → Eases d d' →
      Follows Eases (f a b c d) (g a' b' c' d'))
    (hother : Follows Eases r r') :
    List.Forall₂ Eases vs vs' →
      Follows Eases (match vs with | [a, b, c, d] => f a b c d | _ => r)
        (match vs' with | [a, b, c, d] => g a b c d | _ => r') := by
  rintro (_ | ⟨ha, _ | ⟨hb, _ | ⟨hc, _ | ⟨hd, _ | _⟩⟩⟩⟩)
  case cons.cons.cons.cons.nil => exact hfour ha hb hc hd
  all_goals exact hother

end Bound

/-! ### Filters -/

/-- Members whose keys may all be looked up have the same keys under both policies. -/
theorem follows_checkEach {pairs pairs' : List (Value × Value)} (h : List.Forall₂ EasesBoth pairs pairs') :
    Follows (fun _ _ => List.Forall₂ EasesUnder pairs pairs') (pairs.forM fun x => checkKey x.1)
      (pairs'.forM fun x => checkKey x.1) := by
  induction h with
  | nil => exact follows_ok_ok.2 .nil
  | @cons x x' _ _ hx _ ih =>
    obtain ⟨k, v⟩ := x
    obtain ⟨hk, hv⟩ := hx
    refine (finds_checkKey hk).follows.bind ?_
    rintro _ _ rfl
    exact ih.mono fun _ _ hrest => .cons ⟨rfl, hv⟩ hrest

/-- The members whose keys come first. -/
theorem firstOfEachKey_eases {pairs pairs' kept kept' : List (Value × Value)}
    (h : List.Forall₂ EasesUnder pairs pairs') (hkept : List.Forall₂ EasesUnder kept kept') :
    List.Forall₂ EasesUnder
      (pairs.foldl (fun kept x => if Value.among x.1 (kept.map (·.1)) then kept else x :: kept) kept)
      (pairs'.foldl (fun kept x => if Value.among x.1 (kept.map (·.1)) then kept else x :: kept) kept') := by
  induction h generalizing kept kept' with
  | nil => exact hkept
  | cons hx _ ih =>
    rw [List.foldl_cons, List.foldl_cons]
    apply ih
    rw [EasesUnder.key hx, Value.forall₂_easesUnder_keys hkept]
    split
    · exact hkept
    · exact .cons hx hkept

/-- Arguments by name as the entries of a mapping. -/
theorem byName_eases (h : List.Forall₂ EasesUnder named named') :
    List.Forall₂ EasesUnder (named.map fun (k, v) => (Value.text k, v))
      (named'.map fun (k, v) => (Value.text k, v)) :=
  forall₂_map h fun _ _ ⟨hk, hv⟩ => ⟨congrArg Value.text hk, hv⟩

theorem follows_applyFilter (name : Text) (hv : Eases v v') (hargs : List.Forall₂ Eases args args')
    (hnamed : List.Forall₂ EasesUnder named named') :
    Follows Eases (applyFilter true name v args named) (applyFilter false name v' args' named') := by
  have hall := List.Forall₂.cons hv hargs
  have hbind : ∀ s : Signature, Follows (List.Forall₂ Eases) (s.bind (v :: args) named) (s.bind (v' :: args') named') :=
    fun s => follows_signature s hall hnamed
  have htext : ∀ (s : Signature) (f : Text → Value), Follows Eases
      (do let _ ← s.bind (v :: args) named; return f (← printed v))
      (do let _ ← s.bind (v' :: args') named'; return f (← printed v')) :=
    fun s f => (hbind s).bind fun _ _ _ => hv.follows_printed.bind_eq fun _ => follows_ok_ok.2 (.same _)
  have hself : Follows Eases (.ok v : Except Fault Value) (.ok v') := follows_ok_ok.2 hv
  unfold applyFilter
  dsimp only
  split
  case h_1 | h_2 | h_3 | h_4 | h_5 | h_6 | h_7 | h_8 | h_9 => exact htext _ _
  case h_10 => exact htext _ fun t => .int (wordCount t : Nat)
  -- trim
  case h_11 =>
    refine (hbind _).bind fun _ _ h => hv.follows_printed.bind_eq fun t => ?_
    rcases h with _ | ⟨-, _ | ⟨h, _ | _⟩⟩
    case cons.cons.nil a _ b _ =>
      cases h with
      | same =>
        cases b with
        | null | text => exact follows_ok_ok.2 (.same _)
        | _ => exact follows_error _ _
      | _ => exact follows_error _ _
    all_goals first
      | exact follows_error _ _
      | (split <;> first | exact follows_error _ _ | (next h => cases h))
  -- length and count
  case h_12 | h_13 =>
    refine (follows_exactlyOne _ hall hnamed).bind fun _ _ h => ?_
    exact (follows_length h).bind_eq fun n => follows_ok_ok.2 (.same _)
  -- default
  case h_14 | h_15 => exact (hbind _).bind fun _ _ => follows_three follows_orDefault hself
  -- join
  case h_16 => exact (hbind _).bind fun _ _ => follows_three follows_joinValues hself
  -- first and last
  case h_17 =>
    refine (hbind _).bind fun _ _ _ => (follows_iterate hv).bind fun _ _ h => follows_ok_ok.2 ?_
    exact optionRel_getD (forall₂_head? h) (undefinedOf_eases _ _)
  case h_18 =>
    refine (hbind _).bind fun _ _ _ => (follows_iterateReversed hv).bind fun _ _ h => follows_ok_ok.2 ?_
    exact optionRel_getD (forall₂_head? h) (undefinedOf_eases _ _)
  -- replace
  case h_19 => exact (hbind _).bind fun _ _ => follows_four follows_replaceParts hself
  -- abs
  case h_20 => exact (follows_exactlyOne _ hall hnamed).bind fun _ _ h => follows_absolute h
  -- int and float
  case h_21 => exact (hbind _).bind fun _ _ => follows_three follows_toInteger hself
  case h_22 => exact (hbind _).bind fun _ _ => follows_two follows_toReal hself
  -- list and reverse
  case h_23 => exact (hbind _).bind fun _ _ _ => (follows_iterate hv).bind fun _ _ h => follows_ok_ok.2 (.list h)
  case h_24 =>
    refine (hbind _).bind fun _ _ _ => ?_
    have hreversed := (follows_iterate hv).bind fun _ _ h => follows_ok_ok.2 (Eases.list (List.rel_reverse h))
    cases hv with
    | same =>
      cases v with
      | text t => exact follows_ok_ok.2 (.same _)
      | _ => exact hreversed
    | _ => exact hreversed
  -- round
  case h_25 => exact (hbind _).bind fun _ _ => follows_three follows_roundBy hself
  -- sum
  case h_26 => exact (hbind _).bind fun _ _ => follows_three follows_sumValues hself
  -- min and max
  case h_27 | h_28 =>
    refine (hbind _).bind fun _ _ => follows_three (fun ha hb hc => ?_) hself
    exact (follows_keyed ha hb hc).bind fun _ _ h => follows_bestByKey _ h
  -- sort
  case h_29 =>
    refine (hbind _).bind fun _ _ => follows_four (fun ha hb hc hd => ?_) hself
    refine (follows_keyed ha hc hd).bind fun _ _ h => (follows_truth hb).bind_eq fun reversed => ?_
    exact (follows_sortByKey h reversed).bind fun _ _ h => follows_ok_ok.2 (.list h)
  -- unique
  case h_30 =>
    refine (hbind _).bind fun _ _ => follows_three (fun ha hb hc => ?_) hself
    refine (follows_keyed ha hb hc).bind fun _ _ h => (follows_checkEach h).bind fun _ _ h => follows_ok_ok.2 ?_
    exact .list (forall₂_map (List.rel_reverse (firstOfEachKey_eases h .nil)) fun _ _ => EasesUnder.value)
  -- items
  case h_31 =>
    refine (hbind _).bind fun _ _ _ => ?_
    cases hv with
    | same => exact .refl .same _
    | undefined => exact follows_ok_ok.2 (.same _)
    | mapping h => exact follows_ok_ok.2 (.list (forall₂_map h fun _ _ ⟨hk, hw⟩ => .tuple (.cons (hk ▸ .same _) (.cons hw .nil))))
    | _ => exact follows_error _ _
  -- center
  case h_32 =>
    refine (hbind _).bind fun _ _ => follows_two (fun ha hb => ?_) hself
    exact ha.follows_printed.bind_eq fun t => (follows_sizeArgument hb).bind_eq fun n => follows_ok_ok.2 (.same _)
  -- attr
  case h_33 =>
    refine (hbind _).bind fun _ _ h => ?_
    rcases h with _ | ⟨ha, _ | ⟨hb, _ | _⟩⟩
    case cons.cons.nil a _ b _ =>
      cases hb with
      | same =>
        cases b with
        | text property => exact follows_namedProperty ha property
        | _ => exact follows_error _ _
      | _ => exact follows_error _ _
    all_goals first
      | exact follows_error _ _
      | (split <;> first | exact follows_error _ _ | (next h => cases h))
  -- format
  case h_34 =>
    have hgiven : Eases
        (if named.isEmpty then .tuple args else .mapping (named.map fun (k, v) => (.text k, v)))
        (if named.isEmpty then .tuple args' else .mapping (named'.map fun (k, v) => (.text k, v))) := by
      split
      · exact .tuple hargs
      · exact .mapping (byName_eases hnamed)
    rw [← forall₂_isEmpty hargs, ← forall₂_isEmpty hnamed]
    refine .ite (follows_error _ _) (hv.follows_printed.bind_eq fun t => ?_)
    exact (Format.follows_apply t hgiven).bind_eq fun t => follows_ok_ok.2 (.same _)
  case h_35 => exact follows_error _ _

/-! ### Tests -/

theorem follows_isNameAmong (h : Eases v w) (names : List Text) :
    Follows Eq (isNameAmong v names) (isNameAmong w names) := by
  have hself := h
  cases h with
  | same => exact .eq _
  | undefined h => simp [isNameAmong, h]
  | _ => exact (finds_checkKey hself).follows.bind fun _ _ _ => .eq _

theorem follows_isIterable (h : Eases v w) : Follows Eq (isIterable v) (isIterable w) := by
  cases h with
  | undefined h => simp [isIterable, iterate, h]
  | same | record | method => exact .eq _
  | _ => exact follows_ok_ok.2 rfl

theorem isSameValue_eq (hv : Eases v v') (hw : Eases w w') : isSameValue v w = isSameValue v' w' := by
  cases hv with
  | same =>
    cases hw with
    | same => rfl
    | _ => cases v <;> rfl
  | _ => rfl

/-- Every test but one answers alike under both policies. -/
theorem follows_applyTest {name : Text} (hname : name.toStringLossy ≠ "sequence") (hv : Eases v v')
    (hargs : List.Forall₂ Eases args args') (hnamed : List.Forall₂ EasesUnder named named') :
    Follows Eases (applyTest name v args named) (applyTest name v' args' named') := by
  have hall := List.Forall₂.cons hv hargs
  have hbind : ∀ s : Signature, Follows (List.Forall₂ Eases) (s.bind (v :: args) named) (s.bind (v' :: args') named') :=
    fun s => follows_signature s hall hnamed
  have hsingle : ∀ s : Signature, Follows (fun _ _ => True)
      (do let _ ← s.bind (v :: args) named) (do let _ ← s.bind (v' :: args') named') :=
    fun s => (hbind s).bind fun _ _ _ => follows_ok_ok.2 trivial
  have habout : ∀ (s : Signature) {b b' : Bool}, b = b' → Follows Eases
      (do
        let _ ← (do let _ ← s.bind (v :: args) named)
        return .bool b)
      (do
        let _ ← (do let _ ← s.bind (v' :: args') named')
        return .bool b') :=
    fun s b b' h => (hsingle s).bind fun _ _ _ => follows_ok_ok.2 (h ▸ .same _)
  have hdivisible : ∀ {n n' : Value} (r : Int), Eases n n' → Follows Eases
      (do return .bool (← equalValues (← arith .mod v n) (.int r)))
      (do return .bool (← equalValues (← arith .mod v' n') (.int r))) :=
    fun r hn => (follows_arith .mod hv hn).bind fun _ _ hm =>
      (follows_equalValues hm (.same _)).bind_eq fun c => follows_ok_ok.2 (.same _)
  unfold applyTest
  dsimp only
  split
  · rw [← forall₂_isEmpty hnamed]
    refine .ite (follows_error _ _) ?_
    rcases hargs with _ | ⟨h, _ | _⟩
    case cons.nil => exact (follows_relate _ hv h).bind_eq fun c => follows_ok_ok.2 (.same _)
    all_goals exact follows_error _ _
  split
  case h_1 | h_2 => exact (hsingle _).bind fun _ _ _ => hdivisible _ (.same _)
  case h_3 => exact (hbind _).bind fun _ _ => follows_two (fun _ hn => hdivisible 0 hn) (follows_ok_ok.2 (.same _))
  case h_4 | h_5 | h_8 | h_9 | h_10 | h_11 | h_12 | h_13 | h_16 | h_17 | h_23 => exact habout _ (by cases hv <;> rfl)
  case h_6 | h_7 =>
    refine (hsingle _).bind fun _ _ _ => (follows_isNameAmong hv _).bind_eq fun c => follows_ok_ok.2 (.same _)
  case h_14 | h_15 =>
    refine (hsingle _).bind fun _ _ _ => hv.follows_printed.bind_eq fun t => follows_ok_ok.2 (.same _)
  case h_18 => exact habout _ (by cases hv <;> rfl)
  case h_19 => exact absurd ‹_› hname
  case h_20 =>
    exact (hsingle _).bind fun _ _ _ => (follows_isIterable hv).bind_eq fun c => follows_ok_ok.2 (.same _)
  case h_21 =>
    refine (follows_exactlyOne _ hall hnamed).bind fun _ _ _ => follows_ok_ok.2 ?_
    cases hv <;> exact .same _
  case h_22 =>
    refine (hbind _).bind fun _ _ => follows_two (fun ha hb => ?_) (follows_ok_ok.2 (.same _))
    exact follows_ok_ok.2 (isSameValue_eq ha hb ▸ .same _)
  case h_24 =>
    refine (hbind _).bind fun _ _ => follows_two (fun ha hb => ?_) (follows_ok_ok.2 (.same _))
    exact (follows_isMember ha hb).bind_eq fun c => follows_ok_ok.2 (.same _)

end Rulebook.Template
