import Rulebook.Proofs.Leniency.Operation
import Rulebook.Proofs.Template.Property

/-!
# Parts of values that differ in what is undefined

Items, slices and properties. What is undefined has only properties that are not handed out: they are undefined in turn.
-/

namespace Rulebook.Template
open Value (Eases forall₂_eases_refl)

variable {v v' w w' : Value}

/-- Something undefined under the strict policy, and under the other. -/
theorem undefinedOf_eases (message message' : Text) : Eases (undefinedOf true message) (undefinedOf false message') :=
  .undefined rfl

theorem missingProperty_eases (v w : Value) (name : Text) :
    Eases (missingProperty true v name) (missingProperty false w name) :=
  undefinedOf_eases _ _

/-! ### Items and slices -/

theorem finds_itemAt {α β : Type} {R : α → β → Prop} {xs : List α} {ys : List β} (h : List.Forall₂ R xs ys) (i : Int)
    (kind : Text) : Finds R (itemAt xs i kind) (itemAt ys i kind) := by
  unfold itemAt
  rw [← h.length_eq]
  cases placeIn xs.length i with
  | none => exact .missing rfl
  | some n =>
    have hn := forall₂_getElem? h n
    simp only [Option.bind_some]
    generalize xs[n]? = o at hn ⊢
    generalize ys[n]? = o' at hn ⊢
    cases hn with
    | none => exact .missing rfl
    | some h => exact .ok h

theorem finds_lookup {entries entries' : List (Value × Value)} (h : List.Forall₂ EasesUnder entries entries')
    (hw : Eases w w') : Finds Eases (subscript (.mapping entries) w) (subscript (.mapping entries') w') := by
  refine (finds_checkKey hw).bind ?_
  rintro _ _ rfl
  have hrel := Eases.lookup h w'
  generalize Value.lookup w' entries = o at hrel ⊢
  generalize Value.lookup w' entries' = o' at hrel ⊢
  cases hrel with
  | none => exact .missing rfl
  | some h => exact .ok h

theorem finds_place (hw : Eases w w') (kind : Text) : Finds Eq
    (match w.asInteger? with
      | some i => .ok i
      | none => .error (Fault.wrongType (kind ++ " indices must be integers or slices, not " ++ w.operandName)))
    (match w'.asInteger? with
      | some i => .ok i
      | none => .error (Fault.wrongType (kind ++ " indices must be integers or slices, not " ++ w'.operandName))) := by
  rw [← hw.asInteger?]
  split
  · exact .ok rfl
  · exact .missing rfl

theorem finds_subscript (hv : Eases v v') (hw : Eases w w') : Finds Eases (subscript v w) (subscript v' w') := by
  cases hv with
  | undefined => exact .failed (isAbsence_undefined _) _
  | list h | tuple h => exact (finds_place hw _).bind_eq fun i => finds_itemAt h i _
  | mapping h => exact finds_lookup h hw
  | view | method => exact .missing rfl
  | record => exact .same_error _
  | same =>
    cases v with
    | undefined u => exact .refl .same _
    | mapping entries => exact finds_lookup (Value.forall₂_easesUnder_refl entries) hw
    | list items | tuple items | range a b s =>
      exact (finds_place hw _).bind_eq fun i => finds_itemAt (forall₂_eases_refl _) i _
    | text | bytes | byteArray =>
      exact (finds_place hw _).bind_eq fun i => .bind_eq (.eq _) fun _ => .ok (.same _)
    | function | record => exact .refl .same _
    | _ => exact .missing rfl

/-- What is undefined is no bound, whether strictly or not. -/
theorem sliceBound_eq (h : Eases v w) : sliceBound v = sliceBound w := by
  cases h <;> rfl

theorem finds_sliceItems {α β : Type} {R : α → β → Prop} {xs : List α} {ys : List β} (h : List.Forall₂ R xs ys)
    (start stop step : Option Int) :
    Finds (List.Forall₂ R) (sliceItems xs start stop step) (sliceItems ys start stop step) := by
  unfold sliceItems
  rw [← h.length_eq]
  refine .bind_eq (.eq _) fun places => .ok ?_
  simp only [List.getElem?_toArray]
  refine List.rel_filterMap (R := Eq) ?_ (List.forall₂_eq_eq_eq ▸ rfl)
  rintro i _ rfl
  exact forall₂_getElem? h i

theorem finds_sliceValue {a a' b b' c c' : Value} (hv : Eases v v') (ha : Eases a a') (hb : Eases b b')
    (hc : Eases c c') : Finds Eases (sliceValue v a b c) (sliceValue v' a' b' c') := by
  unfold sliceValue
  rw [← sliceBound_eq ha, ← sliceBound_eq hb, ← sliceBound_eq hc]
  cases hv with
  | same => exact .refl .same _
  | undefined => exact .failed (isAbsence_undefined _) _
  | list h =>
    refine .bind_eq (.eq _) fun start => .bind_eq (.eq _) fun stop => .bind_eq (.eq _) fun step => ?_
    exact (finds_sliceItems h start stop step).bind fun _ _ h => .ok (.list h)
  | tuple h =>
    refine .bind_eq (.eq _) fun start => .bind_eq (.eq _) fun stop => .bind_eq (.eq _) fun step => ?_
    exact (finds_sliceItems h start stop step).bind fun _ _ h => .ok (.tuple h)
  | view | record | method | mapping => exact .missing rfl

/-! ### Properties -/

theorem isSafeProperty_of_hasProperty {u : Undefined} {name : Text}
    (h : hasProperty (.undefined u) name = true) : isSafeProperty (.undefined u) name = false := by
  simp [isSafeProperty, head?_of_hasProperty_undefined h]

theorem safeProperty?_undefined (strict : Bool) (u : Undefined) (name : Text) :
    safeProperty? strict (.undefined u) name =
      if hasProperty (.undefined u) name then some (forbiddenProperty strict (.undefined u) name) else none := by
  unfold safeProperty?
  dsimp only
  split
  · next h => rw [isSafeProperty_of_hasProperty h, if_neg Bool.false_ne_true]
  · rfl

/-- Only strictly undefined values know the name of the membership test. -/
theorem hasProperty_undefined {name : Text} (hname : name ≠ "__contains__") (u w : Undefined) :
    hasProperty (.undefined u) name = hasProperty (.undefined w) name := by
  have hskip : (("__contains__" : Text) :: undefinedProperties).any (Text.same name) =
      undefinedProperties.any (Text.same name) := by
    rw [Bool.eq_iff_iff, Text.any_same_iff, Text.any_same_iff, List.mem_cons, or_iff_right hname]
  have hown : ∀ u : Undefined, (ownProperties (.undefined u)).any (Text.same name) =
      undefinedProperties.any (Text.same name) := by
    intro u
    rw [ownProperties]
    split
    · exact hskip
    · rfl
  simp only [hasProperty, hown]

theorem propertyValue_eases (h : Eases v w) (hv : ∀ u, v ≠ .undefined u) (name : Text) :
    Eases (propertyValue v name) (propertyValue w name) := by
  have hmethod : Eases (.method v name) (.method w name) := .method h (h.typeName hv) name
  cases h with
  | same => exact .same _
  | undefined => exact absurd rfl (hv _)
  | record typeName shown h =>
    have hname : ∀ f g : Text × Value, EasesUnder f g → Text.same f.1 name = Text.same g.1 name :=
      fun _ _ hf => by rw [EasesUnder.key hf]
    have hfound := optionRel_map (forall₂_find? h hname) fun _ _ => EasesUnder.value
    exact optionRel_getD hfound hmethod
  | _ => exact hmethod

theorem ownProperties_eq (h : Eases v w) (hv : ∀ u, v ≠ .undefined u) : ownProperties v = ownProperties w := by
  cases h with
  | undefined => exact absurd rfl (hv _)
  | record typeName shown h => exact Value.forall₂_easesUnder_keys h
  | _ => rfl

theorem isSafeProperty_eq (h : Eases v w) (name : Text) : isSafeProperty v name = isSafeProperty w name := by
  cases h <;> rfl

theorem safeProperty?_rel_of_defined (h : Eases v w) (hv : ∀ u, v ≠ .undefined u) (name : Text) :
    Option.Rel Eases (safeProperty? true v name) (safeProperty? false w name) := by
  have hvalue : Eases
      (if isSafeProperty v name then propertyValue v name else forbiddenProperty true v name)
      (if isSafeProperty w name then propertyValue w name else forbiddenProperty false w name) := by
    rw [← isSafeProperty_eq h]
    split
    · exact propertyValue_eases h hv name
    · exact .undefined rfl
  have hhas : hasProperty v name = hasProperty w name := by simp only [hasProperty, ownProperties_eq h hv]
  have hknown : ∀ {known : Bool}, Option.Rel Eases
      (if known then
        some (if isSafeProperty v name then propertyValue v name else forbiddenProperty true v name) else none)
      (if known then
        some (if isSafeProperty w name then propertyValue w name else forbiddenProperty false w name) else none) := by
    intro known
    split
    · exact .some hvalue
    · exact .none
  unfold safeProperty?
  rw [← hhas]
  cases h with
  | undefined => exact absurd rfl (hv _)
  | _ => exact hknown

/-- Under both policies a property that must exist is the same, or there is none. -/
theorem safeProperty?_rel (h : Eases v w) {name : Text} (hname : name ≠ "__contains__") :
    Option.Rel Eases (safeProperty? true v name) (safeProperty? false w name) := by
  by_cases hv : ∃ u, v = .undefined u
  · obtain ⟨u, rfl⟩ := hv
    have hundefined : ∀ u', Option.Rel Eases (safeProperty? true (.undefined u) name)
        (safeProperty? false (.undefined u') name) := by
      intro u'
      rw [safeProperty?_undefined, safeProperty?_undefined, hasProperty_undefined hname u u']
      split
      · exact .some (.undefined rfl)
      · exact .none
    cases h <;> exact hundefined _
  · rw [not_exists] at hv
    exact safeProperty?_rel_of_defined h hv name

/-- A property that may be missing. -/
theorem safeProperty?_getD_eases (h : Eases v w) (name : Text) :
    Eases ((safeProperty? true v name).getD (missingProperty true v name))
      ((safeProperty? false w name).getD (missingProperty false w name)) := by
  by_cases hv : ∃ u, v = .undefined u
  · obtain ⟨u, rfl⟩ := hv
    have hundefined : ∀ u', Eases
        ((safeProperty? true (.undefined u) name).getD (missingProperty true (.undefined u) name))
        ((safeProperty? false (.undefined u') name).getD (missingProperty false (.undefined u') name)) := by
      intro u'
      rw [safeProperty?_undefined, safeProperty?_undefined]
      split <;> split <;> exact .undefined rfl
    cases h <;> exact hundefined _
  · rw [not_exists] at hv
    exact optionRel_getD (safeProperty?_rel_of_defined h hv name) (missingProperty_eases v w name)

/-- The same properties are left out under both policies. -/
theorem hidesProperty_eq (h : Eases v w) (name : Text) : hidesProperty v name = hidesProperty w name := by
  cases h with
  | record typeName shown h =>
    have hkeys := congrArg (List.any · fun k => Text.same k name) (Value.forall₂_easesUnder_keys h)
    simp only [List.any_map, Function.comp_def] at hkeys
    simp only [hidesProperty, hkeys]
  | _ => rfl

theorem follows_getProperty (h : Eases v w) {name : Text} (hname : name ≠ "__contains__") :
    Follows Eases (getProperty true v name) (getProperty false w name) := by
  have hrel := safeProperty?_rel h hname
  unfold getProperty
  rw [← hidesProperty_eq h]
  refine .ite (follows_error _ _) ?_
  generalize safeProperty? true v name = o at hrel ⊢
  generalize safeProperty? false w name = o' at hrel ⊢
  cases hrel with
  | some h => exact follows_ok_ok.2 h
  | none =>
    refine (finds_subscript h (.same (.text name))).elim ?_ ?_ ?_
    · intro a b ha hb hab
      simpa only [ha, hb] using follows_ok_ok.2 hab
    · intro f g hf hg hf_absent hg_absent
      simpa only [hf, hg, hf_absent, hg_absent, if_true] using follows_ok_ok.2 (missingProperty_eases v w name)
    · intro f hf hf_absent
      simp [hf, hf_absent]

theorem follows_getItem (hv : Eases v v') (hw : Eases w w') :
    Follows Eases (getItem true v w) (getItem false v' w') := by
  unfold getItem
  refine (finds_subscript hv hw).elim ?_ ?_ ?_
  · intro a b ha hb hab
    simpa only [ha, hb] using follows_ok_ok.2 hab
  · intro f g hf hg hf_absent hg_absent
    simp only [hf, hg, hf_absent, hg_absent, if_true]
    cases w with
    | text name =>
      cases hw
      dsimp only
      rw [← hidesProperty_eq hv]
      exact .ite (follows_error _ _) (follows_ok_ok.2 (safeProperty?_getD_eases hv name))
    | _ => cases hw <;> exact follows_ok_ok.2 (undefinedOf_eases _ _)
  · intro f hf hf_absent
    simp [hf, hf_absent]

end Rulebook.Template
