import Rulebook.Proofs.Leniency.Value

/-!
# Equality of values that differ in what is undefined

A comparison fails where it meets something strictly undefined. What it does not meet makes no difference to it.
-/

namespace Rulebook
open Template

namespace Value

/-- The value has parts, or belongs to a value, that may be undefined. -/
def isNested : Value → Bool
  | .list _ => true
  | .tuple _ => true
  | .view .. => true
  | .mapping _ => true
  | .record .. => true
  | .method .. => true
  | _ => false

theorem asInteger?_of_isNested {v : Value} (h : v.isNested = true) : v.asInteger? = none := by
  cases v <;> first | rfl | cases h

theorem equalReals_of_isNested {v w : Value} (h : v.isNested = true ∨ w.isNested = true) : equalReals v w = false := by
  unfold equalReals
  split
  · simp [isNested] at h
  · simp only [isNested, Bool.false_eq_true, false_or] at h
    rw [asInteger?_of_isNested h]
  · simp only [isNested, Bool.false_eq_true, or_false] at h
    rw [asInteger?_of_isNested h]
  · rcases h with h | h
    · rw [asInteger?_of_isNested h]
    · rw [asInteger?_of_isNested h]
      cases asInteger? _ <;> rfl

theorem equalNumbers_of_isNested {v w : Value} (h : v.isNested = true ∨ w.isNested = true) :
    equalNumbers v w = false := by
  unfold equalNumbers
  split
  · simp [isNested] at h
  · rw [equalReals_of_isNested (h.imp_left nofun), Bool.and_false]
  · rw [equalReals_of_isNested (h.imp_right nofun), Bool.and_false]
  · exact equalReals_of_isNested h

theorem equal_of_isNested {v w : Value} (h : v.isNested = true ∨ w.isNested = true) (hne : v.ctorIdx ≠ w.ctorIdx) :
    v.equal w = false := by
  unfold equal
  split
  case h_25 => exact equalNumbers_of_isNested h
  all_goals first | exact absurd rfl hne | simp [isNested] at h

namespace Eases
variable {v w : Value}

theorem ctorIdx (h : Eases v w) : v.ctorIdx = w.ctorIdx := by
  cases h <;> rfl

theorem isNested (h : Eases v w) : v.isNested = w.isNested := by
  cases h <;> rfl

/-- A value that is neither undefined nor has parts is the same under both policies. -/
theorem eq_of_not_isNested (h : Eases v w) (hv : v.isNested = false) (hu : ∀ u, v ≠ .undefined u) : w = v := by
  cases h with
  | same => rfl
  | undefined => exact absurd rfl (hu _)
  | _ => cases hv

theorem ne_undefined (h : Eases v w) (hu : ∀ u, v ≠ .undefined u) : ∀ u, w ≠ .undefined u := by
  rintro u rfl
  cases h with
  | same => exact hu u rfl
  | undefined => exact hu _ rfl

end Eases

end Value

namespace Template

theorem equalityIsLeftOut_eases {a a' b b' : Value} (ha : Value.Eases a a') (hb : Value.Eases b b') :
    equalityIsLeftOut a b = equalityIsLeftOut a' b' := by
  cases ha with
  | same =>
    cases hb with
    | same => rfl
    | _ => cases a <;> rfl
  | _ => cases hb <;> first | rfl | (cases b <;> rfl)

theorem equalValues_of_isNested {a b : Value} (h : a.isNested = true ∨ b.isNested = true) (hab : a.ctorIdx ≠ b.ctorIdx)
    (ha : ∀ u, a ≠ .undefined u) (hb : ∀ u, b ≠ .undefined u) :
    equalValues a b = if equalityIsLeftOut a b then .error (equalityFault a b) else .ok false := by
  unfold equalValues
  split
  case h_8 => rw [Value.equal_of_isNested h hab]
  all_goals first | exact absurd rfl hab | exact absurd rfl (ha _) | exact absurd rfl (hb _)

theorem equalValues_undefined_left (u : Undefined) {b : Value} (hb : ∀ w, b ≠ .undefined w) :
    equalValues (.undefined u) b = if u.strict then .error u.fault else .ok false := by
  cases b with
  | undefined w => exact absurd rfl (hb w)
  | _ => rfl

theorem equalValues_undefined_right {a : Value} (w : Undefined) (ha : ∀ u, a ≠ .undefined u) :
    equalValues a (.undefined w) = if w.strict then .error w.fault else .ok false := by
  cases a with
  | undefined u => exact absurd rfl (ha u)
  | _ => rfl

/-- Something strictly undefined is equal to nothing: the comparison fails. -/
theorem follows_equalValues_strict {u : Undefined} (hu : u.strict = true) (b : Value) (y : Except Fault Bool) :
    Follows Eq (equalValues (.undefined u) b) y ∧ Follows Eq (equalValues b (.undefined u)) y := by
  cases b with
  | undefined w => by_cases hw : w.strict = true <;> simp [equalValues, hu, hw]
  | _ => simp [equalValues, hu]

theorem equalValues_record (a b s t : Text) (es fs : List (Text × Value)) :
    equalValues (.record a s es) (.record b t fs) =
      if Text.same a b then .error (equalityFault (.record a s es) (.record b t fs)) else .ok false := by
  simp only [equalValues, equalityIsLeftOut, Value.equal]
  rw [Value.equalNumbers_of_isNested (.inl rfl)]

section
variable {a a' b b' : Value} (ha : Value.Eases a a') (hb : Value.Eases b b')
include ha hb

/-- Something undefined is compared without a look at what it is compared with. -/
theorem follows_equalValues_undefined (h : (∃ u, a = .undefined u) ∨ ∃ w, b = .undefined w) :
    Follows Eq (equalValues a b) (equalValues a' b') := by
  by_cases hw : ∃ w, b = .undefined w
  · obtain ⟨w, rfl⟩ := hw
    cases hb with
    | undefined hw => exact (follows_equalValues_strict hw a _).2
    | same =>
      by_cases hu : ∃ u, a = .undefined u
      · obtain ⟨u, rfl⟩ := hu
        cases ha with
        | undefined hu => exact (follows_equalValues_strict hu _ _).1
        | same => exact .eq _
      · rw [not_exists] at hu
        rw [equalValues_undefined_right w hu, equalValues_undefined_right w (ha.ne_undefined hu)]
        exact .eq _
  · obtain ⟨u, rfl⟩ := h.resolve_right hw
    rw [not_exists] at hw
    cases ha with
    | undefined hu => exact (follows_equalValues_strict hu b _).1
    | same =>
      rw [equalValues_undefined_left u hw, equalValues_undefined_left u (hb.ne_undefined hw)]
      exact .eq _

section
variable (hu : ∀ u, a ≠ .undefined u) (hw : ∀ w, b ≠ .undefined w)
include hu hw

/-- Values of two kinds, one of them nested, are not equal, unless their equality is left out. -/
theorem follows_equalValues_of_ctorIdx_ne (hnested : a.isNested = true ∨ b.isNested = true)
    (hkind : a.ctorIdx ≠ b.ctorIdx) : Follows Eq (equalValues a b) (equalValues a' b') := by
  have hnested' := hnested
  have hkind' := hkind
  rw [ha.isNested, hb.isNested] at hnested'
  rw [ha.ctorIdx, hb.ctorIdx] at hkind'
  rw [equalValues_of_isNested hnested hkind hu hw,
    equalValues_of_isNested hnested' hkind' (ha.ne_undefined hu) (hb.ne_undefined hw), equalityIsLeftOut_eases ha hb]
  exact .ite (follows_error _ _) (.eq _)

theorem follows_equalValues_of_not_isNested (hnested : ¬(a.isNested = true ∨ b.isNested = true)) :
    Follows Eq (equalValues a b) (equalValues a' b') := by
  rw [not_or, Bool.not_eq_true, Bool.not_eq_true] at hnested
  rw [ha.eq_of_not_isNested hnested.1 hu, hb.eq_of_not_isNested hnested.2 hw]
  exact .eq _

end

end

mutual

theorem follows_equalValues {a a' b b' : Value} (ha : Value.Eases a a') (hb : Value.Eases b b') :
    Follows Eq (equalValues a b) (equalValues a' b') := by
  by_cases hundefined : (∃ u, a = .undefined u) ∨ ∃ w, b = .undefined w
  · exact follows_equalValues_undefined ha hb hundefined
  rw [not_or, not_exists, not_exists] at hundefined
  obtain ⟨hu, hw⟩ := hundefined
  by_cases hnested : a.isNested = true ∨ b.isNested = true
  · by_cases hkind : a.ctorIdx = b.ctorIdx
    -- two values of one kind are compared part by part
    · cases a with
      | list xs =>
        cases b with
        | list ys =>
          obtain ⟨xs', rfl, hxs⟩ := Value.Eases.list_iff.1 ha
          obtain ⟨ys', rfl, hys⟩ := Value.Eases.list_iff.1 hb
          simp only [equalValues, hxs.length_eq, hys.length_eq]
          exact .ite (follows_equalInOrder hxs hys) (.eq _)
        | _ => cases hkind
      | tuple xs =>
        cases b with
        | tuple ys =>
          obtain ⟨xs', rfl, hxs⟩ := Value.Eases.tuple_iff.1 ha
          obtain ⟨ys', rfl, hys⟩ := Value.Eases.tuple_iff.1 hb
          simp only [equalValues, hxs.length_eq, hys.length_eq]
          exact .ite (follows_equalInOrder hxs hys) (.eq _)
        | _ => cases hkind
      | view kind xs =>
        cases b with
        | view kind ys =>
          obtain ⟨xs', rfl, hxs⟩ := Value.Eases.view_iff.1 ha
          obtain ⟨ys', rfl, hys⟩ := Value.Eases.view_iff.1 hb
          simp only [equalValues, equalityIsLeftOut, hxs.length_eq, hys.length_eq]
          exact .ite (follows_error _ _) (.ite (follows_equalInSome hxs hys) (.eq _))
        | _ => cases hkind
      | mapping xs =>
        cases b with
        | mapping ys =>
          obtain ⟨xs', rfl, hxs⟩ := Value.Eases.mapping_iff.1 ha
          obtain ⟨ys', rfl, hys⟩ := Value.Eases.mapping_iff.1 hb
          simp only [equalValues, hxs.length_eq, hys.length_eq]
          exact .ite (follows_equalEntries hxs hys) (.eq _)
        | _ => cases hkind
      | method v n =>
        cases b with
        | method w m =>
          simp only [equalValues, equalityIsLeftOut, if_true]
          exact follows_error _ _
        | _ => cases hkind
      | record =>
        cases b with
        | record =>
          cases ha <;> cases hb <;> simp only [equalValues_record] <;> exact .eq _
        | _ => cases hkind
      | _ =>
        rcases hnested with h | h
        · cases h
        · cases b <;> first | (cases hkind; done) | cases h
    · exact follows_equalValues_of_ctorIdx_ne ha hb hu hw hnested hkind
  · exact follows_equalValues_of_not_isNested ha hb hu hw hnested

theorem follows_equalInOrder {vs vs' ws ws' : List Value} (hv : List.Forall₂ Value.Eases vs vs')
    (hw : List.Forall₂ Value.Eases ws ws') : Follows Eq (equalInOrder vs ws) (equalInOrder vs' ws') := by
  cases hv with
  | nil => exact .eq _
  | cons hv hvs =>
    cases hw with
    | nil => exact .eq _
    | cons hw hws =>
      rw [equalInOrder, equalInOrder]
      exact (follows_equalValues hv hw).bind_eq fun c => .ite (follows_equalInOrder hvs hws) (.eq _)

theorem follows_equalEntries {es es' fs fs' : List (Value × Value)} (he : List.Forall₂ EasesUnder es es')
    (hf : List.Forall₂ EasesUnder fs fs') : Follows Eq (equalEntries es fs) (equalEntries es' fs') := by
  cases he with
  | nil => exact .eq _
  | @cons e e' es es' he hes =>
    obtain ⟨k, v⟩ := e
    obtain ⟨rfl, hv⟩ := he
    have hother := Value.Eases.lookup hf k
    rw [equalEntries, equalEntries]
    generalize Value.lookup k fs = o at hother ⊢
    generalize Value.lookup k fs' = o' at hother ⊢
    cases hother with
    | none => exact .eq _
    | some hother =>
      exact (follows_equalValues hv hother).bind_eq fun c => .ite (follows_equalEntries hes hf) (.eq _)

theorem follows_equalInSome {vs vs' ws ws' : List Value} (hv : List.Forall₂ Value.Eases vs vs')
    (hw : List.Forall₂ Value.Eases ws ws') : Follows Eq (equalInSome vs ws) (equalInSome vs' ws') := by
  cases hv with
  | nil => exact .eq _
  | cons hv hvs =>
    rw [equalInSome, equalInSome]
    exact (Follows.anyM hw fun _ _ h => follows_equalValues hv h).bind_eq fun c => .ite (follows_equalInSome hvs hw) (.eq _)

end

end Template

end Rulebook
