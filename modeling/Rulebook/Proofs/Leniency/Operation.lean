import Rulebook.Proofs.Leniency.Absence
import Rulebook.Proofs.Leniency.Equality
import Rulebook.Proofs.Leniency.Format

/-!
# Operations on values that differ in what is undefined

Where an operation succeeds on values under the strict policy, it does so on the values that they ease to, with a result
that eases in the same way.
-/

namespace Rulebook

namespace Template
open Value (Eases forall₂_eases_refl)

variable {v v' w w' : Value}

/-! ### Truth and members -/

theorem follows_truth (h : Eases v w) : Follows Eq (truth v) (truth w) := by
  cases h with
  | same => exact .eq _
  | undefined hu => simp [truth, hu]
  | list h | tuple h | view _ h | mapping h => simp only [truth, forall₂_isEmpty h, Follows.eq]
  | _ => exact .eq _

theorem follows_iterate (h : Eases v w) : Follows (List.Forall₂ Eases) (iterate v) (iterate w) := by
  cases h with
  | same => exact .refl forall₂_eases_refl _
  | undefined hu => simp [iterate, hu]
  | list h | tuple h | view _ h => exact follows_ok_ok.2 h
  | mapping h =>
    simp only [iterate, Value.forall₂_easesUnder_keys h]
    exact .refl forall₂_eases_refl _
  | _ => simp [iterate]

theorem follows_length (h : Eases v w) : Follows Eq (length v) (length w) := by
  cases h with
  | same => exact .eq _
  | undefined hu => simp [length, hu]
  | list h | tuple h | view _ h | mapping h => simp only [length, h.length_eq, Follows.eq]
  | _ => simp [length]

theorem follows_unary (op : Unary) (h : Eases v w) : Follows Eases (unary op v) (unary op w) := by
  cases op with
  | not =>
    exact (follows_truth h).bind_eq fun b => follows_ok_ok.2 (.same _)
  | neg | pos =>
    cases h with
    | same => exact .refl .same _
    | _ => simp [unary, asNumber?]

/-! ### Sums and products -/

theorem follows_concatenate (hv : Eases v v') (hw : Eases w w') :
    Follows Eases (concatenate v w) (concatenate v' w') := by
  unfold concatenate
  split
  case h_3 =>
    obtain ⟨xs, rfl, hxs⟩ := Eases.list_iff.1 hv
    obtain ⟨ys, rfl, hys⟩ := Eases.list_iff.1 hw
    exact follows_ok_ok.2 (.list (List.rel_append hxs hys))
  case h_5 =>
    obtain ⟨xs, rfl, hxs⟩ := Eases.tuple_iff.1 hv
    obtain ⟨ys, rfl, hys⟩ := Eases.tuple_iff.1 hw
    exact follows_ok_ok.2 (.tuple (List.rel_append hxs hys))
  all_goals first
    | exact follows_error _ _
    | (cases hv
       cases hw
       exact follows_ok_ok.2 (.same _))

theorem repeatSequence?_rel (h : Eases v w) (n : Int) :
    Option.Rel Eases (repeatSequence? v n) (repeatSequence? w n) := by
  cases h with
  | same =>
    cases repeatSequence? v n with
    | none => exact .none
    | some v => exact .some (.same v)
  | list h => exact .some (.list (forall₂_flatten_replicate h _))
  | tuple h => exact .some (.tuple (forall₂_flatten_replicate h _))
  | _ => exact .none

theorem isRepeatable_eq (h : Eases v w) : isRepeatable v = isRepeatable w := by
  cases h <;> rfl

theorem follows_repeatBy (hv : Eases v v') (hw : Eases w w') : Follows Eases (repeatBy v w) (repeatBy v' w') := by
  unfold repeatBy
  rw [← hw.asInteger?]
  cases w.asInteger? with
  | none => exact follows_error _ _
  | some n => exact .ite (follows_ok_ok.2 (optionRel_getD (repeatSequence?_rel hv n) (.same _))) (follows_error _ _)

theorem follows_multiply (hv : Eases v v') (hw : Eases w w') : Follows Eases (multiply v w) (multiply v' w') := by
  unfold multiply
  rw [← isRepeatable_eq hv, ← isRepeatable_eq hw]
  exact .ite (follows_repeatBy hv hw) (.ite (follows_repeatBy hw hv) (follows_error _ _))

theorem follows_subtract (hv : Eases v v') (hw : Eases w w') : Follows Eases (subtract v w) (subtract v' w') := by
  unfold subtract
  split
  all_goals first
    | exact follows_error _ _
    | (cases hv
       cases hw
       exact follows_ok_ok.2 (.same _))

theorem follows_arithDefined (op : Arith) (hv : Eases v v') (hw : Eases w w') :
    Follows Eases (arithDefined op v w) (arithDefined op v' w') := by
  by_cases hu : ∃ u, v = .undefined u
  · obtain ⟨u, rfl⟩ := hu
    exact follows_error _ _
  by_cases hu' : ∃ u, w = .undefined u
  · obtain ⟨u, rfl⟩ := hu'
    cases v <;> exact follows_error _ _
  rw [not_exists] at hu hu'
  rw [arithDefined.eq_def op v' w']
  split
  · exact absurd rfl (hv.ne_undefined hu _)
  · exact absurd rfl (hw.ne_undefined hu' _)
  rw [arithDefined.eq_def op v w, ← hv.asNumber?, ← hw.asNumber?]
  split
  · exact absurd rfl (hu _)
  · exact absurd rfl (hu' _)
  split
  · exact .refl .same _
  · exact .refl .same _
  cases op with
  | add => exact follows_concatenate hv hw
  | sub => exact follows_subtract hv hw
  | mul => exact follows_multiply hv hw
  | _ => exact follows_error _ _

theorem isSetView_eq (h : Eases v w) : isSetView v = isSetView w := by
  cases h with
  | view kind => cases kind <;> rfl
  | _ => rfl

/-- The same operations are left out under both policies. -/
theorem isLeftOut_eq (op : Arith) (hv : Eases v v') (hw : Eases w w') : op.isLeftOut v w = op.isLeftOut v' w' := by
  have hnumeric : ∀ {v v' : Value}, Eases v v' → isNumeric v = isNumeric v' := fun h => by cases h <;> rfl
  have hday : ∀ {v v' : Value}, Eases v v' → isDay v = isDay v' := fun h => by cases h <;> rfl
  have hundefined : isUndefined v = isUndefined v' := by cases hv <;> rfl
  have hcomplex : areComplex v w = areComplex v' w' := by
    simp only [areComplex, hnumeric hv, hnumeric hw, hv.asNumber?, hw.asNumber?]
  have hsub : Arith.isLeftOut .sub v w = Arith.isLeftOut .sub v' w' := by
    simp only [Arith.isLeftOut, hcomplex, hday hv, hday hw, isSetView_eq hv, isSetView_eq hw, hundefined]
  cases op with
  | sub => exact hsub
  | mod =>
    cases hv with
    | same => cases v <;> first | rfl | exact hcomplex
    | _ => exact hcomplex
  | _ => exact hcomplex

theorem arith_of_not_format {op : Arith} (h : ¬(op = .mod ∧ ∃ t, v = .text t)) (w : Value) :
    arith op v w =
      if op.isLeftOut v w then .error (leftOut ((op.symbol : Text) ++ " of " ++ v.operandName ++ " and " ++ w.operandName))
      else arithDefined op v w := by
  unfold arith
  split
  · exact absurd ⟨rfl, _, rfl⟩ h
  · rfl

theorem follows_arith (op : Arith) (hv : Eases v v') (hw : Eases w w') :
    Follows Eases (arith op v w) (arith op v' w') := by
  by_cases htext : op = .mod ∧ ∃ t, v = .text t
  · obtain ⟨rfl, t, rfl⟩ := htext
    cases hv
    exact (Format.follows_apply t hw).bind_eq fun t => follows_ok_ok.2 (.same _)
  have htext' : ¬(op = .mod ∧ ∃ t, v' = .text t) := by
    rintro ⟨rfl, t, rfl⟩
    cases hv
    exact htext ⟨rfl, t, rfl⟩
  rw [arith_of_not_format htext, arith_of_not_format htext', ← isLeftOut_eq op hv hw]
  exact .ite (follows_error _ _) (follows_arithDefined op hv hw)

/-! ### Relations -/

theorem follows_firstUnequal {vs vs' ws ws' : List Value} (hv : List.Forall₂ Eases vs vs')
    (hw : List.Forall₂ Eases ws ws') :
    Follows (Option.Rel (Prod.RProd Eases Eases)) (firstUnequal vs ws) (firstUnequal vs' ws') := by
  induction hv generalizing ws ws' with
  | nil => exact follows_ok_ok.2 .none
  | cons hv hvs ih =>
    cases hw with
    | nil => exact follows_ok_ok.2 .none
    | cons hw hws =>
      rw [firstUnequal, firstUnequal]
      exact (follows_equalValues hv hw).bind_eq fun c => .ite (ih hws) (follows_ok_ok.2 (.some ⟨hv, hw⟩))

/-- Sequences are ordered by their first unequal items, and by length where there are none. -/
theorem follows_orderedSequences {r : Relation} {depth : Nat} {xs xs' ys ys' : List Value}
    (ih : ∀ {v v' w w'}, Eases v v' → Eases w w' → Follows Eq (orderedBy r depth v w) (orderedBy r depth v' w'))
    (hxs : List.Forall₂ Eases xs xs') (hys : List.Forall₂ Eases ys ys') :
    Follows Eq
      (do match ← firstUnequal xs ys with
        | some (x, y) => orderedBy r depth x y
        | none => return r.accepts (compare xs.length ys.length))
      (do match ← firstUnequal xs' ys' with
        | some (x, y) => orderedBy r depth x y
        | none => return r.accepts (compare xs'.length ys'.length)) := by
  refine (follows_firstUnequal hxs hys).bind ?_
  rintro _ _ (⟨hx, hy⟩ | _)
  · exact ih hx hy
  · rw [hxs.length_eq, hys.length_eq]
    exact .eq _

theorem follows_orderedBy (r : Relation) (depth : Nat) (hv : Eases v v') (hw : Eases w w') :
    Follows Eq (orderedBy r depth v w) (orderedBy r depth v' w') := by
  induction depth generalizing v v' w w' with
  | zero => exact follows_error _ _
  | succ depth ih =>
    by_cases hnumbers : (asNumber? v).isSome ∧ (asNumber? w).isSome
    · rw [hv.eq_of_asNumber? hnumbers.1, hw.eq_of_asNumber? hnumbers.2]
      exact .eq _
    unfold orderedBy
    dsimp only
    split
    case h_8 =>
      obtain ⟨xs, rfl, hxs⟩ := Eases.list_iff.1 hv
      obtain ⟨ys, rfl, hys⟩ := Eases.list_iff.1 hw
      exact follows_orderedSequences ih hxs hys
    case h_9 =>
      obtain ⟨xs, rfl, hxs⟩ := Eases.tuple_iff.1 hv
      obtain ⟨ys, rfl, hys⟩ := Eases.tuple_iff.1 hw
      exact follows_orderedSequences ih hxs hys
    case h_15 =>
      split
      · next x y hx hy => exact absurd ⟨by simp [hx], by simp [hy]⟩ hnumbers
      · exact follows_error _ _
    all_goals first
      | exact follows_error _ _
      | (cases hv
         cases hw
         exact .eq _)

theorem follows_iterateOr (message message' : Text) (h : Eases v w) :
    Follows (List.Forall₂ Eases) (iterateOr message v) (iterateOr message' w) := by
  unfold iterateOr
  cases hv : iterate v with
  | error f => exact follows_error _ _
  | ok items =>
    obtain ⟨items', hw, hitems⟩ := follows_iterate h items hv
    rw [hw]
    exact follows_ok_ok.2 hitems

theorem follows_checkMember (h : Eases v w) : Follows (fun _ _ => w = v) (checkMember v) (checkMember w) := by
  have hself := h
  cases h with
  | same => exact (Follows.eq _).mono fun _ _ _ => rfl
  | _ => exact (finds_checkKey hself).follows

theorem follows_isInBytes (h : Eases v w) (data : List Nat) : Follows Eq (isInBytes v data) (isInBytes w data) := by
  cases h with
  | same => exact .eq _
  | _ => exact follows_error _ _

theorem follows_isMember (hv : Eases v v') (hw : Eases w w') : Follows Eq (isMember v w) (isMember v' w') := by
  have hitems : ∀ {items items' : List Value}, List.Forall₂ Eases items items' →
      Follows Eq (items.anyM fun u => equalValues u v) (items'.anyM fun u => equalValues u v') :=
    fun h => .anyM h fun _ _ hu => follows_equalValues hu hv
  have hiterated : ∀ {w w' : Value} (message message' : Text), Eases w w' → Follows Eq
      (do (← iterateOr message w).anyM fun u => equalValues u v)
      (do (← iterateOr message' w').anyM fun u => equalValues u v') :=
    fun _ _ h => (follows_iterateOr _ _ h).bind fun _ _ => hitems
  have hkeys : ∀ {items items' : List Value}, List.Forall₂ Eases items items' → Follows Eq
      (do checkKey v; items.anyM fun u => equalValues u v) (do checkKey v'; items'.anyM fun u => equalValues u v') :=
    fun h => (finds_checkKey hv).follows.bind fun _ _ _ => hitems h
  have hamong : ∀ items : List Value, Follows Eq
      (do checkMember v; return Value.among v items) (do checkMember v'; return Value.among v' items) :=
    fun items => (follows_checkMember hv).bind fun _ _ h => h ▸ .eq _
  have hself := hw
  cases hw with
  | undefined hu => simp [isMember, hu]
  | list | tuple | record | method => exact hiterated _ _ hself
  | view kind h =>
    cases kind with
    | keys => exact hkeys h
    | values => exact hiterated _ _ hself
    | items => exact follows_error _ _
  | mapping h =>
    refine (finds_checkKey hv).follows.bind ?_
    rintro _ _ rfl
    exact follows_ok_ok.2 (optionRel_isSome (Eases.lookup h v'))
  | same =>
    unfold isMember
    split
    case h_1 => exact .eq _
    case h_2 =>
      cases hv with
      | same => exact .eq _
      | _ => exact follows_error _ _
    case h_3 => exact (finds_checkKey hv).follows.bind fun _ _ h => h ▸ .eq _
    case h_4 | h_5 => exact hamong _
    case h_6 | h_7 => exact follows_isInBytes hv _
    case h_8 => exact hkeys (forall₂_eases_refl _)
    case h_9 => exact follows_error _ _
    case h_10 => exact hiterated _ _ (.same _)

theorem follows_relate (r : Relation) (hv : Eases v v') (hw : Eases w w') :
    Follows Eq (relate r v w) (relate r v' w') := by
  cases r with
  | eq => exact follows_equalValues hv hw
  | ne => exact (follows_equalValues hv hw).bind_eq fun c => .eq _
  | isIn => exact follows_isMember hv hw
  | notIn => exact (follows_isMember hv hw).bind_eq fun c => .eq _
  | _ => exact follows_orderedBy _ _ hv hw


end Template
end Rulebook
