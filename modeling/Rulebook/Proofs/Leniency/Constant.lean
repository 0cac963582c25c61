import Rulebook.Proofs.Leniency.Call
import Rulebook.Template.Offer

/-!
# Constants under the two policies

A value that is known of an impartial expression under the strict policy is known under the other, and eases to it.
Computing the parts of an expression beforehand does not change what is known of the whole.
-/

namespace Rulebook.Template
open Value (Eases)

namespace Known

/-- What is known at first is known in the second place too, as a related value. -/
def Leads {α β : Type} (R : α → β → Prop) (x : Known α) (y : Known β) : Prop :=
  ∀ a, x = .ok (some a) → ∃ b, y = .ok (some b) ∧ R a b

section
variable {α β γ δ : Type} {R : α → β → Prop} {S : γ → δ → Prop}

@[simp] theorem andThen_eq_some {x : Known α} {f : α → Known γ} {c : γ} :
    x.andThen f = .ok (some c) ↔ ∃ a, x = .ok (some a) ∧ f a = .ok (some c) := by
  rcases x with _ | _ | a <;> simp [andThen]

@[simp] theorem attempt_eq_some {r : Except Fault α} {a : α} : attempt r = .ok (some a) ↔ r = .ok a := by
  cases r <;> simp [attempt]

@[simp] theorem insist_eq_some {r : Except Fault α} {a : α} : insist r = .ok (some a) ↔ r = .ok a := by
  cases r <;> simp [insist, Except.map]

@[simp] theorem orLater_eq_some {x : Known α} {a : α} : x.orLater = .ok (some a) ↔ x = .ok (some a) := by
  rcases x with _ | _ | a <;> simp [orLater]

namespace Leads

theorem some {a : α} {b : β} (h : R a b) : Leads R (.ok (.some a)) (.ok (.some b)) := by
  rintro _ ⟨⟩
  exact ⟨b, rfl, h⟩

theorem none (y : Known β) : Leads R (.ok .none) y := nofun

theorem andThen {x : Known α} {y : Known β} {f : α → Known γ} {g : β → Known δ} (h : Leads R x y)
    (hf : ∀ a b, R a b → Leads S (f a) (g b)) : Leads S (x.andThen f) (y.andThen g) := by
  intro c hc
  obtain ⟨a, ha, hc⟩ := andThen_eq_some.1 hc
  obtain ⟨b, hb, hab⟩ := h a ha
  obtain ⟨d, hd, hcd⟩ := hf a b hab c hc
  exact ⟨d, andThen_eq_some.2 ⟨b, hb, hd⟩, hcd⟩

theorem attempt {r : Except Fault α} {r' : Except Fault β} (h : Follows R r r') :
    Leads R (Known.attempt r) (Known.attempt r') := by
  intro a ha
  obtain ⟨b, hb, hab⟩ := h a (attempt_eq_some.1 ha)
  exact ⟨b, attempt_eq_some.2 hb, hab⟩

theorem insist {r : Except Fault α} {r' : Except Fault β} (h : Follows R r r') :
    Leads R (Known.insist r) (Known.insist r') := by
  intro a ha
  obtain ⟨b, hb, hab⟩ := h a (insist_eq_some.1 ha)
  exact ⟨b, insist_eq_some.2 hb, hab⟩

theorem orLater {x : Known α} {y : Known β} (h : Leads R x y) : Leads R x.orLater y.orLater := by
  intro a ha
  obtain ⟨b, hb, hab⟩ := h a (orLater_eq_some.1 ha)
  exact ⟨b, orLater_eq_some.2 hb, hab⟩

end Leads

end

end Known

theorem follows_constantSlice {v v' a a' b b' c c' : Value} (hv : Eases v v') (ha : Eases a a') (hb : Eases b b')
    (hc : Eases c c') : Follows Eases (constantSlice true v a b c) (constantSlice false v' a' b' c') := by
  unfold constantSlice
  refine (finds_sliceValue hv ha hb hc).elim ?_ ?_ ?_
  · intro w w' hw hw' h
    simpa only [hw, hw'] using follows_ok_ok.2 h
  · intro f g hf hg hf_absent hg_absent
    simp only [hf, hg, hf_absent, hg_absent, if_true, sliceText, ha.display, hb.display, hc.display]
    exact .bind_eq (.eq _) fun shown => follows_ok_ok.2 (undefinedOf_eases _ _)
  · intro f hf hf_absent
    simp [hf, hf_absent]

theorem Asked.ne_sequence {asked : Asked} {name : Text} (h : (!asked.isSequenceTest name) = true) :
    asked = .test → name.toStringLossy ≠ "sequence" := by
  rintro rfl hname
  simp [Asked.isSequenceTest, hname] at h

mutual

/-- What is known of an impartial expression. -/
theorem constant?_leads {e : Expr} (h : Impartial e.uses) :
    Known.Leads Eases (e.constant? true) (e.constant? false) := by
  cases e with
  | const v => exact .some (.same v)
  | tuple items =>
    simp only [Expr.constant?]
    exact (constants?_leads h.tail).andThen fun _ _ hvs => .some (.tuple hvs)
  | list items =>
    simp only [Expr.constant?]
    exact (constants?_leads h).andThen fun _ _ hvs => .some (.list hvs)
  | mapping pairs =>
    simp only [Expr.constant?]
    exact (constantPairs?_leads h).andThen fun _ _ hes => .insist (follows_mappingOf hes)
  | unary op e =>
    simp only [Expr.uses] at h
    simp only [Expr.constant?]
    exact ((constant?_leads h).andThen fun _ _ hv => .attempt (follows_unary op hv)).orLater
  | arith op a b =>
    simp only [Expr.uses, impartial_append] at h
    simp only [Expr.constant?]
    refine ((constant?_leads h.1).andThen fun _ _ hv => (constant?_leads h.2).andThen fun _ _ hw => ?_).orLater
    exact .attempt (follows_arith op hv hw)
  | both a b =>
    simp only [Expr.uses, impartial_append] at h
    simp only [Expr.constant?]
    refine (constant?_leads h.1).andThen fun v w hv => (Known.Leads.insist (follows_truth hv)).andThen ?_
    rintro c _ rfl
    cases c
    · exact .some hv
    · exact constant?_leads h.2
  | either a b =>
    simp only [Expr.uses, impartial_append] at h
    simp only [Expr.constant?]
    refine (constant?_leads h.1).andThen fun v w hv => (Known.Leads.insist (follows_truth hv)).andThen ?_
    rintro c _ rfl
    cases c
    · exact constant?_leads h.2
    · exact .some hv
  | chain first rest =>
    simp only [Expr.uses, impartial_append] at h
    simp only [Expr.constant?]
    exact (constant?_leads h.1).andThen fun _ _ hv => (constantChain?_leads h.2 hv).orLater
  | concat items =>
    simp only [Expr.constant?]
    refine (constantTexts?_leads h).andThen ?_
    rintro ts _ rfl
    exact .some (.same _)
  | choice line condition value otherwise =>
    simp only [Expr.uses, impartial_append] at h
    have hotherwise := constantOption?_leads h.2
    cases otherwise
    all_goals
      simp only [Expr.constant?]
      refine (constant?_leads h.1.1).andThen fun v w hv => (Known.Leads.insist (follows_truth hv)).andThen ?_
      rintro c _ rfl
      cases c
    case none.false => exact .none _
    case some.false => exact hotherwise
    all_goals exact constant?_leads h.1.2
  | property e n =>
    simp only [Expr.uses, impartial_cons, Use.isImpartial, bne_iff_ne, ne_eq] at h
    simp only [Expr.constant?]
    exact ((constant?_leads h.2).andThen fun _ _ hv => .attempt (follows_getProperty hv h.1)).orLater
  | item e i =>
    simp only [Expr.uses, impartial_append] at h
    cases i with
    | slice a b c =>
      simp only [Expr.uses, impartial_append] at h
      simp only [Expr.constant?]
      refine ((constant?_leads h.1).andThen fun _ _ hv => (constantOption?_leads h.2.1.1).andThen fun _ _ ha => ?_).orLater
      refine (constantOption?_leads h.2.1.2).andThen fun _ _ hb => (constantOption?_leads h.2.2).andThen fun _ _ hc => ?_
      exact .attempt (follows_constantSlice hv ha hb hc)
    | _ =>
      simp only [Expr.constant?]
      refine ((constant?_leads h.1).andThen fun _ _ hv => (constant?_leads h.2).andThen fun _ _ hw => ?_).orLater
      exact .attempt (follows_getItem hv hw)
  | ask asked target name args named rest namedRest =>
    simp only [Expr.uses, impartial_cons, impartial_append, Use.isImpartial, true_and] at h
    obtain ⟨hname, ⟨⟨⟨htarget, hargs⟩, hnamed⟩, hrest⟩, hnamedRest⟩ := h
    cases target with
    | none => exact .none _
    | some target =>
      simp only [Expr.constant?]
      split
      · exact .none _
      · refine (constants?_leads hargs).andThen fun _ _ hargs => ?_
        refine (constantNamed?_leads hnamed).andThen fun _ _ hnamed => ?_
        refine (constantRest?_leads hrest hargs).andThen fun _ _ hargs => ?_
        refine (constantNamedRest?_leads hnamedRest (bindAll_eases hnamed .nil)).andThen fun _ _ hnamed => ?_
        refine (constant?_leads htarget).andThen fun _ _ hv => ?_
        exact .attempt (follows_askValue (Asked.ne_sequence hname) hv hargs hnamed)
  | _ => exact .none _

theorem constants?_leads {es : List Expr} (h : Impartial (usesAll es)) :
    Known.Leads (List.Forall₂ Eases) (constants? true es) (constants? false es) := by
  cases es with
  | nil => exact .some .nil
  | cons e es =>
    simp only [usesAll, impartial_append] at h
    simp only [constants?]
    exact (constant?_leads h.1).andThen fun _ _ hv => (constants?_leads h.2).andThen fun _ _ hvs => .some (.cons hv hvs)

theorem constantTexts?_leads {es : List Expr} (h : Impartial (usesAll es)) :
    Known.Leads Eq (constantTexts? true es) (constantTexts? false es) := by
  cases es with
  | nil => exact .some rfl
  | cons e es =>
    simp only [usesAll, impartial_append] at h
    simp only [constantTexts?]
    refine (constant?_leads h.1).andThen fun _ _ hv => (Known.Leads.insist hv.follows_printed).andThen ?_
    rintro t _ rfl
    refine (constantTexts?_leads h.2).andThen ?_
    rintro ts _ rfl
    exact .some rfl

theorem constantPairs?_leads {es : List (Expr × Expr)} (h : Impartial (usesPairs es)) :
    Known.Leads (List.Forall₂ EasesBoth) (constantPairs? true es) (constantPairs? false es) := by
  cases es with
  | nil => exact .some .nil
  | cons e es =>
    obtain ⟨a, b⟩ := e
    simp only [usesPairs, impartial_append] at h
    simp only [constantPairs?]
    refine (constant?_leads h.1.1).andThen fun _ _ hv => (constant?_leads h.1.2).andThen fun _ _ hw => ?_
    exact (constantPairs?_leads h.2).andThen fun _ _ hvs => .some (.cons ⟨hv, hw⟩ hvs)

theorem constantNamed?_leads {es : List (Text × Expr)} (h : Impartial (usesNamed es)) :
    Known.Leads (List.Forall₂ EasesUnder) (constantNamed? true es) (constantNamed? false es) := by
  cases es with
  | nil => exact .some .nil
  | cons e es =>
    obtain ⟨k, e⟩ := e
    simp only [usesNamed, impartial_append] at h
    simp only [constantNamed?]
    refine (constant?_leads h.1).andThen fun _ _ hv => ?_
    exact (constantNamed?_leads h.2).andThen fun _ _ hvs => .some (.cons ⟨rfl, hv⟩ hvs)

theorem constantOption?_leads {e : Option Expr} (h : Impartial (usesOption e)) :
    Known.Leads Eases (constantOption? true e) (constantOption? false e) := by
  cases e with
  | none => exact .some (.same .null)
  | some e => exact constant?_leads h

theorem constantRest?_leads {e : Option Expr} (h : Impartial (usesOption e)) {args args' : List Value}
    (hargs : List.Forall₂ Eases args args') :
    Known.Leads (List.Forall₂ Eases) (constantRest? true e args) (constantRest? false e args') := by
  cases e with
  | none => exact .some hargs
  | some e =>
    simp only [constantRest?]
    exact ((constant?_leads h).andThen fun _ _ hv => .attempt (follows_withRest hargs hv)).orLater

theorem constantNamedRest?_leads {e : Option Expr} (h : Impartial (usesOption e)) {named named' : List (Text × Value)}
    (hnamed : List.Forall₂ EasesUnder named named') :
    Known.Leads (List.Forall₂ EasesUnder) (constantNamedRest? true e named) (constantNamedRest? false e named') := by
  cases e with
  | none => exact .some hnamed
  | some e =>
    simp only [constantNamedRest?]
    exact ((constant?_leads h).andThen fun _ _ hv => .attempt (follows_withConstantRest hnamed hv)).orLater

theorem constantChain?_leads {es : List (Relation × Expr)} (h : Impartial (usesRelated es)) {v w : Value}
    (hv : Eases v w) : Known.Leads Eases (constantChain? true v es) (constantChain? false w es) := by
  cases es with
  | nil => exact .some (.same _)
  | cons e es =>
    obtain ⟨r, e⟩ := e
    simp only [usesRelated, impartial_append] at h
    simp only [constantChain?]
    refine (constant?_leads h.1).andThen fun _ _ hw => (Known.Leads.attempt (follows_relate r hv hw)).andThen ?_
    rintro c _ rfl
    cases c
    · exact .some (.same _)
    · exact constantChain?_leads h.2 hw

end

/-! ### What is known of folded expressions -/

section
variable {strict : Bool}

/-- An expression is settled as it stands, or as the constant that it is known to be. -/
theorem settle_eq_ok_iff {e e' : Expr} :
    settle strict e = .ok e' ↔
      (∃ v, e.constant? strict = .ok (some v) ∧ isConstantValue v = true ∧ e' = .const v) ∨
        e' = e ∧ ∃ o, e.constant? strict = .ok o ∧ ∀ v ∈ o, isConstantValue v = false := by
  unfold settle
  rcases e.constant? strict with f | _ | v
  · simp
  · simpa using eq_comm
  · cases hv : isConstantValue v
    · simpa [hv] using eq_comm
    · simpa [hv] using eq_comm

theorem constant?_settle {e e' : Expr} (h : settle strict e = .ok e') : e'.constant? strict = e.constant? strict := by
  rcases settle_eq_ok_iff.1 h with ⟨v, hv, -, rfl⟩ | ⟨rfl, -⟩
  · rw [hv, Expr.constant?]
  · rfl

/-- The forms of expressions that are told apart where a part may be one of them only. -/
inductive Expr.Form where
  | slice
  | call
  | ask
  | other
  deriving Repr, DecidableEq

/-- The form of an expression. -/
def Expr.form : Expr → Expr.Form
  | .slice .. => .slice
  | .call .. => .call
  | .ask .. => .ask
  | _ => .other

theorem constant?_item {e i : Expr} (h : i.form ≠ .slice) :
    (Expr.item e i).constant? strict =
      ((e.constant? strict).andThen fun v =>
        (i.constant? strict).andThen fun w => Known.attempt (getItem strict v w)).orLater := by
  cases i <;> first | (simp only [Expr.constant?]; done) | exact absurd rfl h

theorem form_settle {e e' : Expr} {f : Expr.Form} (h : settle strict e = .ok e') (he : e.form = f) :
    e'.form = f ∨ e'.form = .other := by
  rcases settle_eq_ok_iff.1 h with ⟨v, -, -, rfl⟩ | ⟨rfl, -⟩
  · exact .inr rfl
  · exact .inl he

/-- An expression keeps its form when it is folded, unless it becomes a constant. -/
theorem form_fold {e e' : Expr} (h : e.fold strict = .ok e') : e'.form = e.form ∨ e'.form = .other := by
  cases e with
  | slice =>
    simp only [Expr.fold, bind_eq_ok_iff, pure_eq_ok, Except.ok.injEq] at h
    obtain ⟨_, -, _, -, _, -, rfl⟩ := h
    exact .inl rfl
  | call =>
    simp only [Expr.fold, bind_eq_ok_iff, pure_eq_ok, Except.ok.injEq] at h
    obtain ⟨_, -, _, -, _, -, _, -, _, -, rfl⟩ := h
    exact .inl rfl
  | const | name | namespaceRef =>
    simp only [Expr.fold, Except.ok.injEq] at h
    exact .inl (h ▸ rfl)
  | tuple | list | mapping | concat | unary | property =>
    simp only [Expr.fold, bind_eq_ok_iff] at h
    obtain ⟨_, -, h⟩ := h
    exact form_settle h rfl
  | arith | both | either | chain | item =>
    simp only [Expr.fold, bind_eq_ok_iff] at h
    obtain ⟨_, -, _, -, h⟩ := h
    exact form_settle h rfl
  | choice =>
    simp only [Expr.fold, bind_eq_ok_iff] at h
    obtain ⟨_, -, _, -, _, -, h⟩ := h
    exact form_settle h rfl
  | ask =>
    simp only [Expr.fold, bind_eq_ok_iff] at h
    obtain ⟨_, -, _, -, _, -, _, -, _, -, h⟩ := h
    exact form_settle h rfl

theorem form_ne_of_fold {e e' : Expr} {f : Expr.Form} (h : e.fold strict = .ok e') (he : e.form ≠ f)
    (hf : f ≠ .other) : e'.form ≠ f := by
  rcases form_fold h with h | h
  · exact h ▸ he
  · exact h ▸ hf.symm

mutual

/-- Folding changes nothing in what is known of an expression. -/
theorem constant?_fold {e e' : Expr} (h : e.fold strict = .ok e') : e'.constant? strict = e.constant? strict := by
  cases e with
  | const | name | namespaceRef =>
    simp only [Expr.fold, Except.ok.injEq] at h
    rw [h]
  | tuple items | list items =>
    simp only [Expr.fold, bind_eq_ok_iff] at h
    obtain ⟨items', hitems, h⟩ := h
    rw [constant?_settle h]
    simp only [Expr.constant?, constants?_fold hitems]
  | mapping pairs =>
    simp only [Expr.fold, bind_eq_ok_iff] at h
    obtain ⟨pairs', hpairs, h⟩ := h
    rw [constant?_settle h]
    simp only [Expr.constant?, constantPairs?_fold hpairs]
  | unary op e | property e n =>
    simp only [Expr.fold, bind_eq_ok_iff] at h
    obtain ⟨e', he, h⟩ := h
    rw [constant?_settle h]
    simp only [Expr.constant?, constant?_fold he]
  | arith op a b =>
    simp only [Expr.fold, bind_eq_ok_iff] at h
    obtain ⟨a', ha, b', hb, h⟩ := h
    rw [constant?_settle h]
    simp only [Expr.constant?, constant?_fold ha, constant?_fold hb]
  | both a b | either a b =>
    simp only [Expr.fold, bind_eq_ok_iff] at h
    obtain ⟨a', ha, b', hb, h⟩ := h
    rw [constant?_settle h]
    simp only [Expr.constant?, constant?_fold ha, constant?_fold hb]
  | chain first rest =>
    simp only [Expr.fold, bind_eq_ok_iff] at h
    obtain ⟨first', hfirst, rest', hrest, h⟩ := h
    rw [constant?_settle h]
    simp only [Expr.constant?, constant?_fold hfirst, constantChain?_fold hrest]
  | concat items =>
    simp only [Expr.fold, bind_eq_ok_iff] at h
    obtain ⟨items', hitems, h⟩ := h
    rw [constant?_settle h]
    simp only [Expr.constant?, constantTexts?_fold hitems]
  | choice line condition value otherwise =>
    simp only [Expr.fold, bind_eq_ok_iff] at h
    obtain ⟨condition', hcondition, value', hvalue, otherwise', hotherwise, h⟩ := h
    rw [constant?_settle h]
    cases otherwise with
    | none =>
      simp only [foldOption, Except.ok.injEq] at hotherwise
      subst hotherwise
      simp only [Expr.constant?, constant?_fold hcondition, constant?_fold hvalue]
    | some e =>
      simp only [foldOption, bind_eq_ok_iff, pure_eq_ok, Except.ok.injEq] at hotherwise
      obtain ⟨e', he, rfl⟩ := hotherwise
      simp only [Expr.constant?, constant?_fold hcondition, constant?_fold hvalue, constant?_fold he]
  | item e i =>
    simp only [Expr.fold, bind_eq_ok_iff] at h
    obtain ⟨e', he, i', hi, h⟩ := h
    rw [constant?_settle h]
    by_cases hslice : i.form = .slice
    · cases i with
      | slice a b c =>
        simp only [Expr.fold, bind_eq_ok_iff, pure_eq_ok, Except.ok.injEq] at hi
        obtain ⟨a', ha, b', hb, c', hc, rfl⟩ := hi
        simp only [Expr.constant?, constant?_fold he, constantOption?_fold ha, constantOption?_fold hb,
          constantOption?_fold hc]
      | _ => cases hslice
    · rw [constant?_item hslice, constant?_item (form_ne_of_fold hi hslice nofun), constant?_fold he, constant?_fold hi]
  | slice a b c =>
    simp only [Expr.fold, bind_eq_ok_iff, pure_eq_ok, Except.ok.injEq] at h
    obtain ⟨_, -, _, -, _, -, rfl⟩ := h
    simp only [Expr.constant?]
  | call f args named rest namedRest =>
    simp only [Expr.fold, bind_eq_ok_iff, pure_eq_ok, Except.ok.injEq] at h
    obtain ⟨_, -, _, -, _, -, _, -, _, -, rfl⟩ := h
    simp only [Expr.constant?]
  | ask asked target name args named rest namedRest =>
    simp only [Expr.fold, bind_eq_ok_iff] at h
    obtain ⟨target', htarget, args', hargs, named', hnamed, rest', hrest, namedRest', hnamedRest, h⟩ := h
    rw [constant?_settle h]
    cases target with
    | none =>
      simp only [foldOption, Except.ok.injEq] at htarget
      subst htarget
      simp only [Expr.constant?]
    | some e =>
      simp only [foldOption, bind_eq_ok_iff, pure_eq_ok, Except.ok.injEq] at htarget
      obtain ⟨e', he, rfl⟩ := htarget
      simp only [Expr.constant?, constant?_fold he, constants?_fold hargs, constantNamed?_fold hnamed,
        constantRest?_fold hrest, constantNamedRest?_fold hnamedRest]
termination_by structural e

theorem constants?_fold {es es' : List Expr} (h : foldAll strict es = .ok es') :
    constants? strict es' = constants? strict es := by
  cases es with
  | nil =>
    simp only [foldAll, Except.ok.injEq] at h
    rw [h]
  | cons e es =>
    simp only [foldAll, bind_eq_ok_iff, pure_eq_ok, Except.ok.injEq] at h
    obtain ⟨e', he, es', hes, rfl⟩ := h
    simp only [constants?, constant?_fold he, constants?_fold hes]
termination_by structural es

theorem constantTexts?_fold {es es' : List Expr} (h : foldAll strict es = .ok es') :
    constantTexts? strict es' = constantTexts? strict es := by
  cases es with
  | nil =>
    simp only [foldAll, Except.ok.injEq] at h
    rw [h]
  | cons e es =>
    simp only [foldAll, bind_eq_ok_iff, pure_eq_ok, Except.ok.injEq] at h
    obtain ⟨e', he, es', hes, rfl⟩ := h
    simp only [constantTexts?, constant?_fold he, constantTexts?_fold hes]
termination_by structural es

theorem constantPairs?_fold {es es' : List (Expr × Expr)} (h : foldPairs strict es = .ok es') :
    constantPairs? strict es' = constantPairs? strict es := by
  cases es with
  | nil =>
    simp only [foldPairs, Except.ok.injEq] at h
    rw [h]
  | cons e es =>
    obtain ⟨a, b⟩ := e
    simp only [foldPairs, bind_eq_ok_iff, pure_eq_ok, Except.ok.injEq] at h
    obtain ⟨a', ha, b', hb, es', hes, rfl⟩ := h
    simp only [constantPairs?, constant?_fold ha, constant?_fold hb, constantPairs?_fold hes]
termination_by structural es

theorem constantNamed?_fold {es es' : List (Text × Expr)} (h : foldNamed strict es = .ok es') :
    constantNamed? strict es' = constantNamed? strict es := by
  cases es with
  | nil =>
    simp only [foldNamed, Except.ok.injEq] at h
    rw [h]
  | cons e es =>
    obtain ⟨k, e⟩ := e
    simp only [foldNamed, bind_eq_ok_iff, pure_eq_ok, Except.ok.injEq] at h
    obtain ⟨e', he, es', hes, rfl⟩ := h
    simp only [constantNamed?, constant?_fold he, constantNamed?_fold hes]
termination_by structural es

theorem constantOption?_fold {e e' : Option Expr} (h : foldOption strict e = .ok e') :
    constantOption? strict e' = constantOption? strict e := by
  cases e with
  | none =>
    simp only [foldOption, Except.ok.injEq] at h
    rw [h]
  | some e =>
    simp only [foldOption, bind_eq_ok_iff, pure_eq_ok, Except.ok.injEq] at h
    obtain ⟨e', he, rfl⟩ := h
    simp only [constantOption?, constant?_fold he]
termination_by structural e

theorem constantRest?_fold {e e' : Option Expr} (h : foldOption strict e = .ok e') (args : List Value) :
    constantRest? strict e' args = constantRest? strict e args := by
  cases e with
  | none =>
    simp only [foldOption, Except.ok.injEq] at h
    rw [h]
  | some e =>
    simp only [foldOption, bind_eq_ok_iff, pure_eq_ok, Except.ok.injEq] at h
    obtain ⟨e', he, rfl⟩ := h
    simp only [constantRest?, constant?_fold he]
termination_by structural e

theorem constantNamedRest?_fold {e e' : Option Expr} (h : foldOption strict e = .ok e') (named : List (Text × Value)) :
    constantNamedRest? strict e' named = constantNamedRest? strict e named := by
  cases e with
  | none =>
    simp only [foldOption, Except.ok.injEq] at h
    rw [h]
  | some e =>
    simp only [foldOption, bind_eq_ok_iff, pure_eq_ok, Except.ok.injEq] at h
    obtain ⟨e', he, rfl⟩ := h
    simp only [constantNamedRest?, constant?_fold he]
termination_by structural e

theorem constantChain?_fold {es es' : List (Relation × Expr)} (h : foldRelated strict es = .ok es') (v : Value) :
    constantChain? strict v es' = constantChain? strict v es := by
  cases es with
  | nil =>
    simp only [foldRelated, Except.ok.injEq] at h
    rw [h]
  | cons e es =>
    obtain ⟨r, e⟩ := e
    simp only [foldRelated, bind_eq_ok_iff, pure_eq_ok, Except.ok.injEq] at h
    obtain ⟨e', he, es', hes, rfl⟩ := h
    simp only [constantChain?, constant?_fold he, constantChain?_fold hes]
termination_by structural es

end

end

end Rulebook.Template
