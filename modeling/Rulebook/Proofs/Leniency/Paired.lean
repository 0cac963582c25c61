import Rulebook.Proofs.Leniency.Foreseen

/-!
# Expressions that are ready under the two policies

One impartial expression becomes two when it is folded or got ready under the strict policy and under the lenient one.
The two have the same shape down to the parts that are constants, and those are the same; only where the strict one
can have no value may the lenient one be a constant alone.
-/

namespace Rulebook.Template
open Value (Eases)

/-- The expression has no value under the strict policy. -/
def Expr.IsDead (e : Expr) : Prop :=
  ∀ s : Surroundings, s.strict = true → ∀ fuel, Yields (fun _ => False) (evaluate s fuel e)

/-- Where the lenient policy knows a constant, the strict one knows it too, or never has a value. -/
theorem settle_paired {e a b c d : Expr} (himpartial : Impartial e.uses) (ha : e.fold true = .ok a)
    (hb : e.fold false = .ok b) (hc : settle true c = .ok a) (hd : settle false d = .ok b) :
    (a = c ∧ b = d) ∨ (∃ v, a = .const v ∧ b = .const v) ∨ a.IsDead := by
  have hstrict : c.constant? true = e.constant? true := by rw [← constant?_settle hc, constant?_fold ha]
  have hlenient : d.constant? false = e.constant? false := by rw [← constant?_settle hd, constant?_fold hb]
  have hleads := constant?_leads himpartial
  rcases settle_eq_ok_iff.1 hd with ⟨w, hw, hw_const, rfl⟩ | ⟨rfl, o, ho, ho_const⟩
  · rw [hlenient] at hw
    rcases settle_eq_ok_iff.1 hc with ⟨v, hv, hv_const, rfl⟩ | ⟨rfl, o, ho, ho_const⟩
    · obtain ⟨w', hw', hvw⟩ := hleads v (hstrict ▸ hv)
      rw [hw] at hw'
      cases hw'
      exact .inr (.inl ⟨v, rfl, by rw [hvw.eq_of_isConstantValue hv_const]⟩)
    · -- a strict value would be foreseen, and so be the constant that folding did not find
      refine .inr (.inr fun s hs fuel scene v scene' hrun => ?_)
      have hv := foreseen_fold himpartial ⟨w, hw⟩ ha s hs fuel scene v scene' hrun
      have hvw := eases_of_fold himpartial ha hv hw
      rw [ho] at hv
      cases hv
      simp [← hvw.isConstantValue, ho_const v rfl] at hw_const
  · rcases settle_eq_ok_iff.1 hc with ⟨v, hv, hv_const, rfl⟩ | ⟨rfl, -⟩
    · obtain ⟨w, hw, hvw⟩ := hleads v (hstrict ▸ hv)
      rw [hlenient, hw] at ho
      cases ho
      simp [← hvw.isConstantValue, hv_const] at ho_const
    · exact .inl ⟨rfl, rfl⟩

/-! ### Chains of filters that wait for a text -/

/-- Nothing is missing in the expression: it is no chain of filters that waits for a text. -/
def Expr.isWhole : Expr → Bool
  | .ask _ none .. => false
  | .ask _ (some e) .. => e.isWhole
  | _ => true

theorem onText_of_isWhole {e : Expr} (h : e.isWhole = true) (t : Text) : e.onText t = e := by
  fun_induction Expr.isWhole e with
  | case1 => cases h
  | case2 asked e name args named rest namedRest ih => rw [Expr.onText, ih h]
  | case3 e hnone hsome => rw [Expr.onText] <;> assumption

theorem isWhole_of_constant? {strict : Bool} {e : Expr} {v : Value} (h : e.constant? strict = .ok (some v)) :
    e.isWhole = true := by
  fun_induction Expr.isWhole e generalizing v with
  | case1 => simp [Expr.constant?] at h
  | case2 asked e name args named rest namedRest ih =>
    simp only [Expr.constant?] at h
    split at h
    · cases h
    · simp only [Known.andThen_eq_some] at h
      obtain ⟨_, -, _, -, _, -, _, -, v, hv, -⟩ := h
      exact ih hv
  | case3 => rfl

theorem isWhole_of_form {e : Expr} (h : e.form ≠ .ask) : e.isWhole = true := by
  cases e with
  | ask => exact absurd rfl h
  | _ => rfl

/-- A filter or test is not settled where something is missing in it. -/
theorem settle_of_not_isWhole {strict : Bool} {e e' : Expr} (h : settle strict e = .ok e') (he : e.isWhole = false) :
    e' = e := by
  rcases settle_eq_ok_iff.1 h with ⟨v, hv, -, -⟩ | ⟨rfl, -⟩
  · simp [isWhole_of_constant? hv] at he
  · rfl

theorem isWhole_settle {strict : Bool} {e e' : Expr} (h : settle strict e = .ok e') : e'.isWhole = e.isWhole := by
  rcases settle_eq_ok_iff.1 h with ⟨v, hv, -, rfl⟩ | ⟨rfl, -⟩
  · rw [isWhole_of_constant? hv, Expr.isWhole]
    all_goals nofun
  · rfl

/-- Folding fills in nothing, and takes nothing away. -/
theorem isWhole_fold {strict : Bool} {e e' : Expr} (h : e.fold strict = .ok e') : e'.isWhole = e.isWhole := by
  fun_induction Expr.isWhole e generalizing e' with
  | case1 asked name args named rest namedRest =>
    simp only [Expr.fold, foldOption, bind_eq_ok_iff] at h
    obtain ⟨target', htarget, _, -, _, -, _, -, _, -, h⟩ := h
    cases htarget
    exact isWhole_settle h
  | case2 asked e name args named rest namedRest ih =>
    simp only [Expr.fold, bind_eq_ok_iff] at h
    obtain ⟨target', htarget, _, -, _, -, _, -, _, -, h⟩ := h
    obtain ⟨e', he, rfl⟩ := foldOption_some htarget
    rw [isWhole_settle h, Expr.isWhole, ih he]
  | case3 e hnone hsome =>
    refine isWhole_of_form (form_ne_of_fold h ?_ (by decide))
    cases e with
    | ask asked target =>
      cases target with
      | none => exact (hnone _ _ _ _ _ _ rfl).elim
      | some e => exact (hsome _ _ _ _ _ _ _ rfl).elim
    | _ => simp [Expr.form]

/-! ### Pairs -/

/-- What one impartial expression becomes under the strict policy and under the lenient one: folded, ready for
rendering, or folded and completed by a text. -/
inductive Expr.Paired : Expr → Expr → Prop
  | folded {e a b : Expr} (himpartial : Impartial e.uses) (ha : e.fold true = .ok a) (hb : e.fold false = .ok b) :
      Paired a b
  | prepared {e a b : Expr} {soft : Bool} (himpartial : Impartial e.uses) (ha : e.prepare true soft = .ok a)
      (hb : e.prepare false soft = .ok b) : Paired a b
  | onText {e a b : Expr} (t : Text) (himpartial : Impartial e.uses) (ha : e.fold true = .ok a)
      (hb : e.fold false = .ok b) : Paired (a.onText t) (b.onText t)

theorem Expr.Paired.const (v : Value) : Paired (.const v) (.const v) := .folded (e := .const v) impartial_nil rfl rfl

theorem paired_foldAll {es as bs : List Expr} (himpartial : Impartial (usesAll es)) (ha : foldAll true es = .ok as)
    (hb : foldAll false es = .ok bs) : List.Forall₂ Expr.Paired as bs := by
  induction es generalizing as bs with
  | nil =>
    cases ha
    cases hb
    exact .nil
  | cons e es ih =>
    simp only [usesAll, impartial_append] at himpartial
    simp only [foldAll, bind_eq_ok_iff, pure_eq_ok, Except.ok.injEq] at ha hb
    obtain ⟨a, ha, as, has, rfl⟩ := ha
    obtain ⟨b, hb, bs, hbs, rfl⟩ := hb
    exact .cons (.folded himpartial.1 ha hb) (ih himpartial.2 has hbs)

theorem paired_foldPairs {es as bs : List (Expr × Expr)} (himpartial : Impartial (usesPairs es))
    (ha : foldPairs true es = .ok as) (hb : foldPairs false es = .ok bs) :
    List.Forall₂ (Prod.RProd Expr.Paired Expr.Paired) as bs := by
  induction es generalizing as bs with
  | nil =>
    cases ha
    cases hb
    exact .nil
  | cons e es ih =>
    simp only [usesPairs, impartial_append] at himpartial
    simp only [foldPairs, bind_eq_ok_iff, pure_eq_ok, Except.ok.injEq] at ha hb
    obtain ⟨a, ha, a', ha', as, has, rfl⟩ := ha
    obtain ⟨b, hb, b', hb', bs, hbs, rfl⟩ := hb
    exact .cons ⟨.folded himpartial.1.1 ha hb, .folded himpartial.1.2 ha' hb'⟩ (ih himpartial.2 has hbs)

theorem paired_foldRelated {es as bs : List (Relation × Expr)} (himpartial : Impartial (usesRelated es))
    (ha : foldRelated true es = .ok as) (hb : foldRelated false es = .ok bs) :
    List.Forall₂ (Prod.RProd Eq Expr.Paired) as bs := by
  induction es generalizing as bs with
  | nil =>
    cases ha
    cases hb
    exact .nil
  | cons e es ih =>
    simp only [usesRelated, impartial_append] at himpartial
    simp only [foldRelated, bind_eq_ok_iff, pure_eq_ok, Except.ok.injEq] at ha hb
    obtain ⟨a, ha, as, has, rfl⟩ := ha
    obtain ⟨b, hb, bs, hbs, rfl⟩ := hb
    exact .cons ⟨rfl, .folded himpartial.1 ha hb⟩ (ih himpartial.2 has hbs)

theorem paired_foldNamed {es as bs : List (Text × Expr)} (himpartial : Impartial (usesNamed es))
    (ha : foldNamed true es = .ok as) (hb : foldNamed false es = .ok bs) :
    List.Forall₂ (Prod.RProd Eq Expr.Paired) as bs := by
  induction es generalizing as bs with
  | nil =>
    cases ha
    cases hb
    exact .nil
  | cons e es ih =>
    simp only [usesNamed, impartial_append] at himpartial
    simp only [foldNamed, bind_eq_ok_iff, pure_eq_ok, Except.ok.injEq] at ha hb
    obtain ⟨a, ha, as, has, rfl⟩ := ha
    obtain ⟨b, hb, bs, hbs, rfl⟩ := hb
    exact .cons ⟨rfl, .folded himpartial.1 ha hb⟩ (ih himpartial.2 has hbs)

theorem paired_foldOption {e a b : Option Expr} (himpartial : Impartial (usesOption e))
    (ha : foldOption true e = .ok a) (hb : foldOption false e = .ok b) : Option.Rel Expr.Paired a b := by
  cases e with
  | none =>
    cases ha
    cases hb
    exact .none
  | some e =>
    obtain ⟨_, ha', rfl⟩ := foldOption_some ha
    obtain ⟨_, hb', rfl⟩ := foldOption_some hb
    exact .some (.folded himpartial ha' hb')

variable {soft : Bool}

theorem paired_prepareExprs {es as bs : List Expr} (himpartial : Impartial (usesAll es))
    (ha : prepareExprs true soft es = .ok as) (hb : prepareExprs false soft es = .ok bs) :
    List.Forall₂ Expr.Paired as bs := by
  induction es generalizing as bs with
  | nil =>
    cases ha
    cases hb
    exact .nil
  | cons e es ih =>
    simp only [usesAll, impartial_append] at himpartial
    simp only [prepareExprs, bind_eq_ok_iff, pure_eq_ok, Except.ok.injEq] at ha hb
    obtain ⟨a, ha, as, has, rfl⟩ := ha
    obtain ⟨b, hb, bs, hbs, rfl⟩ := hb
    exact .cons (.prepared himpartial.1 ha hb) (ih himpartial.2 has hbs)

theorem paired_preparePairs {es as bs : List (Expr × Expr)} (himpartial : Impartial (usesPairs es))
    (ha : preparePairs true soft es = .ok as) (hb : preparePairs false soft es = .ok bs) :
    List.Forall₂ (Prod.RProd Expr.Paired Expr.Paired) as bs := by
  induction es generalizing as bs with
  | nil =>
    cases ha
    cases hb
    exact .nil
  | cons e es ih =>
    simp only [usesPairs, impartial_append] at himpartial
    simp only [preparePairs, bind_eq_ok_iff, pure_eq_ok, Except.ok.injEq] at ha hb
    obtain ⟨a, ha, a', ha', as, has, rfl⟩ := ha
    obtain ⟨b, hb, b', hb', bs, hbs, rfl⟩ := hb
    exact .cons ⟨.prepared himpartial.1.1 ha hb, .prepared himpartial.1.2 ha' hb'⟩ (ih himpartial.2 has hbs)

theorem paired_prepareOption {e a b : Option Expr} (himpartial : Impartial (usesOption e))
    (ha : prepareOption true soft e = .ok a) (hb : prepareOption false soft e = .ok b) :
    Option.Rel Expr.Paired a b := by
  cases e with
  | none =>
    cases ha
    cases hb
    exact .none
  | some e =>
    simp only [prepareOption, bind_eq_ok_iff, pure_eq_ok, Except.ok.injEq] at ha hb
    obtain ⟨a, ha, rfl⟩ := ha
    obtain ⟨b, hb, rfl⟩ := hb
    exact .some (.prepared himpartial ha hb)

theorem form_ne_of_prepare {strict : Bool} {e e' : Expr} {f : Expr.Form} (h : e.prepare strict soft = .ok e')
    (he : e.form ≠ f) (hf : f ≠ .other) : e'.form ≠ f := by
  cases e with
  | tuple | list | mapping =>
    simp only [Expr.prepare, bind_eq_ok_iff, pure_eq_ok, Except.ok.injEq] at h
    obtain ⟨_, -, rfl⟩ := h
    exact hf.symm
  | _ =>
    simp only [Expr.prepare, bind_eq_ok_iff, pure_eq_ok, Except.ok.injEq] at h
    obtain ⟨_, h, _, -, rfl⟩ := h
    exact form_ne_of_fold h he hf

/-- A filter that is ready, and gets the text that it waits for. -/
theorem paired_onText {e a b : Expr} (himpartial : Impartial e.uses) (ha : e.prepare true soft = .ok a)
    (hb : e.prepare false soft = .ok b) (t : Text) : Expr.Paired (a.onText t) (b.onText t) := by
  have hready := Expr.Paired.prepared himpartial ha hb
  cases e with
  | tuple | list | mapping =>
    simp only [Expr.prepare, bind_eq_ok_iff, pure_eq_ok, Except.ok.injEq] at ha hb
    obtain ⟨_, -, rfl⟩ := ha
    obtain ⟨_, -, rfl⟩ := hb
    exact hready
  | _ =>
    simp only [Expr.prepare, bind_eq_ok_iff, pure_eq_ok, Except.ok.injEq] at ha hb
    obtain ⟨a, ha, _, -, rfl⟩ := ha
    obtain ⟨b, hb, _, -, rfl⟩ := hb
    exact .onText t himpartial ha hb

/-! ### Pieces and statements -/

/-- Pieces of output with the same text, or with expressions that are paired; the strict one may have no value at
all. -/
inductive Piece.Paired : Piece → Piece → Prop
  | data (t : Text) : Paired (.data t) (.data t)
  | expr {a b : Expr} (h : Expr.Paired a b) : Paired (.expr a) (.expr b)
  | dead {a : Expr} (h : a.IsDead) (q : Piece) : Paired (.expr a) q

theorem paired_piece {p p' q' a b : Piece} (himpartial : Impartial p.uses) (hp : p.known true = .ok p')
    (hq : p.known false = .ok q') (ha : p'.prepare true soft = .ok a) (hb : q'.prepare false soft = .ok b) :
    Piece.Paired a b := by
  cases p with
  | data t =>
    cases hp
    cases hq
    cases ha
    cases hb
    exact .data t
  | expr e =>
    have hleads := constant?_leads himpartial
    simp only [Piece.uses] at himpartial
    simp only [Piece.known] at hp hq
    cases hv : e.constant? true with
    | error f => simp [hv] at hp
    | ok o =>
      cases hw : e.constant? false with
      | error f => simp [hw] at hq
      | ok o' =>
        cases o with
        | some v =>
          obtain ⟨w, hw', hvw⟩ := hleads v hv
          cases hw.symm.trans hw'
          simp only [hv, hw, bind_eq_ok_iff, pure_eq_ok, Except.ok.injEq] at hp hq
          obtain ⟨t, ht, rfl⟩ := hp
          obtain ⟨u, hu, rfl⟩ := hq
          obtain ⟨_, hu', rfl⟩ := hvw.follows_printed t ht
          cases hu.symm.trans hu'
          cases ha
          cases hb
          exact .data t
        | none =>
          simp only [hv, Except.ok.injEq] at hp
          subst hp
          simp only [Piece.prepare, bind_eq_ok_iff, pure_eq_ok, Except.ok.injEq] at ha
          obtain ⟨a, ha, rfl⟩ := ha
          cases o' with
          | none =>
            simp only [hw, Except.ok.injEq] at hq
            subst hq
            simp only [Piece.prepare, bind_eq_ok_iff, pure_eq_ok, Except.ok.injEq] at hb
            obtain ⟨b, hb, rfl⟩ := hb
            exact .expr (.prepared himpartial ha hb)
          | some w =>
            refine .dead (fun s hs fuel scene v scene' hrun => ?_) b
            have hforeseen := foreseen_prepare himpartial ⟨w, hw⟩ ha s hs fuel scene v scene' hrun
            rw [constant?_prepare ha, hv] at hforeseen
            cases hforeseen

theorem paired_pieces {ps ps' qs' as bs : List Piece} (himpartial : Impartial (ps.flatMap Piece.uses))
    (hp : ps.mapM (Piece.known true) = .ok ps') (hq : ps.mapM (Piece.known false) = .ok qs')
    (ha : ps'.mapM (Piece.prepare true soft) = .ok as) (hb : qs'.mapM (Piece.prepare false soft) = .ok bs) :
    List.Forall₂ Piece.Paired as bs := by
  induction ps generalizing ps' qs' as bs with
  | nil =>
    cases hp
    cases hq
    cases ha
    cases hb
    exact .nil
  | cons p ps ih =>
    simp only [List.flatMap_cons, impartial_append] at himpartial
    simp only [List.mapM_cons, bind_eq_ok_iff, pure_eq_ok, Except.ok.injEq] at hp hq
    obtain ⟨p', hp, ps', hps, rfl⟩ := hp
    obtain ⟨q', hq, qs', hqs, rfl⟩ := hq
    simp only [List.mapM_cons, bind_eq_ok_iff, pure_eq_ok, Except.ok.injEq] at ha hb
    obtain ⟨a, ha, as, has, rfl⟩ := ha
    obtain ⟨b, hb, bs, hbs, rfl⟩ := hb
    exact .cons (paired_piece himpartial.1 hp hq ha hb) (ih himpartial.2 hps hqs has hbs)

/-- What one impartial statement becomes when it is got ready under the strict policy and under the lenient one. -/
inductive Stmt.Paired : Stmt → Stmt → Prop
  | prepared {s a b : Stmt} {soft top : Bool} (himpartial : Impartial s.uses)
      (ha : s.prepare true soft top = .ok a) (hb : s.prepare false soft top = .ok b) : Paired a b

variable {top : Bool}

theorem paired_prepareAll {ss as bs : List Stmt} (himpartial : Impartial (usesBody ss))
    (ha : prepareAll true soft top ss = .ok as) (hb : prepareAll false soft top ss = .ok bs) :
    List.Forall₂ Stmt.Paired as bs := by
  induction ss generalizing as bs with
  | nil =>
    cases ha
    cases hb
    exact .nil
  | cons s ss ih =>
    simp only [usesBody, impartial_append] at himpartial
    simp only [prepareAll, bind_eq_ok_iff, pure_eq_ok, Except.ok.injEq] at ha hb
    obtain ⟨a, ha, as, has, rfl⟩ := ha
    obtain ⟨b, hb, bs, hbs, rfl⟩ := hb
    exact .cons (.prepared himpartial.1 ha hb) (ih himpartial.2 has hbs)

theorem paired_prepareBranches {more as bs : List (Expr × List Stmt)} (himpartial : Impartial (usesBranches more))
    (ha : prepareBranches true top more = .ok as) (hb : prepareBranches false top more = .ok bs) :
    List.Forall₂ (Prod.RProd Expr.Paired (List.Forall₂ Stmt.Paired)) as bs := by
  induction more generalizing as bs with
  | nil =>
    cases ha
    cases hb
    exact .nil
  | cons branch more ih =>
    simp only [usesBranches, impartial_append] at himpartial
    simp only [prepareBranches, bind_eq_ok_iff, pure_eq_ok, Except.ok.injEq] at ha hb
    obtain ⟨a, ha, a', ha', as, has, rfl⟩ := ha
    obtain ⟨b, hb, b', hb', bs, hbs, rfl⟩ := hb
    refine .cons ⟨.prepared himpartial.1.1 ha hb, ?_⟩ (ih himpartial.2 has hbs)
    exact paired_prepareAll himpartial.1.2 ha' hb'

/-- Bodies that take the same names from outside, with statements that are paired. -/
structure Body.Paired (a b : Body) : Prop where
  special : a.special = b.special
  outside : a.outside = b.outside
  statements : List.Forall₂ Stmt.Paired a.statements b.statements

theorem Body.paired_prepare {body a b : Body} (himpartial : Impartial (usesBody body.statements))
    (ha : body.prepare true top = .ok a) (hb : body.prepare false top = .ok b) : Body.Paired a b := by
  simp only [Body.prepare, bind_eq_ok_iff, pure_eq_ok, Except.ok.injEq] at ha hb
  obtain ⟨as, has, rfl⟩ := ha
  obtain ⟨bs, hbs, rfl⟩ := hb
  exact ⟨rfl, rfl, paired_prepareAll himpartial has hbs⟩

end Rulebook.Template
