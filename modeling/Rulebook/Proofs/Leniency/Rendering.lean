import Rulebook.Proofs.Leniency.Step

/-!
# Rendering under the two policies

Rendering what an impartial template becomes under the lenient policy tracks rendering what it becomes under the strict
one. All that evaluates and runs is taken together, by the depth of calls.
-/

namespace Rulebook.Template
open Value (Eases)

/-- All that evaluates and runs under the lenient policy tracks what does so under the strict one, at one depth of
calls. -/
structure TracksAt (s t : Surroundings) (fuel : Nat) : Prop where
  evaluate : ∀ {a b : Expr}, a.Paired b → Tracks Eases (evaluate s fuel a) (evaluate t fuel b)
  evaluateOption : ∀ {a b : Option Expr}, Option.Rel Expr.Paired a b →
    Tracks Eases (evaluateOption s fuel a) (evaluateOption t fuel b)
  evaluateArguments : ∀ {args args' : List Expr} {named named' : List (Text × Expr)}
    {rest rest' namedRest namedRest' : Option Expr}, List.Forall₂ Expr.Paired args args' →
    List.Forall₂ (Prod.RProd Eq Expr.Paired) named named' → Option.Rel Expr.Paired rest rest' →
    Option.Rel Expr.Paired namedRest namedRest' →
    Tracks (Prod.RProd (List.Forall₂ Eases) (List.Forall₂ EasesUnder))
      (evaluateArguments s fuel args named rest namedRest) (evaluateArguments t fuel args' named' rest' namedRest')
  chainHolds : ∀ {v w : Value} {rest rest' : List (Relation × Expr)}, Eases v w →
    List.Forall₂ (Prod.RProd Eq Expr.Paired) rest rest' →
    Tracks Eq (chainHolds s fuel v rest) (chainHolds t fuel w rest')
  callValue : ∀ {f g : Value} {args args' : List Value} {named named' : List (Text × Value)}, Eases f g →
    List.Forall₂ Eases args args' → List.Forall₂ EasesUnder named named' →
    Tracks Eases (callValue s fuel f args named) (callValue t fuel g args' named')
  runAll : ∀ {body body' : List Stmt}, List.Forall₂ Stmt.Paired body body' →
    Tracks Eq (runAll s fuel body) (runAll t fuel body')
  run : ∀ {a b : Stmt}, a.Paired b → Tracks Eq (run s fuel a) (run t fuel b)
  runBranches : ∀ {more more' : List (Expr × List Stmt)} {otherwise otherwise' : List Stmt},
    List.Forall₂ (Prod.RProd Expr.Paired (List.Forall₂ Stmt.Paired)) more more' →
    List.Forall₂ Stmt.Paired otherwise otherwise' →
    Tracks Eq (runBranches s fuel more otherwise) (runBranches t fuel more' otherwise')

/-- The special names of a body have values that differ only in what is undefined. -/
theorem Body.Paired.specialScope_eases {a b : Body} (h : a.Paired b) (name : Text) :
    List.Forall₂ EasesUnder (a.specialScope true name) (b.specialScope false name) := by
  unfold Body.specialScope
  rw [h.special]
  refine List.forall₂_map_left_iff.2 (List.forall₂_map_right_iff.2 (forall₂_refl (fun n => ⟨rfl, ?_⟩) _))
  split
  · exact undefinedOf_eases _ _
  · exact .same _

namespace TracksAt
variable {s t : Surroundings} {fuel : Nat}

theorem zero : TracksAt s t 0 where
  evaluate _ := .throw _ _
  evaluateOption _ := .throw _ _
  evaluateArguments _ _ _ _ := .throw _ _
  chainHolds _ _ := .throw _ _
  callValue _ _ _ := .throw _ _
  runAll _ := .throw _ _
  run _ := .throw _ _
  runBranches _ _ := .throw _ _

section succ
variable (ih : TracksAt s t fuel)
include ih

/-! ### Expressions, one form at a time -/

theorem evaluate_members {as bs : List Expr} (h : List.Forall₂ Expr.Paired as bs) :
    Tracks (List.Forall₂ Eases) (as.mapM (Template.evaluate s fuel)) (bs.mapM (Template.evaluate t fuel)) :=
  .mapM h fun _ _ hab => ih.evaluate hab

theorem evaluate_tuple {as bs : List Expr} (h : List.Forall₂ Expr.Paired as bs) :
    Tracks Eases (Template.evaluate s (fuel + 1) (.tuple as)) (Template.evaluate t (fuel + 1) (.tuple bs)) := by
  simp only [Template.evaluate]
  exact (ih.evaluate_members h).bind fun _ _ hvs => .pure (.tuple hvs)

theorem evaluate_list {as bs : List Expr} (h : List.Forall₂ Expr.Paired as bs) :
    Tracks Eases (Template.evaluate s (fuel + 1) (.list as)) (Template.evaluate t (fuel + 1) (.list bs)) := by
  simp only [Template.evaluate]
  exact (ih.evaluate_members h).bind fun _ _ hvs => .pure (.list hvs)

theorem evaluate_mapping {as bs : List (Expr × Expr)} (h : List.Forall₂ (Prod.RProd Expr.Paired Expr.Paired) as bs) :
    Tracks Eases (Template.evaluate s (fuel + 1) (.mapping as)) (Template.evaluate t (fuel + 1) (.mapping bs)) := by
  simp only [Template.evaluate]
  refine Tracks.bind (.mapM (S := EasesBoth) h ?_) fun _ _ hpairs => .lift (follows_mappingOf hpairs)
  rintro _ _ ⟨ha, hb⟩
  exact (ih.evaluate ha).bind fun _ _ hk => (ih.evaluate hb).bind fun _ _ hv => .pure ⟨hk, hv⟩

theorem evaluate_concat {as bs : List Expr} (h : List.Forall₂ Expr.Paired as bs) :
    Tracks Eases (Template.evaluate s (fuel + 1) (.concat as)) (Template.evaluate t (fuel + 1) (.concat bs)) := by
  simp only [Template.evaluate]
  refine (ih.evaluate_members h).bind fun _ _ hvs => ?_
  exact (Tracks.lift (.mapM_eq hvs fun _ _ hv => hv.follows_printed)).bind_eq fun ts => .pure (.same _)

theorem evaluate_unary (op : Unary) {a b : Expr} (h : a.Paired b) :
    Tracks Eases (Template.evaluate s (fuel + 1) (.unary op a)) (Template.evaluate t (fuel + 1) (.unary op b)) := by
  simp only [Template.evaluate]
  exact (ih.evaluate h).bind fun _ _ hv => .lift (follows_unary op hv)

theorem evaluate_arith (op : Arith) {a a' b b' : Expr} (ha : a.Paired a') (hb : b.Paired b') :
    Tracks Eases (Template.evaluate s (fuel + 1) (.arith op a b))
      (Template.evaluate t (fuel + 1) (.arith op a' b')) := by
  simp only [Template.evaluate]
  exact (ih.evaluate ha).bind fun _ _ hv => (ih.evaluate hb).bind fun _ _ hw => .lift (follows_arith op hv hw)

theorem evaluate_both {a a' b b' : Expr} (ha : a.Paired a') (hb : b.Paired b') :
    Tracks Eases (Template.evaluate s (fuel + 1) (.both a b)) (Template.evaluate t (fuel + 1) (.both a' b')) := by
  simp only [Template.evaluate]
  refine (ih.evaluate ha).bind fun _ _ hv => (Tracks.lift (follows_truth hv)).bind_eq fun c => ?_
  exact .ite (ih.evaluate hb) (.pure hv)

theorem evaluate_either {a a' b b' : Expr} (ha : a.Paired a') (hb : b.Paired b') :
    Tracks Eases (Template.evaluate s (fuel + 1) (.either a b)) (Template.evaluate t (fuel + 1) (.either a' b')) := by
  simp only [Template.evaluate]
  refine (ih.evaluate ha).bind fun _ _ hv => (Tracks.lift (follows_truth hv)).bind_eq fun c => ?_
  exact .ite (.pure hv) (ih.evaluate hb)

theorem evaluate_chain {a b : Expr} {as bs : List (Relation × Expr)} (h : a.Paired b)
    (hs : List.Forall₂ (Prod.RProd Eq Expr.Paired) as bs) :
    Tracks Eases (Template.evaluate s (fuel + 1) (.chain a as)) (Template.evaluate t (fuel + 1) (.chain b bs)) := by
  simp only [Template.evaluate]
  exact (ih.evaluate h).bind fun _ _ hv => (ih.chainHolds hv hs).bind_eq fun c => .pure (.same _)

theorem evaluate_choice (line : Nat) {a a' b b' : Expr} {c c' : Option Expr} (ha : a.Paired a') (hb : b.Paired b')
    (hc : Option.Rel Expr.Paired c c') :
    Tracks Eases (Template.evaluate s (fuel + 1) (.choice line a b c))
      (Template.evaluate t (fuel + 1) (.choice line a' b' c')) := by
  simp only [Template.evaluate]
  refine (ih.evaluate ha).bind fun _ _ hv => (Tracks.lift (follows_truth hv)).bind_eq fun holds => ?_
  refine .ite (ih.evaluate hb) ?_
  cases hc with
  | none => exact .pure (.same _)
  | some hc => exact ih.evaluate hc

theorem evaluate_property (hst : s.Paired t) {n : Text} (hn : n ≠ membershipProperty) {a b : Expr} (h : a.Paired b) :
    Tracks Eases (Template.evaluate s (fuel + 1) (.property a n))
      (Template.evaluate t (fuel + 1) (.property b n)) := by
  simp only [Template.evaluate, hst.strict, hst.lenient]
  exact (ih.evaluate h).bind fun _ _ hv => .lift (follows_getProperty hv hn)

theorem evaluate_subscript (hst : s.Paired t) {a a' i i' : Expr} (ha : a.Paired a') (hi : i.Paired i')
    (hslice : i.form ≠ .slice) (hslice' : i'.form ≠ .slice) :
    Tracks Eases (Template.evaluate s (fuel + 1) (.item a i)) (Template.evaluate t (fuel + 1) (.item a' i')) := by
  rw [evaluate_item hslice, evaluate_item hslice', hst.strict, hst.lenient]
  exact (ih.evaluate ha).bind fun _ _ hv => (ih.evaluate hi).bind fun _ _ hw => .lift (follows_getItem hv hw)

theorem evaluate_slice {e e' : Expr} {a a' b b' c c' : Option Expr} (he : e.Paired e')
    (ha : Option.Rel Expr.Paired a a') (hb : Option.Rel Expr.Paired b b') (hc : Option.Rel Expr.Paired c c') :
    Tracks Eases (Template.evaluate s (fuel + 1) (.item e (.slice a b c)))
      (Template.evaluate t (fuel + 1) (.item e' (.slice a' b' c'))) := by
  simp only [Template.evaluate]
  refine (ih.evaluate he).bind fun _ _ hv => (ih.evaluateOption ha).bind fun _ _ ha => ?_
  refine (ih.evaluateOption hb).bind fun _ _ hb => (ih.evaluateOption hc).bind fun _ _ hc => ?_
  exact .lift (finds_sliceValue hv ha hb hc).follows

theorem evaluate_call {f f' : Expr} {args args' : List Expr} {named named' : List (Text × Expr)}
    {rest rest' namedRest namedRest' : Option Expr} (hf : f.Paired f') (hargs : List.Forall₂ Expr.Paired args args')
    (hnamed : List.Forall₂ (Prod.RProd Eq Expr.Paired) named named') (hrest : Option.Rel Expr.Paired rest rest')
    (hnamedRest : Option.Rel Expr.Paired namedRest namedRest') :
    Tracks Eases (Template.evaluate s (fuel + 1) (.call f args named rest namedRest))
      (Template.evaluate t (fuel + 1) (.call f' args' named' rest' namedRest')) := by
  simp only [Template.evaluate]
  refine (ih.evaluate hf).bind fun _ _ hf => ?_
  refine (ih.evaluateArguments hargs hnamed hrest hnamedRest).bind ?_
  rintro _ _ ⟨hargs, hnamed⟩
  exact .bind_eq (.lift (.of_eq (refuseInternal_eq hnamed))) fun _ => ih.callValue hf hargs hnamed

theorem evaluate_ask (hst : s.Paired t) {asked : Asked} {name : Text} (hname : (!asked.isSequenceTest name) = true)
    {target target' : Option Expr} {args args' : List Expr} {named named' : List (Text × Expr)}
    {rest rest' namedRest namedRest' : Option Expr} (htarget : Option.Rel Expr.Paired target target')
    (hargs : List.Forall₂ Expr.Paired args args') (hnamed : List.Forall₂ (Prod.RProd Eq Expr.Paired) named named')
    (hrest : Option.Rel Expr.Paired rest rest') (hnamedRest : Option.Rel Expr.Paired namedRest namedRest') :
    Tracks Eases (Template.evaluate s (fuel + 1) (.ask asked target name args named rest namedRest))
      (Template.evaluate t (fuel + 1) (.ask asked target' name args' named' rest' namedRest')) := by
  simp only [Template.evaluate, hst.strict, hst.lenient]
  refine (ih.evaluateOption htarget).bind fun _ _ hv => ?_
  refine (ih.evaluateArguments hargs hnamed hrest hnamedRest).bind ?_
  rintro _ _ ⟨hargs, hnamed⟩
  exact .ite (.lift (follows_askValue (Asked.ne_sequence hname) hv hargs hnamed)) (.throw _ _)

omit ih in
/-- What settles does so as one constant on both sides, or stands as it is on both, or has no value at all. -/
theorem evaluate_settled (hst : s.Paired t) {e a b c d : Expr} (himpartial : Impartial e.uses)
    (ha : e.fold true = .ok a) (hb : e.fold false = .ok b) (hc : settle true c = .ok a) (hd : settle false d = .ok b)
    (h : Tracks Eases (Template.evaluate s (fuel + 1) c) (Template.evaluate t (fuel + 1) d)) :
    Tracks Eases (Template.evaluate s (fuel + 1) a) (Template.evaluate t (fuel + 1) b) := by
  rcases settle_paired himpartial ha hb hc hd with ⟨rfl, rfl⟩ | ⟨v, rfl, rfl⟩ | hdead
  · exact h
  · rw [evaluate_const, evaluate_const]
    exact .lift (.refl .same _)
  · exact .dead (hdead s hst.strict _) _

/-! ### Expressions that are folded, ready or completed -/

theorem evaluate_folded (hst : s.Paired t) {e a b : Expr} (himpartial : Impartial e.uses)
    (ha : e.fold true = .ok a) (hb : e.fold false = .ok b) :
    Tracks Eases (Template.evaluate s (fuel + 1) a) (Template.evaluate t (fuel + 1) b) := by
  have hparts := himpartial
  have hc := ha
  have hd := hb
  cases e with
  | const v =>
    cases ha
    cases hb
    rw [evaluate_const, evaluate_const]
    exact .lift (.refl .same _)
  | name n =>
    cases ha
    cases hb
    simp only [Template.evaluate, hst.strict, hst.lenient]
    exact .look fun scene scene' hscene => .pure (hscene.lookup n)
  | namespaceRef n p =>
    cases ha
    cases hb
    simp only [Expr.uses, impartial_cons, Use.isImpartial, bne_iff_ne] at hparts
    simp only [Template.evaluate, hst.strict, hst.lenient]
    exact .look fun scene scene' hscene => .lift (follows_getProperty (hscene.lookup n) hparts.2.1)
  | tuple items =>
    simp only [Expr.fold, bind_eq_ok_iff] at hc hd
    obtain ⟨as, has, hc⟩ := hc
    obtain ⟨bs, hbs, hd⟩ := hd
    exact evaluate_settled hst himpartial ha hb hc hd (ih.evaluate_tuple (paired_foldAll hparts.tail has hbs))
  | list items =>
    simp only [Expr.fold, bind_eq_ok_iff] at hc hd
    obtain ⟨as, has, hc⟩ := hc
    obtain ⟨bs, hbs, hd⟩ := hd
    exact evaluate_settled hst himpartial ha hb hc hd (ih.evaluate_list (paired_foldAll hparts has hbs))
  | concat items =>
    simp only [Expr.fold, bind_eq_ok_iff] at hc hd
    obtain ⟨as, has, hc⟩ := hc
    obtain ⟨bs, hbs, hd⟩ := hd
    exact evaluate_settled hst himpartial ha hb hc hd (ih.evaluate_concat (paired_foldAll hparts has hbs))
  | mapping pairs =>
    simp only [Expr.fold, bind_eq_ok_iff] at hc hd
    obtain ⟨as, has, hc⟩ := hc
    obtain ⟨bs, hbs, hd⟩ := hd
    exact evaluate_settled hst himpartial ha hb hc hd (ih.evaluate_mapping (paired_foldPairs hparts has hbs))
  | unary op e =>
    simp only [Expr.uses] at hparts
    simp only [Expr.fold, bind_eq_ok_iff] at hc hd
    obtain ⟨a', ha', hc⟩ := hc
    obtain ⟨b', hb', hd⟩ := hd
    exact evaluate_settled hst himpartial ha hb hc hd (ih.evaluate_unary op (.folded hparts ha' hb'))
  | arith op x y =>
    simp only [Expr.uses, impartial_append] at hparts
    simp only [Expr.fold, bind_eq_ok_iff] at hc hd
    obtain ⟨x₁, hx₁, y₁, hy₁, hc⟩ := hc
    obtain ⟨x₂, hx₂, y₂, hy₂, hd⟩ := hd
    refine evaluate_settled hst himpartial ha hb hc hd (ih.evaluate_arith op ?_ ?_)
    · exact .folded hparts.1 hx₁ hx₂
    · exact .folded hparts.2 hy₁ hy₂
  | both x y =>
    simp only [Expr.uses, impartial_append] at hparts
    simp only [Expr.fold, bind_eq_ok_iff] at hc hd
    obtain ⟨x₁, hx₁, y₁, hy₁, hc⟩ := hc
    obtain ⟨x₂, hx₂, y₂, hy₂, hd⟩ := hd
    refine evaluate_settled hst himpartial ha hb hc hd (ih.evaluate_both ?_ ?_)
    · exact .folded hparts.1 hx₁ hx₂
    · exact .folded hparts.2 hy₁ hy₂
  | either x y =>
    simp only [Expr.uses, impartial_append] at hparts
    simp only [Expr.fold, bind_eq_ok_iff] at hc hd
    obtain ⟨x₁, hx₁, y₁, hy₁, hc⟩ := hc
    obtain ⟨x₂, hx₂, y₂, hy₂, hd⟩ := hd
    refine evaluate_settled hst himpartial ha hb hc hd (ih.evaluate_either ?_ ?_)
    · exact .folded hparts.1 hx₁ hx₂
    · exact .folded hparts.2 hy₁ hy₂
  | chain first rest =>
    simp only [Expr.uses, impartial_append] at hparts
    simp only [Expr.fold, bind_eq_ok_iff] at hc hd
    obtain ⟨x₁, hx₁, y₁, hy₁, hc⟩ := hc
    obtain ⟨x₂, hx₂, y₂, hy₂, hd⟩ := hd
    refine evaluate_settled hst himpartial ha hb hc hd (ih.evaluate_chain ?_ ?_)
    · exact .folded hparts.1 hx₁ hx₂
    · exact paired_foldRelated hparts.2 hy₁ hy₂
  | choice line x y z =>
    simp only [Expr.uses, impartial_append] at hparts
    simp only [Expr.fold, bind_eq_ok_iff] at hc hd
    obtain ⟨x₁, hx₁, y₁, hy₁, z₁, hz₁, hc⟩ := hc
    obtain ⟨x₂, hx₂, y₂, hy₂, z₂, hz₂, hd⟩ := hd
    refine evaluate_settled hst himpartial ha hb hc hd (ih.evaluate_choice line ?_ ?_ ?_)
    · exact .folded hparts.1.1 hx₁ hx₂
    · exact .folded hparts.1.2 hy₁ hy₂
    · exact paired_foldOption hparts.2 hz₁ hz₂
  | property e n =>
    simp only [Expr.uses, impartial_cons, Use.isImpartial, bne_iff_ne] at hparts
    simp only [Expr.fold, bind_eq_ok_iff] at hc hd
    obtain ⟨a', ha', hc⟩ := hc
    obtain ⟨b', hb', hd⟩ := hd
    refine evaluate_settled hst himpartial ha hb hc hd (ih.evaluate_property hst hparts.1 ?_)
    exact .folded hparts.2 ha' hb'
  | item x i =>
    simp only [Expr.uses, impartial_append] at hparts
    simp only [Expr.fold, bind_eq_ok_iff] at hc hd
    obtain ⟨x₁, hx₁, i₁, hi₁, hc⟩ := hc
    obtain ⟨x₂, hx₂, i₂, hi₂, hd⟩ := hd
    have hx := Expr.Paired.folded hparts.1 hx₁ hx₂
    refine evaluate_settled hst himpartial ha hb hc hd ?_
    by_cases hslice : i.form = .slice
    · cases i with
      | slice x y z =>
        simp only [Expr.uses, impartial_append] at hparts
        simp only [Expr.fold, bind_eq_ok_iff, pure_eq_ok, Except.ok.injEq] at hi₁ hi₂
        obtain ⟨x₁, hx₁, y₁, hy₁, z₁, hz₁, rfl⟩ := hi₁
        obtain ⟨x₂, hx₂, y₂, hy₂, z₂, hz₂, rfl⟩ := hi₂
        refine ih.evaluate_slice hx ?_ ?_ ?_
        · exact paired_foldOption hparts.2.1.1 hx₁ hx₂
        · exact paired_foldOption hparts.2.1.2 hy₁ hy₂
        · exact paired_foldOption hparts.2.2 hz₁ hz₂
      | _ => cases hslice
    · refine ih.evaluate_subscript hst hx (.folded hparts.2 hi₁ hi₂) ?_ ?_
      · exact form_ne_of_fold hi₁ hslice (by decide)
      · exact form_ne_of_fold hi₂ hslice (by decide)
  | slice x y z =>
    simp only [Expr.fold, bind_eq_ok_iff, pure_eq_ok, Except.ok.injEq] at hc
    obtain ⟨_, -, _, -, _, -, rfl⟩ := hc
    simp only [Template.evaluate]
    exact .throw _ _
  | call f args named rest namedRest =>
    simp only [Expr.uses, impartial_cons, impartial_append, Use.isImpartial, true_and] at hparts
    obtain ⟨⟨⟨⟨hf, hargs⟩, hnamed⟩, hrest⟩, hnamedRest⟩ := hparts
    simp only [Expr.fold, bind_eq_ok_iff, pure_eq_ok, Except.ok.injEq] at hc hd
    obtain ⟨f₁, hf₁, args₁, hargs₁, named₁, hnamed₁, rest₁, hrest₁, namedRest₁, hnamedRest₁, rfl⟩ := hc
    obtain ⟨f₂, hf₂, args₂, hargs₂, named₂, hnamed₂, rest₂, hrest₂, namedRest₂, hnamedRest₂, rfl⟩ := hd
    exact ih.evaluate_call (.folded hf hf₁ hf₂) (paired_foldAll hargs hargs₁ hargs₂)
      (paired_foldNamed hnamed hnamed₁ hnamed₂) (paired_foldOption hrest hrest₁ hrest₂)
      (paired_foldOption hnamedRest hnamedRest₁ hnamedRest₂)
  | ask asked target name args named rest namedRest =>
    simp only [Expr.uses, impartial_cons, impartial_append, Use.isImpartial, true_and] at hparts
    obtain ⟨hname, ⟨⟨⟨htarget, hargs⟩, hnamed⟩, hrest⟩, hnamedRest⟩ := hparts
    simp only [Expr.fold, bind_eq_ok_iff] at hc hd
    obtain ⟨target₁, htarget₁, args₁, hargs₁, named₁, hnamed₁, rest₁, hrest₁, namedRest₁, hnamedRest₁, hc⟩ := hc
    obtain ⟨target₂, htarget₂, args₂, hargs₂, named₂, hnamed₂, rest₂, hrest₂, namedRest₂, hnamedRest₂, hd⟩ := hd
    refine evaluate_settled hst himpartial ha hb hc hd (ih.evaluate_ask hst hname ?_ ?_ ?_ ?_ ?_)
    · exact paired_foldOption htarget htarget₁ htarget₂
    · exact paired_foldAll hargs hargs₁ hargs₂
    · exact paired_foldNamed hnamed hnamed₁ hnamed₂
    · exact paired_foldOption hrest hrest₁ hrest₂
    · exact paired_foldOption hnamedRest hnamedRest₁ hnamedRest₂

theorem evaluate_prepared (hst : s.Paired t) {e a b : Expr} {soft : Bool} (himpartial : Impartial e.uses)
    (ha : e.prepare true soft = .ok a) (hb : e.prepare false soft = .ok b) :
    Tracks Eases (Template.evaluate s (fuel + 1) a) (Template.evaluate t (fuel + 1) b) := by
  cases e with
  | tuple items =>
    simp only [Expr.prepare, bind_eq_ok_iff, pure_eq_ok, Except.ok.injEq] at ha hb
    obtain ⟨as, has, rfl⟩ := ha
    obtain ⟨bs, hbs, rfl⟩ := hb
    exact ih.evaluate_tuple (paired_prepareExprs himpartial.tail has hbs)
  | list items =>
    simp only [Expr.prepare, bind_eq_ok_iff, pure_eq_ok, Except.ok.injEq] at ha hb
    obtain ⟨as, has, rfl⟩ := ha
    obtain ⟨bs, hbs, rfl⟩ := hb
    exact ih.evaluate_list (paired_prepareExprs himpartial has hbs)
  | mapping pairs =>
    simp only [Expr.prepare, bind_eq_ok_iff, pure_eq_ok, Except.ok.injEq] at ha hb
    obtain ⟨as, has, rfl⟩ := ha
    obtain ⟨bs, hbs, rfl⟩ := hb
    exact ih.evaluate_mapping (paired_preparePairs himpartial has hbs)
  | _ =>
    simp only [Expr.prepare, bind_eq_ok_iff, pure_eq_ok, Except.ok.injEq] at ha hb
    obtain ⟨a', ha', _, -, rfl⟩ := ha
    obtain ⟨b', hb', _, -, rfl⟩ := hb
    exact ih.evaluate_folded hst himpartial ha' hb'

/-- A chain of filters that waits for a text is not settled before, and asks the same filters of the text. -/
theorem evaluate_onText (hst : s.Paired t) {e a b : Expr} (text : Text) (himpartial : Impartial e.uses)
    (ha : e.fold true = .ok a) (hb : e.fold false = .ok b) :
    Tracks Eases (Template.evaluate s (fuel + 1) (a.onText text)) (Template.evaluate t (fuel + 1) (b.onText text)) := by
  have hwhole : a.isWhole = b.isWhole := by rw [isWhole_fold ha, isWhole_fold hb]
  cases he : a.isWhole with
  | true =>
    rw [onText_of_isWhole he, onText_of_isWhole (hwhole ▸ he)]
    exact ih.evaluate_folded hst himpartial ha hb
  | false =>
    have hc := ha
    have hd := hb
    cases e with
    | ask asked target name args named rest namedRest =>
      simp only [Expr.uses, impartial_cons, impartial_append, Use.isImpartial, true_and] at himpartial
      obtain ⟨hname, ⟨⟨⟨htarget, hargs⟩, hnamed⟩, hrest⟩, hnamedRest⟩ := himpartial
      simp only [Expr.fold, bind_eq_ok_iff] at hc hd
      obtain ⟨target₁, htarget₁, args₁, hargs₁, named₁, hnamed₁, rest₁, hrest₁, namedRest₁, hnamedRest₁, hc⟩ := hc
      obtain ⟨target₂, htarget₂, args₂, hargs₂, named₂, hnamed₂, rest₂, hrest₂, namedRest₂, hnamedRest₂, hd⟩ := hd
      obtain rfl := settle_of_not_isWhole hc ((isWhole_settle hc).symm.trans he)
      obtain rfl := settle_of_not_isWhole hd ((isWhole_settle hd).symm.trans (hwhole ▸ he))
      have hask : ∀ {x y : Expr}, x.Paired y → Tracks Eases
          (Template.evaluate s (fuel + 1) (.ask asked (some x) name args₁ named₁ rest₁ namedRest₁))
          (Template.evaluate t (fuel + 1) (.ask asked (some y) name args₂ named₂ rest₂ namedRest₂)) := fun hxy =>
        ih.evaluate_ask hst hname (.some hxy) (paired_foldAll hargs hargs₁ hargs₂)
          (paired_foldNamed hnamed hnamed₁ hnamed₂) (paired_foldOption hrest hrest₁ hrest₂)
          (paired_foldOption hnamedRest hnamedRest₁ hnamedRest₂)
      cases target with
      | none =>
        cases htarget₁
        cases htarget₂
        exact hask (.const _)
      | some x =>
        obtain ⟨x₁, hx₁, rfl⟩ := foldOption_some htarget₁
        obtain ⟨x₂, hx₂, rfl⟩ := foldOption_some htarget₂
        exact hask (.onText text htarget hx₁ hx₂)
    | _ =>
      rw [isWhole_fold ha] at he
      cases he

theorem evaluate_succ (hst : s.Paired t) {a b : Expr} (h : a.Paired b) :
    Tracks Eases (Template.evaluate s (fuel + 1) a) (Template.evaluate t (fuel + 1) b) := by
  cases h with
  | folded himpartial ha hb => exact ih.evaluate_folded hst himpartial ha hb
  | prepared himpartial ha hb => exact ih.evaluate_prepared hst himpartial ha hb
  | onText text himpartial ha hb => exact ih.evaluate_onText hst text himpartial ha hb

theorem evaluateOption_succ {a b : Option Expr} (h : Option.Rel Expr.Paired a b) :
    Tracks Eases (Template.evaluateOption s (fuel + 1) a) (Template.evaluateOption t (fuel + 1) b) := by
  cases h with
  | none =>
    simp only [Template.evaluateOption]
    exact .pure (.same _)
  | some h =>
    simp only [Template.evaluateOption]
    exact ih.evaluate h

theorem evaluateArguments_succ {args args' : List Expr} {named named' : List (Text × Expr)}
    {rest rest' namedRest namedRest' : Option Expr} (hargs : List.Forall₂ Expr.Paired args args')
    (hnamed : List.Forall₂ (Prod.RProd Eq Expr.Paired) named named') (hrest : Option.Rel Expr.Paired rest rest')
    (hnamedRest : Option.Rel Expr.Paired namedRest namedRest') :
    Tracks (Prod.RProd (List.Forall₂ Eases) (List.Forall₂ EasesUnder))
      (Template.evaluateArguments s (fuel + 1) args named rest namedRest)
      (Template.evaluateArguments t (fuel + 1) args' named' rest' namedRest') := by
  simp only [Template.evaluateArguments]
  have hreserved : (named.any fun e => isReserved e.1) = named'.any fun e => isReserved e.1 :=
    any_eq_of_easesUnder hnamed isReserved
  refine (ih.evaluate_members hargs).bind fun _ _ hargs => ?_
  have hgiven : Tracks (List.Forall₂ EasesUnder)
      (named.mapM fun p => do return (p.1, ← Template.evaluate s fuel p.2))
      (named'.mapM fun p => do return (p.1, ← Template.evaluate t fuel p.2)) := by
    refine .mapM hnamed ?_
    rintro ⟨k, a⟩ ⟨_, b⟩ ⟨rfl, hab⟩
    exact (ih.evaluate hab).bind fun _ _ hv => .pure ⟨rfl, hv⟩
  cases hrest
  case' none => refine Tracks.bind (.pure hargs) fun _ _ hargs => ?_
  case' some he =>
    refine (ih.evaluate he).bind fun _ _ hv => (Tracks.lift (follows_withRest hargs hv)).bind fun _ _ hargs => ?_
  all_goals
    refine hgiven.bind fun _ _ hgiven => ?_
    have hscope := bindAll_eases hgiven .nil
    cases hnamedRest with
    | none => exact Tracks.bind (.pure hscope) fun _ _ hscope => .pure ⟨hargs, hscope⟩
    | some he =>
      refine (ih.evaluate he).bind fun _ _ hv => ?_
      rw [hreserved]
      exact (Tracks.lift (follows_withNamedRest _ hscope hv)).bind fun _ _ hscope => .pure ⟨hargs, hscope⟩

theorem chainHolds_succ {v w : Value} {rest rest' : List (Relation × Expr)} (hv : Eases v w)
    (hrest : List.Forall₂ (Prod.RProd Eq Expr.Paired) rest rest') :
    Tracks Eq (Template.chainHolds s (fuel + 1) v rest) (Template.chainHolds t (fuel + 1) w rest') := by
  cases hrest with
  | nil =>
    simp only [Template.chainHolds]
    exact .pure rfl
  | @cons p q _ _ hpq hrest =>
    obtain ⟨r, a⟩ := p
    obtain ⟨rfl, hab⟩ := hpq
    simp only [Template.chainHolds]
    refine (ih.evaluate hab).bind fun _ _ hw => (Tracks.lift (follows_relate r hv hw)).bind_eq fun c => ?_
    exact .ite (ih.chainHolds hw hrest) (.pure rfl)

theorem callValue_succ (hst : s.Paired t) {f g : Value} {args args' : List Value} {named named' : List (Text × Value)}
    (hfg : Eases f g) (hargs : List.Forall₂ Eases args args') (hnamed : List.Forall₂ EasesUnder named named') :
    Tracks Eases (Template.callValue s (fuel + 1) f args named)
      (Template.callValue t (fuel + 1) g args' named') := by
  cases f with
  | method receiver name =>
    obtain ⟨receiver', rfl, hreceiver, -⟩ := Eases.method_iff.1 hfg
    simp only [Template.callValue]
    exact .lift (follows_callMethod hreceiver name hargs hnamed)
  | function name kind shown =>
    cases hfg
    simp only [Template.callValue]
    exact .lift (follows_callGlobal name hargs hnamed)
  | templateFunction i name =>
    cases hfg
    simp only [Template.callValue, hst.strict, hst.lenient]
    refine .look fun scene scene' hscene => ?_
    have hcallable := hscene.callable i
    generalize scene.callables[i]? = o at hcallable ⊢
    generalize scene'.callables[i]? = o' at hcallable ⊢
    cases hcallable with
    | none => exact .pure (.same _)
    | @some c d hcd =>
      obtain ⟨hname, hparams, hdefaults, hframe, hbody, hdepth⟩ := hcd
      refine (Tracks.lift (follows_arguments hname hparams hframe hargs hnamed)).bind ?_
      rintro ⟨values, special⟩ ⟨values', special'⟩ ⟨hvalues, hspecial⟩
      simp only [← hdepth, ← hframe, ← hparams, ← hdefaults.length_eq]
      generalize c.params.length - c.defaults.length = required
      refine .inOuterFrame hst c.depth hspecial c.frame.outside ?_
      have hzip := forall₂_zipIdx (forall₂_zip (forall₂_refl (R := Eq) (fun _ => rfl) c.params) hvalues) 0
      refine Tracks.bind (.mapM (S := Eq) hzip ?_) fun _ _ _ => (ih.runAll hbody).bind_eq fun u => .pure (.same _)
      -- a parameter without an argument gets its default, which is evaluated inside the new frame
      rintro ⟨⟨param, v⟩, j⟩ ⟨⟨_, w⟩, _⟩ ⟨⟨rfl, hvw⟩, rfl⟩
      cases hvw with
      | some hvw => exact .bindName param hvw
      | none =>
        have hdefault : Option.Rel Expr.Paired (if j < required then none else c.defaults[j - required]?)
            (if j < required then none else d.defaults[j - required]?) := by
          split
          · exact .none
          · exact forall₂_getElem? hdefaults _
        dsimp only
        generalize (if j < required then none else c.defaults[j - required]?) = e at hdefault ⊢
        generalize (if j < required then none else d.defaults[j - required]?) = e' at hdefault ⊢
        cases hdefault with
        | none => exact .bindName param (undefinedOf_eases _ _)
        | some he => exact (ih.evaluate he).bind fun _ _ hv => .bindName param hv
  | _ =>
    simp only [Template.callValue]
    exact .throw _ _

theorem runAll_succ {body body' : List Stmt} (h : List.Forall₂ Stmt.Paired body body') :
    Tracks Eq (Template.runAll s (fuel + 1) body) (Template.runAll t (fuel + 1) body') := by
  simp only [Template.runAll]
  exact (Tracks.mapM_eq h fun _ _ hab => ih.run hab).bind_eq fun ts => .pure rfl

theorem runBranches_succ {more more' : List (Expr × List Stmt)} {otherwise otherwise' : List Stmt}
    (hmore : List.Forall₂ (Prod.RProd Expr.Paired (List.Forall₂ Stmt.Paired)) more more')
    (hotherwise : List.Forall₂ Stmt.Paired otherwise otherwise') :
    Tracks Eq (Template.runBranches s (fuel + 1) more otherwise)
      (Template.runBranches t (fuel + 1) more' otherwise') := by
  cases hmore with
  | nil =>
    simp only [Template.runBranches]
    exact ih.runAll hotherwise
  | cons hbranch hmore =>
    obtain ⟨htest, hbody⟩ := hbranch
    simp only [Template.runBranches]
    refine (ih.evaluate htest).bind fun _ _ hv => (Tracks.lift (follows_truth hv)).bind_eq fun c => ?_
    exact .ite (ih.runAll hbody) (ih.runBranches hmore hotherwise)

/-! ### Statements -/

theorem run_output {ps qs : List Piece} (h : List.Forall₂ Piece.Paired ps qs) (hst : s.Paired t) :
    Tracks Eq (Template.run s (fuel + 1) (.output ps)) (Template.run t (fuel + 1) (.output qs)) := by
  simp only [Template.run]
  refine (Tracks.mapM_eq h fun p q hpq => ?_).bind_eq fun parts => .pure rfl
  cases hpq with
  | data text => exact .pure rfl
  | expr hab => exact (ih.evaluate hab).bind fun _ _ hv => .lift hv.follows_printed
  | dead hdead => exact .dead ((hdead s hst.strict fuel).bind nofun) _

omit ih in
theorem progress_eases (index size : Nat) {u u' v v' : Value} (hu : Eases u u') (hv : Eases v v') :
    Eases (progress index size u v) (progress index size u' v') := by
  have hrefl (p : Text × Value) : EasesUnder p p := Value.easesUnder_refl p
  refine .record _ _ (.cons (hrefl _) (.cons (hrefl _) (.cons (hrefl _) (.cons (hrefl _) (.cons (hrefl _) ?_)))))
  refine .cons (hrefl _) (.cons (hrefl _) (.cons ⟨rfl, hu⟩ (.cons ⟨rfl, hv⟩ ?_)))
  exact Value.forall₂_easesUnder_refl _

theorem run_loop (hst : s.Paired t) (target : Expr) (recursive : Bool) (outside : LoopOutside)
    {iterable iterable' : Expr} {test test' : Option Expr} {body body' otherwise otherwise' : List Stmt}
    (hiterable : iterable.Paired iterable') (htest : Option.Rel Expr.Paired test test')
    (hbody : List.Forall₂ Stmt.Paired body body') (hotherwise : List.Forall₂ Stmt.Paired otherwise otherwise') :
    Tracks Eq (Template.run s (fuel + 1) (.loop target iterable test recursive outside body otherwise))
      (Template.run t (fuel + 1) (.loop target iterable' test' recursive outside body' otherwise')) := by
  simp only [Template.run, hst.strict, hst.lenient]
  refine (ih.evaluate hiterable).bind fun _ _ hv => (Tracks.lift (follows_iterate hv)).bind fun items items' hitems => ?_
  -- the test only selects items; the turns of the loop are the same with and without one
  cases htest
  case' none => refine Tracks.bind (.pure hitems) fun items items' hitems => ?_
  case' some he =>
    refine Tracks.bind (.filterM hitems fun v w hvw => .inFrame hst outside.test ?_) fun items items' hitems => ?_
    · refine Tracks.bind_eq (.bindTarget hvw target) fun _ => ?_
      exact (ih.evaluate he).bind fun _ _ hu => .lift (follows_truth hu)
  all_goals
    rw [← forall₂_isEmpty hitems]
    refine .ite (.inFrame hst outside.otherwise (ih.runAll hotherwise)) ?_
    refine (Tracks.mapM_eq (forall₂_zipIdx hitems 0) ?_).bind_eq fun parts => .pure rfl
    rintro ⟨v, i⟩ ⟨w, _⟩ ⟨hvw, rfl⟩
    refine .inFrame hst outside.body ?_
    have hall : ∀ j {u u' : Value}, Eases u u' → Eases (items.toArray.getD j u) (items'.toArray.getD j u') := by
      intro j u u' hu
      simpa using optionRel_getD (forall₂_getElem? hitems j) hu
    refine Tracks.bind_eq (.bindName _ ?_) fun _ => .bind_eq (.bindTarget hvw target) fun _ => ih.runAll hbody
    rw [List.size_toArray, List.size_toArray, hitems.length_eq]
    refine progress_eases _ _ ?_ (hall _ (undefinedOf_eases _ _))
    split
    · exact undefinedOf_eases _ _
    · exact hall _ (.same _)

omit ih in
theorem run_callBlock_of_form {call : Expr} (h : call.form ≠ .call) (params : List Text) (defaults : List Expr)
    (frame : CallFrame) (body : List Stmt) :
    Template.run s (fuel + 1) (.callBlock call params defaults frame body) =
      (get >>= fun scene =>
        set { scene with callables :=
          scene.callables.push (Callable.mk "caller" params defaults frame body scene.scopes.length) } >>= fun _ =>
        Pure.pure []) := by
  cases call with
  | call => exact absurd rfl h
  | _ => rfl

theorem run_callBlock {call a b : Expr} {soft : Bool} (himpartial : Impartial call.uses)
    (ha : call.prepare true soft = .ok a) (hb : call.prepare false soft = .ok b) (params : List Text)
    {defaults defaults' : List Expr} (hdefaults : List.Forall₂ Expr.Paired defaults defaults') (frame : CallFrame)
    {body body' : List Stmt} (hbody : List.Forall₂ Stmt.Paired body body') :
    Tracks Eq (Template.run s (fuel + 1) (.callBlock a params defaults frame body))
      (Template.run t (fuel + 1) (.callBlock b params defaults' frame body')) := by
  have hpush : ∀ {scene scene' : Scene}, Scene.Eases scene scene' → Scene.Eases
      { scene with callables :=
          scene.callables.push (Callable.mk "caller" params defaults frame body scene.scopes.length) }
      { scene' with callables :=
          scene'.callables.push (Callable.mk "caller" params defaults' frame body' scene'.scopes.length) } :=
    fun hscene => hscene.push ⟨rfl, rfl, hdefaults, rfl, hbody, hscene.scopes.length_eq⟩
  by_cases hform : call.form = .call
  · cases call with
    | call f args named rest namedRest =>
      simp only [Expr.uses, impartial_cons, impartial_append, Use.isImpartial, true_and] at himpartial
      obtain ⟨⟨⟨⟨hf, hargs⟩, hnamed⟩, hrest⟩, hnamedRest⟩ := himpartial
      simp only [Expr.prepare, Expr.fold, bind_eq_ok_iff, pure_eq_ok, Except.ok.injEq] at ha hb
      obtain ⟨_, ⟨f₁, hf₁, args₁, hargs₁, named₁, hnamed₁, rest₁, hrest₁, namedRest₁, hnamedRest₁, rfl⟩, _, -, rfl⟩ := ha
      obtain ⟨_, ⟨f₂, hf₂, args₂, hargs₂, named₂, hnamed₂, rest₂, hrest₂, namedRest₂, hnamedRest₂, rfl⟩, _, -, rfl⟩ := hb
      simp only [Template.run]
      refine .look fun scene scene' hscene => .bind_eq (.replace (hpush hscene)) fun _ => ?_
      refine (ih.evaluate (.folded hf hf₁ hf₂)).bind fun _ _ hf => ?_
      rw [← hscene.size]
      have hcaller (e : Text × Expr) (he : Prod.RProd Eq Expr.Paired e e) :=
        List.rel_append (paired_foldNamed hnamed hnamed₁ hnamed₂) (.cons he .nil)
      refine (ih.evaluateArguments (paired_foldAll hargs hargs₁ hargs₂) (hcaller _ ⟨rfl, .const _⟩)
        (paired_foldOption hrest hrest₁ hrest₂) (paired_foldOption hnamedRest hnamedRest₁ hnamedRest₂)).bind ?_
      rintro _ _ ⟨hargs, hnamed⟩
      refine .bind_eq (.lift (.of_eq (refuseInternal_eq hnamed))) fun _ => ?_
      exact (ih.callValue hf hargs hnamed).bind fun _ _ hv => .lift hv.follows_printed
    | _ => cases hform
  · rw [run_callBlock_of_form (form_ne_of_prepare ha hform (by decide)),
      run_callBlock_of_form (form_ne_of_prepare hb hform (by decide))]
    exact .look fun scene scene' hscene => .bind_eq (.replace (hpush hscene)) fun _ => .pure rfl

theorem run_succ (hst : s.Paired t) {a b : Stmt} (h : a.Paired b) :
    Tracks Eq (Template.run s (fuel + 1) a) (Template.run t (fuel + 1) b) := by
  obtain @⟨source, _, _, soft, top, himpartial, ha, hb⟩ := h
  cases source with
  | output pieces =>
    simp only [Stmt.prepare, bind_eq_ok_iff, pure_eq_ok, Except.ok.injEq] at ha hb
    obtain ⟨ps, hps, ps', hps', rfl⟩ := ha
    obtain ⟨qs, hqs, qs', hqs', rfl⟩ := hb
    exact ih.run_output (paired_pieces himpartial hps hqs hps' hqs') hst
  | assign target value =>
    simp only [Stmt.uses, impartial_append] at himpartial
    simp only [Stmt.prepare, bind_eq_ok_iff, pure_eq_ok, Except.ok.injEq] at ha hb
    obtain ⟨value₁, hvalue₁, rfl⟩ := ha
    obtain ⟨value₂, hvalue₂, rfl⟩ := hb
    simp only [Template.run]
    refine (ih.evaluate (.prepared himpartial.2 hvalue₁ hvalue₂)).bind fun _ _ hv => ?_
    exact .bind_eq (.bindTarget hv target) fun _ => .pure rfl
  | assignBlock target filter outside body =>
    simp only [Stmt.uses, impartial_append] at himpartial
    simp only [Stmt.prepare, bind_eq_ok_iff, pure_eq_ok, Except.ok.injEq] at ha hb
    obtain ⟨body₁, hbody₁, filter₁, hfilter₁, rfl⟩ := ha
    obtain ⟨body₂, hbody₂, filter₂, hfilter₂, rfl⟩ := hb
    simp only [Template.run]
    refine Tracks.bind (R := Eases) (.inFrame hst outside ?_) fun _ _ hv => .bind_eq (.bindTarget hv target) fun _ => .pure rfl
    refine (ih.runAll (paired_prepareAll himpartial.2.2 hbody₁ hbody₂)).bind_eq fun text => ?_
    cases filter with
    | none =>
      cases hfilter₁
      cases hfilter₂
      exact .pure (.same _)
    | some e =>
      simp only [prepareOption, bind_eq_ok_iff, pure_eq_ok, Except.ok.injEq] at hfilter₁ hfilter₂
      obtain ⟨e₁, he₁, rfl⟩ := hfilter₁
      obtain ⟨e₂, he₂, rfl⟩ := hfilter₂
      exact ih.evaluate (paired_onText himpartial.2.1 he₁ he₂ text)
  | loop target iterable test recursive outside body otherwise =>
    simp only [Stmt.uses, impartial_cons, impartial_append, Use.isImpartial, true_and] at himpartial
    simp only [Stmt.prepare, bind_eq_ok_iff, pure_eq_ok] at ha hb
    obtain ⟨test₁, htest₁, ha⟩ := ha
    obtain ⟨test₂, htest₂, hb⟩ := hb
    split at ha
    · simp at ha
    split at hb
    · simp at hb
    · simp only [bind_eq_ok_iff, Except.ok.injEq] at ha hb
      obtain ⟨iterable₁, hiterable₁, body₁, hbody₁, otherwise₁, hotherwise₁, rfl⟩ := ha
      obtain ⟨iterable₂, hiterable₂, body₂, hbody₂, otherwise₂, hotherwise₂, rfl⟩ := hb
      refine ih.run_loop hst target recursive outside ?_ ?_ ?_ ?_
      · exact .prepared himpartial.1.1.1 hiterable₁ hiterable₂
      · exact paired_prepareOption himpartial.1.1.2 htest₁ htest₂
      · exact paired_prepareAll himpartial.1.2 hbody₁ hbody₂
      · exact paired_prepareAll himpartial.2 hotherwise₁ hotherwise₂
  | condition test body more otherwise =>
    simp only [Stmt.uses, impartial_append] at himpartial
    simp only [Stmt.prepare, bind_eq_ok_iff, pure_eq_ok, Except.ok.injEq] at ha hb
    obtain ⟨test₁, htest₁, body₁, hbody₁, more₁, hmore₁, otherwise₁, hotherwise₁, rfl⟩ := ha
    obtain ⟨test₂, htest₂, body₂, hbody₂, more₂, hmore₂, otherwise₂, hotherwise₂, rfl⟩ := hb
    simp only [Template.run]
    refine (ih.evaluate (.prepared himpartial.1.1.1 htest₁ htest₂)).bind fun _ _ hv => ?_
    refine (Tracks.lift (follows_truth hv)).bind_eq fun c => .ite (ih.runAll ?_) (ih.runBranches ?_ ?_)
    · exact paired_prepareAll himpartial.1.1.2 hbody₁ hbody₂
    · exact paired_prepareBranches himpartial.1.2 hmore₁ hmore₂
    · exact paired_prepareAll himpartial.2 hotherwise₁ hotherwise₂
  | withNames targets values outside body =>
    simp only [Stmt.uses, impartial_append] at himpartial
    simp only [Stmt.prepare, bind_eq_ok_iff, pure_eq_ok, Except.ok.injEq] at ha hb
    obtain ⟨values₁, hvalues₁, body₁, hbody₁, rfl⟩ := ha
    obtain ⟨values₂, hvalues₂, body₂, hbody₂, rfl⟩ := hb
    simp only [Template.run]
    refine (ih.evaluate_members (paired_prepareExprs himpartial.1 hvalues₁ hvalues₂)).bind fun _ _ hvs => ?_
    refine .inFrame hst outside (.bind_eq (.bindTargets hvs targets) fun _ => ?_)
    exact ih.runAll (paired_prepareAll himpartial.2 hbody₁ hbody₂)
  | autoescape value outside body =>
    simp only [Stmt.uses, impartial_cons, impartial_append, Use.isImpartial, true_and] at himpartial
    simp only [Stmt.prepare, bind_eq_ok_iff, pure_eq_ok, Except.ok.injEq] at ha hb
    obtain ⟨value₁, hvalue₁, body₁, hbody₁, rfl⟩ := ha
    obtain ⟨value₂, hvalue₂, body₂, hbody₂, rfl⟩ := hb
    simp only [Template.run]
    refine .inFrame hst outside ((ih.evaluate (.prepared himpartial.1 hvalue₁ hvalue₂)).bind fun _ _ _ => ?_)
    exact ih.runAll (paired_prepareAll himpartial.2 hbody₁ hbody₂)
  | block name isScoped body =>
    cases ha
    cases hb
    have hfind := forall₂_find? hst.blocks (p := fun b => Text.same b.1 name) (q := fun b => Text.same b.1 name)
      (by rintro _ _ ⟨hname, -⟩; rw [hname])
    simp only [Template.run, hst.strict, hst.lenient]
    generalize s.blocks.find? _ = o at hfind ⊢
    generalize t.blocks.find? _ = o' at hfind ⊢
    cases hfind with
    | none => exact .pure rfl
    | @some b b' hbody =>
      obtain ⟨name', body₁⟩ := b
      obtain ⟨rfl, hbody⟩ := hbody
      dsimp only
      rw [hbody.outside]
      refine .inOuterFrame hst 1 ?_ _ (ih.runAll hbody.statements)
      exact hbody.specialScope_eases name
  | inherit template =>
    rw [Stmt.prepare] at ha hb
    split at ha
    · simp at ha
    split at hb
    · simp at hb
    · simp only [bind_eq_ok_iff, pure_eq_ok, Except.ok.injEq] at ha hb
      obtain ⟨template₁, htemplate₁, rfl⟩ := ha
      obtain ⟨template₂, htemplate₂, rfl⟩ := hb
      simp only [Template.run]
      exact (ih.evaluate (.prepared himpartial.tail htemplate₁ htemplate₂)).bind fun _ _ _ => .throw _ _
  | insert template passing =>
    simp only [Stmt.prepare, bind_eq_ok_iff, pure_eq_ok, Except.ok.injEq] at ha hb
    obtain ⟨template₁, htemplate₁, rfl⟩ := ha
    obtain ⟨template₂, htemplate₂, rfl⟩ := hb
    simp only [Template.run]
    refine (ih.evaluate (.prepared himpartial htemplate₁ htemplate₂)).bind fun v w hv => ?_
    split
    · next hpassing =>
      obtain ⟨hpassing, hempty⟩ := Bool.and_eq_true_iff.1 hpassing
      rw [hpassing, isEmptyChoice_of_eases hv hempty]
      exact .pure rfl
    · exact .throw _ _
  | importAs template target | importNames template names =>
    simp only [Stmt.prepare, bind_eq_ok_iff, pure_eq_ok, Except.ok.injEq] at ha hb
    obtain ⟨template₁, htemplate₁, rfl⟩ := ha
    obtain ⟨template₂, htemplate₂, rfl⟩ := hb
    simp only [Template.run]
    exact (ih.evaluate (.prepared himpartial htemplate₁ htemplate₂)).bind fun _ _ _ => .throw _ _
  | define name params defaults frame body =>
    simp only [Stmt.uses, impartial_cons, impartial_append, Use.isImpartial, true_and] at himpartial
    simp only [Stmt.prepare, bind_eq_ok_iff, pure_eq_ok, Except.ok.injEq] at ha hb
    obtain ⟨_, -, defaults₁, hdefaults₁, body₁, hbody₁, rfl⟩ := ha
    obtain ⟨_, -, defaults₂, hdefaults₂, body₂, hbody₂, rfl⟩ := hb
    simp only [Template.run]
    refine .look fun scene scene' hscene => ?_
    refine .bind_eq (.replace (hscene.push ⟨rfl, rfl, ?_, rfl, ?_, hscene.scopes.length_eq⟩)) fun _ => ?_
    · exact paired_prepareExprs himpartial.1 hdefaults₁ hdefaults₂
    · exact paired_prepareAll himpartial.2 hbody₁ hbody₂
    rw [← hscene.size]
    exact .bind_eq (.bindName name (.same _)) fun _ => .pure rfl
  | callBlock call params defaults frame body =>
    simp only [Stmt.uses, impartial_cons, impartial_append, Use.isImpartial, true_and] at himpartial
    simp only [Stmt.prepare, bind_eq_ok_iff, pure_eq_ok, Except.ok.injEq] at ha hb
    obtain ⟨_, -, defaults₁, hdefaults₁, body₁, hbody₁, call₁, hcall₁, rfl⟩ := ha
    obtain ⟨_, -, defaults₂, hdefaults₂, body₂, hbody₂, call₂, hcall₂, rfl⟩ := hb
    refine ih.run_callBlock himpartial.1.1 hcall₁ hcall₂ params ?_ frame ?_
    · exact paired_prepareExprs himpartial.1.2 hdefaults₁ hdefaults₂
    · exact paired_prepareAll himpartial.2 hbody₁ hbody₂
  | filterBlock filter outside body =>
    simp only [Stmt.uses, impartial_append] at himpartial
    simp only [Stmt.prepare, bind_eq_ok_iff, pure_eq_ok, Except.ok.injEq] at ha hb
    obtain ⟨body₁, hbody₁, filter₁, hfilter₁, rfl⟩ := ha
    obtain ⟨body₂, hbody₂, filter₂, hfilter₂, rfl⟩ := hb
    simp only [Template.run]
    refine .inFrame hst outside ((ih.runAll (paired_prepareAll himpartial.2 hbody₁ hbody₂)).bind_eq fun text => ?_)
    exact (ih.evaluate (paired_onText himpartial.1 hfilter₁ hfilter₂ text)).bind fun _ _ hv => .lift hv.follows_printed

end succ

/-- Evaluation and running track at every depth of calls. -/
theorem of_paired (hst : s.Paired t) (fuel : Nat) : TracksAt s t fuel := by
  induction fuel with
  | zero => exact .zero
  | succ fuel ih =>
    exact ⟨ih.evaluate_succ hst, ih.evaluateOption_succ, ih.evaluateArguments_succ, ih.chainHolds_succ,
      ih.callValue_succ hst, ih.runAll_succ, ih.run_succ hst, ih.runBranches_succ⟩

end TracksAt

/-- Templates with bodies that are paired, and with blocks of the same names that are. -/
structure Prepared.Paired (p q : Prepared) : Prop where
  body : p.body.Paired q.body
  blocks : List.Forall₂ (Prod.RProd Eq Body.Paired) p.blocks q.blocks

/-- What a template puts out under the strict policy it puts out under the lenient one. -/
theorem Prepared.Paired.follows_render {p q : Prepared} (h : p.Paired q) (depth : Nat)
    (bindings : List (Value × Value)) : Follows Eq (render true depth p bindings) (render false depth q bindings) := by
  have hst : Surroundings.Paired ⟨true, bindings, p.blocks⟩ ⟨false, bindings, q.blocks⟩ := ⟨rfl, rfl, rfl, h.blocks⟩
  have hroot := Tracks.inOuterFrame hst 0 (h.body.specialScope_eases []) p.body.outside
    ((TracksAt.of_paired hst depth).runAll h.body.statements)
  rw [h.body.outside] at hroot
  simp only [render, h.body.outside]
  exact (hroot ⟨[], #[]⟩ ⟨[], #[]⟩ ⟨.nil, .nil⟩).bind fun _ _ ⟨htext, _⟩ => follows_ok_ok.2 htext

end Rulebook.Template
