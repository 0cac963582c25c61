import Rulebook.Proofs.Leniency.Paired

/-!
# Steps of rendering under the two policies

A step tracks another one if from scenes that differ only in what is undefined it succeeds wherever that one does, and
such scenes are left behind. Tracking passes through sequences, branches, loops and bindings.
-/

namespace Rulebook.Template
open Value (Eases)

/-- Callables with the same parameters and frame, and with defaults and bodies that are paired. -/
structure Callable.Paired (c d : Callable) : Prop where
  name : c.name = d.name
  params : c.params = d.params
  defaults : List.Forall₂ Expr.Paired c.defaults d.defaults
  frame : c.frame = d.frame
  body : List.Forall₂ Stmt.Paired c.body d.body
  depth : c.depth = d.depth

/-- Scenes that differ only in what is undefined, and in which policy the callables are ready for. -/
structure Scene.Eases (x y : Scene) : Prop where
  scopes : List.Forall₂ (List.Forall₂ EasesUnder) x.scopes y.scopes
  callables : List.Forall₂ Callable.Paired x.callables.toList y.callables.toList

/-- The strict policy and the lenient one, with the same variables and blocks that are paired. -/
structure Surroundings.Paired (s t : Surroundings) : Prop where
  strict : s.strict = true
  lenient : t.strict = false
  bindings : s.bindings = t.bindings
  blocks : List.Forall₂ (Prod.RProd Eq Body.Paired) s.blocks t.blocks

/-! ### Scopes -/

theorem findSome?_eases {xs ys : List Scope} (h : List.Forall₂ (List.Forall₂ EasesUnder) xs ys) (n : Text) :
    Option.Rel Eases (xs.findSome? (Scope.find? n)) (ys.findSome? (Scope.find? n)) := by
  induction h with
  | nil => exact .none
  | @cons x y _ _ hxy _ ih =>
    have hfind := Scope.find?_eases hxy n
    simp only [List.findSome?_cons]
    generalize Scope.find? n x = o at hfind ⊢
    generalize Scope.find? n y = p at hfind ⊢
    cases hfind with
    | none => exact ih
    | some hv => exact .some hv

theorem follows_assignProperty {xs ys : List Scope} (h : List.Forall₂ (List.Forall₂ EasesUnder) xs ys)
    (n property : Text) {v w : Value} (hv : Eases v w) :
    Follows (List.Forall₂ (List.Forall₂ EasesUnder)) (assignProperty n property v xs)
      (assignProperty n property w ys) := by
  induction h with
  | nil => exact follows_error _ _
  | @cons x y _ _ hxy hs ih =>
    have hfind := Scope.find?_eases hxy n
    simp only [assignProperty]
    generalize Scope.find? n x = o at hfind ⊢
    generalize Scope.find? n y = p at hfind ⊢
    cases hfind with
    | none => exact ih.bind fun _ _ hrest => follows_ok_ok.2 (.cons hxy hrest)
    | @some u u' hu =>
      cases u with
      | record kind shown fields =>
        obtain ⟨fields', rfl, hfields⟩ := Eases.record_iff.1 hu
        refine .ite ?_ (follows_error _ _)
        refine (follows_namespaceOf (Scope.bind_eases hfields property hv)).bind fun _ _ hspace => ?_
        exact follows_ok_ok.2 (.cons (Scope.bind_eases hxy n hspace) hs)
      | _ => exact follows_error _ _

/-! ### Scenes -/

namespace Scene.Eases
variable {x y : Scene}

theorem find? (h : Scene.Eases x y) (n : Text) : Option.Rel Value.Eases (x.find? n) (y.find? n) :=
  findSome?_eases h.scopes n

theorem lookup (h : Scene.Eases x y) (n : Text) : Value.Eases (x.lookup true n) (y.lookup false n) :=
  optionRel_getD (h.find? n) (undefinedOf_eases _ _)

theorem bind (h : Scene.Eases x y) (n : Text) {v w : Value} (hv : v.Eases w) :
    Scene.Eases (x.bind n v) (y.bind n w) := by
  obtain ⟨xs, _⟩ := x
  obtain ⟨ys, _⟩ := y
  obtain ⟨hscopes, hcallables⟩ := h
  cases hscopes with
  | nil => exact ⟨.cons (.cons ⟨rfl, hv⟩ .nil) .nil, hcallables⟩
  | cons hxy hs => exact ⟨.cons (Scope.bind_eases hxy n hv) hs, hcallables⟩

theorem fetch (h : Scene.Eases x y) {s t : Surroundings} (hst : s.Paired t) (n : Text) :
    Scene.Eases (x.fetch s n) (y.fetch t n) := by
  have hvalue : s.value? n = t.value? n := by simp only [Surroundings.value?, hst.bindings]
  have hfind := h.find? n
  unfold Scene.fetch
  rw [← hvalue]
  cases hx : x.find? n
  all_goals
    cases hy : y.find? n
    all_goals
      rw [hx, hy] at hfind
  case none.none =>
    cases s.value? n with
    | none => exact h
    | some v => exact h.bind n (.same v)
  case some.some => exact h
  all_goals cases hfind

theorem foldl_fetch (h : Scene.Eases x y) {s t : Surroundings} (hst : s.Paired t) (names : List Text) :
    Scene.Eases (names.foldl (Scene.fetch s) x) (names.foldl (Scene.fetch t) y) := by
  induction names generalizing x y with
  | nil => exact h
  | cons n names ih => exact ih (h.fetch hst n)

theorem push (h : Scene.Eases x y) {c d : Callable} (hcd : c.Paired d) :
    Scene.Eases { x with callables := x.callables.push c } { y with callables := y.callables.push d } := by
  refine ⟨h.scopes, ?_⟩
  simpa using List.rel_append h.callables (.cons hcd .nil)

theorem size (h : Scene.Eases x y) : x.callables.size = y.callables.size := by
  simpa using h.callables.length_eq

theorem callable (h : Scene.Eases x y) (i : Nat) : Option.Rel Callable.Paired x.callables[i]? y.callables[i]? := by
  simpa using forall₂_getElem? h.callables i

end Scene.Eases

/-! ### Steps -/

/-- From scenes that differ only in what is undefined, the second step succeeds wherever the first one does, with a
related result, and they leave such scenes behind. -/
def Tracks {α β : Type} (R : α → β → Prop) (x : Render α) (y : Render β) : Prop :=
  ∀ scene scene', Scene.Eases scene scene' →
    Follows (fun p q => R p.1 q.1 ∧ Scene.Eases p.2 q.2) (x.run scene) (y.run scene')

namespace Tracks
variable {α β γ δ : Type} {R : α → β → Prop} {S : γ → δ → Prop}

theorem pure {a : α} {b : β} (h : R a b) : Tracks R (Pure.pure a) (Pure.pure b) :=
  fun _ _ hscene => follows_ok_ok.2 ⟨h, hscene⟩

theorem throw (f : Fault) (y : Render β) : Tracks R (throw f : Render α) y := fun _ _ _ => follows_error _ _

theorem lift {x : Except Fault α} {y : Except Fault β} (h : Follows R x y) :
    Tracks R (liftM x : Render α) (liftM y : Render β) :=
  fun _ _ hscene => h.bind fun _ _ hab => follows_ok_ok.2 ⟨hab, hscene⟩

theorem bind {x : Render α} {y : Render β} {f : α → Render γ} {g : β → Render δ} (h : Tracks R x y)
    (hf : ∀ a b, R a b → Tracks S (f a) (g b)) : Tracks S (x >>= f) (y >>= g) := by
  intro scene scene' hscene
  rw [StateT.run_bind, StateT.run_bind]
  exact (h scene scene' hscene).bind fun _ _ ⟨hab, hscene⟩ => hf _ _ hab _ _ hscene

/-- Steps behind one and the same result. -/
theorem bind_eq {x y : Render α} {f : α → Render γ} {g : α → Render δ} (h : Tracks Eq x y)
    (hf : ∀ a, Tracks S (f a) (g a)) : Tracks S (x >>= f) (y >>= g) :=
  h.bind fun a _ hab => hab ▸ hf a

theorem ite {c : Prop} [Decidable c] {x x' : Render α} {y y' : Render β} (h : Tracks R x y) (h' : Tracks R x' y') :
    Tracks R (if c then x else x') (if c then y else y') := by
  split
  · exact h
  · exact h'

/-- Nothing is asked of what tracks a step without a result. -/
theorem dead {x : Render α} (h : Yields (fun _ => False) x) (y : Render β) : Tracks R x y := by
  intro scene _ _ p hp
  exact (h scene p.1 p.2 hp).elim

theorem mapM {f : α → Render γ} {g : β → Render δ} {xs : List α} {ys : List β} (h : List.Forall₂ R xs ys)
    (hf : ∀ a b, R a b → Tracks S (f a) (g b)) : Tracks (List.Forall₂ S) (xs.mapM f) (ys.mapM g) := by
  induction h with
  | nil => exact .pure .nil
  | cons hab _ ih =>
    rw [List.mapM_cons, List.mapM_cons]
    exact (hf _ _ hab).bind fun _ _ hc => ih.bind fun _ _ hcs => .pure (.cons hc hcs)

/-- Texts that are put out in order. -/
theorem mapM_eq {f : α → Render γ} {g : β → Render γ} {xs : List α} {ys : List β} (h : List.Forall₂ R xs ys)
    (hf : ∀ a b, R a b → Tracks Eq (f a) (g b)) : Tracks Eq (xs.mapM f) (ys.mapM g) := by
  have hmap := mapM h hf
  rwa [List.forall₂_eq_eq_eq] at hmap

theorem filterAuxM {f : α → Render Bool} {g : β → Render Bool} {xs : List α} {ys : List β}
    (h : List.Forall₂ R xs ys) (hf : ∀ a b, R a b → Tracks Eq (f a) (g b)) {kept : List α} {kept' : List β}
    (hkept : List.Forall₂ R kept kept') : Tracks (List.Forall₂ R) (xs.filterAuxM f kept) (ys.filterAuxM g kept') := by
  induction h generalizing kept kept' with
  | nil => exact .pure hkept
  | cons hab _ ih =>
    refine (hf _ _ hab).bind_eq fun c => ?_
    cases c
    · exact ih hkept
    · exact ih (.cons hab hkept)

theorem filterM {f : α → Render Bool} {g : β → Render Bool} {xs : List α} {ys : List β} (h : List.Forall₂ R xs ys)
    (hf : ∀ a b, R a b → Tracks Eq (f a) (g b)) : Tracks (List.Forall₂ R) (xs.filterM f) (ys.filterM g) :=
  (filterAuxM h hf .nil).bind fun _ _ hkept => .pure (List.rel_reverse hkept)

/-- A look at the scene, and a step that depends on it. -/
theorem look {f : Scene → Render α} {g : Scene → Render β}
    (h : ∀ scene scene', Scene.Eases scene scene' → Tracks R (f scene) (g scene')) :
    Tracks R (get >>= f) (get >>= g) :=
  fun scene scene' hscene => h scene scene' hscene scene scene' hscene

/-- A change of the scene. -/
theorem change {f g : Scene → Scene} (h : ∀ scene scene', Scene.Eases scene scene' → Scene.Eases (f scene) (g scene')) :
    Tracks Eq (modify f : Render Unit) (modify g) :=
  fun scene scene' hscene => follows_ok_ok.2 ⟨rfl, h scene scene' hscene⟩

/-- A new scene. -/
theorem replace {x y : Scene} (h : Scene.Eases x y) : Tracks Eq (set x : Render Unit) (set y) :=
  fun _ _ _ => follows_ok_ok.2 ⟨rfl, h⟩

/-! ### Names and frames -/

variable {v w : Value}

theorem bindName (n : Text) (h : Eases v w) : Tracks Eq (Template.bindName n v) (Template.bindName n w) :=
  .change fun _ _ hscene => hscene.bind n h

theorem fetch {s t : Surroundings} (hst : s.Paired t) (names : List Text) :
    Tracks Eq (Template.fetch s names) (Template.fetch t names) :=
  .change fun _ _ hscene => hscene.foldl_fetch hst names

mutual

theorem bindTarget {v w : Value} (h : Eases v w) (e : Expr) :
    Tracks Eq (Template.bindTarget v e) (Template.bindTarget w e) := by
  cases e with
  | name n =>
    rw [Template.bindTarget, Template.bindTarget]
    exact .bindName n h
  | namespaceRef n p =>
    rw [Template.bindTarget, Template.bindTarget]
    refine .look fun scene scene' hscene => ?_
    have hassign := follows_assignProperty hscene.scopes n p h
    cases hx : assignProperty n p v scene.scopes with
    | error f => exact .throw _ _
    | ok scopes =>
      obtain ⟨scopes', hy, hscopes⟩ := hassign scopes hx
      simp only [hy]
      exact .replace ⟨hscopes, hscene.callables⟩
  | tuple items =>
    simp only [Template.bindTarget]
    refine (Tracks.lift (follows_iterateOr _ _ h)).bind fun vs ws hvs => ?_
    rw [hvs.length_eq]
    exact .ite (.throw _ _) (.ite (.throw _ _) (bindTargets hvs items))
  | _ =>
    rw [Template.bindTarget, Template.bindTarget]
    · exact .pure rfl
    all_goals nofun

theorem bindTargets {vs ws : List Value} (h : List.Forall₂ Eases vs ws) (es : List Expr) :
    Tracks Eq (Template.bindTargets vs es) (Template.bindTargets ws es) := by
  cases es with
  | nil =>
    rw [Template.bindTargets, Template.bindTargets]
    exact .pure rfl
  | cons e es =>
    rw [Template.bindTargets, Template.bindTargets]
    refine .bind_eq (bindTarget ?_ e) fun _ => bindTargets (List.forall₂_drop 1 h) es
    cases h with
    | nil => exact .same _
    | cons hv _ => exact hv

end

theorem inFrame {s t : Surroundings} (hst : s.Paired t) (outside : List Text) {x : Render α} {y : Render β}
    (h : Tracks R x y) : Tracks R (Template.inFrame s outside x) (Template.inFrame t outside y) := by
  refine .bind_eq (.change fun _ _ hscene => ⟨.cons .nil hscene.scopes, hscene.callables⟩) fun _ => ?_
  refine .bind_eq (.fetch hst outside) fun _ => .bind h fun a b hab => ?_
  refine .bind_eq (.change fun _ _ hscene => ⟨?_, hscene.callables⟩) fun _ => .pure hab
  exact List.forall₂_drop 1 hscene.scopes

theorem inOuterFrame {s t : Surroundings} (hst : s.Paired t) (depth : Nat) {names names' : Scope}
    (hnames : List.Forall₂ EasesUnder names names') (outside : List Text) {x : Render α} {y : Render β}
    (h : Tracks R x y) :
    Tracks R (Template.inOuterFrame s depth names outside x) (Template.inOuterFrame t depth names' outside y) := by
  refine .look fun scene scene' hscene => ?_
  have hlength := hscene.scopes.length_eq
  refine .bind_eq (.change fun _ _ hnow => ⟨.cons hnames ?_, hnow.callables⟩) fun _ => ?_
  · rw [hlength]
    exact List.forall₂_drop _ hscene.scopes
  refine .bind_eq (.fetch hst outside) fun _ => .bind h fun a b hab => ?_
  refine .bind_eq (.change fun _ _ hnow => ⟨?_, hnow.callables⟩) fun _ => .pure hab
  rw [hlength]
  exact List.rel_append (List.forall₂_take _ hscene.scopes) (List.forall₂_drop 1 hnow.scopes)

end Tracks

end Rulebook.Template
