import Rulebook.Proofs.Template.CallFault
import Rulebook.Proofs.Template.Outside

/-!
# Steps of rendering that agree

Two steps are alike if from every scene they have the same outcome, as long as all that can be called takes only names
of some kind from outside. They then leave such a scene behind, and fail only on values. Being alike passes through
sequences, loops and bindings.
-/

namespace Rulebook.Template

/-- The names that the body of a callable, and the frames inside it, take from outside. -/
def Callable.names (c : Callable) : List Text := c.frame.outside ++ outsideNamesAll c.body

/-- All that can be called takes only names of the kind `N` from outside. -/
def Scene.Within (N : Text → Prop) (scene : Scene) : Prop := ∀ c ∈ scene.callables, ∀ n ∈ c.names, N n

theorem Scene.Within.push {N : Text → Prop} {scene : Scene} (h : scene.Within N) {c : Callable}
    (hc : ∀ n ∈ c.names, N n) : Scene.Within N { scene with callables := scene.callables.push c } := by
  intro d hd
  rcases Array.mem_push.1 hd with hd | rfl
  · exact h d hd
  · exact hc

@[simp] theorem Scene.callables_bind (n : Text) (v : Value) (scene : Scene) :
    (scene.bind n v).callables = scene.callables := by
  unfold Scene.bind
  split <;> rfl

@[simp] theorem Scene.callables_fetch (s : Surroundings) (scene : Scene) (n : Text) :
    (scene.fetch s n).callables = scene.callables := by
  unfold Scene.fetch
  split <;> simp

theorem Scene.callables_foldl_fetch (s : Surroundings) (names : List Text) (scene : Scene) :
    (names.foldl (Scene.fetch s) scene).callables = scene.callables := by
  induction names generalizing scene with
  | nil => rfl
  | cons n names ih => rw [List.foldl_cons, ih, callables_fetch]

/-- Taking names from outside depends on the values that these names have there, and on nothing else. -/
theorem Scene.foldl_fetch_congr {s t : Surroundings} {names : List Text}
    (h : ∀ n ∈ names, s.value? n = t.value? n) (scene : Scene) :
    names.foldl (Scene.fetch s) scene = names.foldl (Scene.fetch t) scene := by
  induction names generalizing scene with
  | nil => rfl
  | cons n names ih =>
    rw [List.forall_mem_cons] at h
    have hfetch : scene.fetch s n = scene.fetch t n := by simp only [fetch, h.1]
    rw [List.foldl_cons, List.foldl_cons, hfetch, ih h.2]

/-- Two steps that agree in every scene whose callables take only names of the kind `N` from outside. -/
structure Alike (N : Text → Prop) {α : Type} (x y : Render α) : Prop where
  same : ∀ scene, scene.Within N → x.run scene = y.run scene
  within : ∀ scene a scene', scene.Within N → x.run scene = .ok (a, scene') → scene'.Within N
  fails : ∀ scene, scene.Within N → FailsOnValues (x.run scene)

namespace Alike
variable {N : Text → Prop} {α β : Type}

theorem pure (a : α) : Alike N (Pure.pure a) (Pure.pure a) where
  same _ _ := rfl
  within scene b scene' h hrun := by
    simp only [StateT.run_pure, pure_eq_ok, Except.ok.injEq, Prod.mk.injEq] at hrun
    exact hrun.2 ▸ h
  fails _ _ := failsOnValues_ok _

theorem throw {f : Fault} (h : f.AboutValues) : Alike N (throw f : Render α) (MonadExcept.throw f) where
  same _ _ := rfl
  within _ _ _ _ hrun := by cases hrun
  fails _ _ := failsOnValues_error.2 h

/-- A step that looks at values only. -/
theorem lift {x : Except Fault α} (h : FailsOnValues x) : Alike N (liftM x : Render α) (liftM x) where
  same _ _ := rfl
  within scene a scene' hscene hrun := by
    obtain ⟨_, -, hrun⟩ := bind_eq_ok_iff.1 hrun
    cases hrun
    exact hscene
  fails _ _ := .bind h fun _ => failsOnValues_ok _

theorem bind {x y : Render α} {f g : α → Render β} (hx : Alike N x y) (hf : ∀ a, Alike N (f a) (g a)) :
    Alike N (x >>= f) (y >>= g) where
  same scene h := by
    rw [StateT.run_bind, StateT.run_bind, ← hx.same scene h]
    cases hrun : x.run scene with
    | error e => rfl
    | ok p => exact (hf p.1).same p.2 (hx.within scene p.1 p.2 h hrun)
  within scene b scene' h hrun := by
    rw [StateT.run_bind] at hrun
    obtain ⟨p, hp, hrun⟩ := bind_eq_ok_iff.1 hrun
    exact (hf p.1).within p.2 b scene' (hx.within scene p.1 p.2 h hp) hrun
  fails scene h := by
    rw [StateT.run_bind]
    refine failsOnValues_bind.2 ⟨hx.fails scene h, fun p hp => ?_⟩
    exact (hf p.1).fails p.2 (hx.within scene p.1 p.2 h hp)

theorem ite {c : Prop} [Decidable c] {x y x' y' : Render α} (hx : Alike N x y) (hx' : Alike N x' y') :
    Alike N (if c then x else x') (if c then y else y') := by
  split
  · exact hx
  · exact hx'

theorem mapM {f g : α → Render β} {l : List α} (h : ∀ a ∈ l, Alike N (f a) (g a)) : Alike N (l.mapM f) (l.mapM g) := by
  induction l with
  | nil => exact .pure []
  | cons a l ih =>
    rw [List.forall_mem_cons] at h
    simp only [List.mapM_cons]
    exact .bind h.1 fun b => .bind (ih h.2) fun bs => .pure _

theorem filterAuxM {f g : α → Render Bool} (h : ∀ a, Alike N (f a) (g a)) (l kept : List α) :
    Alike N (l.filterAuxM f kept) (l.filterAuxM g kept) := by
  induction l generalizing kept with
  | nil => exact .pure kept
  | cons a l ih =>
    simp only [List.filterAuxM]
    exact .bind (h a) fun b => ih _

theorem filterM {f g : α → Render Bool} (h : ∀ a, Alike N (f a) (g a)) (l : List α) :
    Alike N (l.filterM f) (l.filterM g) :=
  .bind (filterAuxM h l []) fun kept => .pure kept.reverse

/-- A look at the scene, and a step that depends on it. -/
theorem look {f g : Scene → Render α} (h : ∀ scene, scene.Within N → Alike N (f scene) (g scene)) :
    Alike N (get >>= f) (get >>= g) where
  same scene hscene := (h scene hscene).same scene hscene
  within scene a scene' hscene := (h scene hscene).within scene a scene' hscene
  fails scene hscene := (h scene hscene).fails scene hscene

/-- A change of the scene. -/
theorem change {f g : Scene → Scene} (h : ∀ scene, f scene = g scene)
    (hcallables : ∀ scene, (f scene).callables = scene.callables) : Alike N (modify f : Render Unit) (modify g) where
  same scene _ := congrArg (fun s => Except.ok ((), s)) (h scene)
  within scene _ scene' hscene hrun := by
    cases hrun
    rw [Scene.Within, hcallables]
    exact hscene
  fails _ _ := failsOnValues_ok _

/-- A new scene. -/
theorem replace {scene : Scene} (h : scene.Within N) : Alike N (set scene : Render Unit) (set scene) where
  same _ _ := rfl
  within _ _ scene' _ hrun := by
    cases hrun
    exact h
  fails _ _ := failsOnValues_ok _

/-! ### Names -/

theorem bindName (n : Text) (v : Value) : Alike N (Template.bindName n v) (Template.bindName n v) :=
  .change (fun _ => rfl) (Scene.callables_bind n v)

mutual

theorem bindTarget (v : Value) (e : Expr) : Alike N (Template.bindTarget v e) (Template.bindTarget v e) := by
  cases e with
  | name n =>
    rw [Template.bindTarget]
    exact .bindName n v
  | namespaceRef n p =>
    rw [Template.bindTarget]
    refine .look fun scene hscene => ?_
    split
    · exact .replace hscene
    · next f hf => exact .throw (failsOnValues_assignProperty n p v scene.scopes f hf)
  | tuple items =>
    simp only [Template.bindTarget]
    refine .bind (.lift (failsOnValues_iterateOr _ v)) fun vs => ?_
    refine .ite (.throw (aboutValues_badValue _)) ?_
    refine .ite (.throw (aboutValues_badValue _)) ?_
    exact bindTargets vs items
  | _ =>
    rw [Template.bindTarget]
    · exact .pure ()
    all_goals nofun

theorem bindTargets (vs : List Value) (es : List Expr) :
    Alike N (Template.bindTargets vs es) (Template.bindTargets vs es) := by
  cases es with
  | nil =>
    rw [Template.bindTargets]
    exact .pure ()
  | cons e es =>
    rw [Template.bindTargets]
    exact .bind (bindTarget _ e) fun _ => bindTargets _ es

end

end Alike

end Rulebook.Template
