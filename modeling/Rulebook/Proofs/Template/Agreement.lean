import Rulebook.Proofs.Template.Alike

/-!
# What rendering depends on

Rendering asks for the names that the frames take from outside and for no other: it gives the same for variables that
agree on these names. What goes wrong in it is about values.
-/

namespace Rulebook.Template

/-- Surroundings that differ at most in variables that no frame takes from outside: those have the kind `N`. -/
structure Surroundings.Agree (N : Text → Prop) (s t : Surroundings) : Prop where
  strict : s.strict = t.strict
  blocks : s.blocks = t.blocks
  within : ∀ b ∈ s.blocks, ∀ n ∈ b.2.names, N n
  outside : ∀ n, N n → s.value? n = t.value? n

namespace Surroundings.Agree
variable {N : Text → Prop} {s t : Surroundings} {α : Type} {outside : List Text} {x y : Render α}

theorem fetch (h : s.Agree N t) (houtside : ∀ n ∈ outside, N n) :
    Alike N (Template.fetch s outside) (Template.fetch t outside) :=
  .change (fun _ => Scene.foldl_fetch_congr (fun n hn => h.outside n (houtside n hn)) _)
    fun _ => Scene.callables_foldl_fetch s _ _

theorem inFrame (h : s.Agree N t) (houtside : ∀ n ∈ outside, N n) (hxy : Alike N x y) :
    Alike N (Template.inFrame s outside x) (Template.inFrame t outside y) :=
  .bind (.change (fun _ => rfl) fun _ => rfl) fun _ => .bind (h.fetch houtside) fun _ => .bind hxy fun a =>
    .bind (.change (fun _ => rfl) fun _ => rfl) fun _ => .pure a

theorem inOuterFrame (h : s.Agree N t) (houtside : ∀ n ∈ outside, N n) (hxy : Alike N x y) (depth : Nat)
    (names : Scope) :
    Alike N (Template.inOuterFrame s depth names outside x) (Template.inOuterFrame t depth names outside y) :=
  .look fun _ _ => .bind (.change (fun _ => rfl) fun _ => rfl) fun _ => .bind (h.fetch houtside) fun _ =>
    .bind hxy fun a => .bind (.change (fun _ => rfl) fun _ => rfl) fun _ => .pure a

end Surroundings.Agree

/-- All that evaluates and runs agrees at one depth of calls. -/
structure AlikeAt (N : Text → Prop) (s t : Surroundings) (fuel : Nat) : Prop where
  evaluate : ∀ e, Alike N (evaluate s fuel e) (evaluate t fuel e)
  evaluateOption : ∀ e, Alike N (evaluateOption s fuel e) (evaluateOption t fuel e)
  evaluateArguments : ∀ args named rest namedRest, Alike N (evaluateArguments s fuel args named rest namedRest)
    (evaluateArguments t fuel args named rest namedRest)
  chainHolds : ∀ v rest, Alike N (chainHolds s fuel v rest) (chainHolds t fuel v rest)
  callValue : ∀ f args named, Alike N (callValue s fuel f args named) (callValue t fuel f args named)
  runAll : ∀ body, (∀ n ∈ outsideNamesAll body, N n) → Alike N (runAll s fuel body) (runAll t fuel body)
  run : ∀ stmt : Stmt, (∀ n ∈ stmt.outsideNames, N n) → Alike N (run s fuel stmt) (run t fuel stmt)
  runBranches : ∀ more otherwise, (∀ n ∈ outsideNamesBranches more, N n) → (∀ n ∈ outsideNamesAll otherwise, N n) →
    Alike N (runBranches s fuel more otherwise) (runBranches t fuel more otherwise)

namespace AlikeAt
variable {N : Text → Prop} {s t : Surroundings} {fuel : Nat}

theorem zero : AlikeAt N s t 0 where
  evaluate e := by
    simp only [Template.evaluate]
    exact .throw (by simp)
  evaluateOption e := by
    simp only [Template.evaluateOption]
    exact .throw (by simp)
  evaluateArguments args named rest namedRest := by
    simp only [Template.evaluateArguments]
    exact .throw (by simp)
  chainHolds v rest := by
    simp only [Template.chainHolds]
    exact .throw (by simp)
  callValue f args named := by
    simp only [Template.callValue]
    exact .throw (by simp)
  runAll body _ := by
    simp only [Template.runAll]
    exact .throw (by simp)
  run stmt _ := by
    simp only [Template.run]
    exact .throw (by simp)
  runBranches more otherwise _ _ := by
    simp only [Template.runBranches]
    exact .throw (by simp)

section succ
variable (ih : AlikeAt N s t fuel)
include ih

theorem evaluate_succ (h : s.Agree N t) (e : Expr) :
    Alike N (Template.evaluate s (fuel + 1) e) (Template.evaluate t (fuel + 1) e) := by
  cases e with
  | const v =>
    have hlift : (fun scene => (constantValue v).map (·, scene)) = (liftM (constantValue v) : Render Value) := by
      funext scene
      cases constantValue v <;> rfl
    simp only [Template.evaluate, hlift]
    exact .lift (failsOnValues_constantValue v)
  | name n =>
    simp only [Template.evaluate, h.strict]
    exact .look fun scene _ => .pure _
  | tuple items | list items =>
    simp only [Template.evaluate]
    exact .bind (.mapM fun e _ => ih.evaluate e) fun vs => .pure _
  | mapping pairs =>
    simp only [Template.evaluate]
    refine .bind (.mapM fun p _ => ?_) fun vs => .lift (failsOnValues_mappingOf vs)
    exact .bind (ih.evaluate p.1) fun k => .bind (ih.evaluate p.2) fun v => .pure (k, v)
  | unary op e =>
    simp only [Template.evaluate]
    exact .bind (ih.evaluate e) fun v => .lift (failsOnValues_unary op v)
  | arith op a b =>
    simp only [Template.evaluate]
    exact .bind (ih.evaluate a) fun v => .bind (ih.evaluate b) fun w => .lift (failsOnValues_arith op v w)
  | both a b =>
    simp only [Template.evaluate]
    exact .bind (ih.evaluate a) fun v => .bind (.lift (failsOnValues_truth v)) fun c => .ite (ih.evaluate b) (.pure v)
  | either a b =>
    simp only [Template.evaluate]
    exact .bind (ih.evaluate a) fun v => .bind (.lift (failsOnValues_truth v)) fun c => .ite (.pure v) (ih.evaluate b)
  | chain first rest =>
    simp only [Template.evaluate]
    exact .bind (ih.evaluate first) fun v => .bind (ih.chainHolds v rest) fun c => .pure _
  | concat items =>
    simp only [Template.evaluate]
    refine .bind (.mapM fun e _ => ih.evaluate e) fun vs => ?_
    exact .bind (.lift (.mapM failsOnValues_printed vs)) fun ts => .pure _
  | choice line condition value otherwise =>
    simp only [Template.evaluate]
    refine .bind (ih.evaluate condition) fun v => .bind (.lift (failsOnValues_truth v)) fun c => ?_
    refine .ite (ih.evaluate value) ?_
    cases otherwise with
    | none => exact .pure _
    | some e => exact ih.evaluate e
  | property e n =>
    simp only [Template.evaluate, h.strict]
    exact .bind (ih.evaluate e) fun v => .lift (failsOnValues_getProperty t.strict v n)
  | item e i =>
    cases i with
    | slice a b c =>
      simp only [Template.evaluate]
      refine .bind (ih.evaluate e) fun v => .bind (ih.evaluateOption a) fun a => ?_
      refine .bind (ih.evaluateOption b) fun b => .bind (ih.evaluateOption c) fun c => ?_
      exact .lift (failsOnValues_sliceValue v a b c)
    | _ =>
      simp only [Template.evaluate, h.strict]
      exact .bind (ih.evaluate e) fun v => .bind (ih.evaluate _) fun i => .lift (failsOnValues_getItem t.strict v i)
  | slice a b c =>
    simp only [Template.evaluate]
    exact .throw (by simp)
  | call f args named rest namedRest =>
    simp only [Template.evaluate]
    refine .bind (ih.evaluate f) fun f => .bind (ih.evaluateArguments args named rest namedRest) fun p => ?_
    exact .bind (.lift (failsOnValues_refuseInternal p.2)) fun _ => ih.callValue f p.1 p.2
  | ask asked target name args named rest namedRest =>
    simp only [Template.evaluate, h.strict]
    refine .bind (ih.evaluateOption target) fun v => ?_
    refine .bind (ih.evaluateArguments args named rest namedRest) fun p => ?_
    exact .ite (.lift (failsOnValues_askValue t.strict asked name v p.1 p.2)) (.throw (by simp))
  | namespaceRef n p =>
    simp only [Template.evaluate, h.strict]
    exact .look fun scene _ => .lift (failsOnValues_getProperty t.strict _ p)

theorem evaluateOption_succ (e : Option Expr) :
    Alike N (Template.evaluateOption s (fuel + 1) e) (Template.evaluateOption t (fuel + 1) e) := by
  cases e with
  | none =>
    simp only [Template.evaluateOption]
    exact .pure _
  | some e =>
    simp only [Template.evaluateOption]
    exact ih.evaluate e

theorem evaluateArguments_succ (args : List Expr) (named : List (Text × Expr)) (rest namedRest : Option Expr) :
    Alike N (Template.evaluateArguments s (fuel + 1) args named rest namedRest)
      (Template.evaluateArguments t (fuel + 1) args named rest namedRest) := by
  simp only [Template.evaluateArguments]
  refine .bind (.mapM fun e _ => ih.evaluate e) fun args => ?_
  cases rest
  case' none => refine .bind (.pure args) fun args => ?_
  case' some e => refine .bind (ih.evaluate e) fun v => .bind (.lift (failsOnValues_withRest args v)) fun args => ?_
  all_goals
    refine .bind (.mapM fun p _ => .bind (ih.evaluate p.2) fun v => .pure (p.1, v)) fun given => ?_
    cases namedRest with
    | none => exact .bind (.pure _) fun scope => .pure (args, scope)
    | some e =>
      refine .bind (ih.evaluate e) fun v => ?_
      exact .bind (.lift (failsOnValues_withNamedRest _ (bindAll given []) v)) fun scope => .pure (args, scope)

theorem chainHolds_succ (v : Value) (rest : List (Relation × Expr)) :
    Alike N (Template.chainHolds s (fuel + 1) v rest) (Template.chainHolds t (fuel + 1) v rest) := by
  cases rest with
  | nil =>
    simp only [Template.chainHolds]
    exact .pure true
  | cons p rest =>
    simp only [Template.chainHolds]
    refine .bind (ih.evaluate p.2) fun w => .bind (.lift (failsOnValues_relate p.1 v w)) fun c => ?_
    exact .ite (ih.chainHolds w rest) (.pure false)

theorem callValue_succ (h : s.Agree N t) (f : Value) (args : List Value) (named : List (Text × Value)) :
    Alike N (Template.callValue s (fuel + 1) f args named) (Template.callValue t (fuel + 1) f args named) := by
  cases f with
  | undefined u =>
    simp only [Template.callValue]
    exact .throw (aboutValues_undefined u)
  | method receiver name =>
    simp only [Template.callValue]
    exact .lift (failsOnValues_callMethod receiver name args named)
  | function name kind shown =>
    simp only [Template.callValue]
    exact .lift (failsOnValues_callGlobal name args named)
  | templateFunction i name =>
    simp only [Template.callValue, h.strict]
    refine .look fun scene hscene => ?_
    split
    · exact .pure _
    · next c hc =>
      have hnames : ∀ n ∈ c.names, N n := hscene c (Array.mem_of_getElem? hc)
      refine .bind (.lift (failsOnValues_arguments c t.strict args named)) fun p => ?_
      refine h.inOuterFrame (fun n hn => hnames n (List.mem_append_left _ hn)) ?_ c.depth p.2
      refine .bind (.mapM fun q _ => ?_) fun _ => .bind (ih.runAll c.body fun n hn => ?_) fun u => .pure _
      -- a parameter without an argument gets its default, which is evaluated inside the new frame
      · obtain ⟨⟨param, v?⟩, j⟩ := q
        cases v? with
        | some v => exact .bindName param v
        | none =>
          dsimp only
          split
          · next e _ => exact .bind (ih.evaluate e) fun v => .bindName param v
          · exact .bindName param _
      · exact hnames n (List.mem_append_right _ hn)
  | _ =>
    simp only [Template.callValue]
    exact .throw (aboutValues_ite.2 ⟨fun _ => aboutValues_leftOut _, fun _ => aboutValues_wrongType _⟩)

theorem runAll_succ (body : List Stmt) (hbody : ∀ n ∈ outsideNamesAll body, N n) :
    Alike N (Template.runAll s (fuel + 1) body) (Template.runAll t (fuel + 1) body) := by
  simp only [Template.runAll]
  refine .bind (.mapM fun stmt hstmt => ih.run stmt fun n hn => ?_) fun ts => .pure _
  exact hbody n (mem_outsideNamesAll.2 ⟨stmt, hstmt, hn⟩)

theorem runBranches_succ (more : List (Expr × List Stmt)) (otherwise : List Stmt)
    (hmore : ∀ n ∈ outsideNamesBranches more, N n) (hotherwise : ∀ n ∈ outsideNamesAll otherwise, N n) :
    Alike N (Template.runBranches s (fuel + 1) more otherwise) (Template.runBranches t (fuel + 1) more otherwise) := by
  cases more with
  | nil =>
    simp only [Template.runBranches]
    exact ih.runAll otherwise hotherwise
  | cons branch more =>
    simp only [outsideNamesBranches, List.mem_append, or_imp, forall_and] at hmore
    simp only [Template.runBranches]
    refine .bind (ih.evaluate branch.1) fun v => .bind (.lift (failsOnValues_truth v)) fun c => ?_
    exact .ite (ih.runAll branch.2 hmore.1) (ih.runBranches more otherwise hmore.2 hotherwise)

theorem run_succ (h : s.Agree N t) (stmt : Stmt) (hstmt : ∀ n ∈ stmt.outsideNames, N n) :
    Alike N (Template.run s (fuel + 1) stmt) (Template.run t (fuel + 1) stmt) := by
  cases stmt with
  | output pieces =>
    simp only [Template.run]
    refine .bind (.mapM fun p _ => ?_) fun parts => .pure _
    cases p with
    | data t => exact .pure t
    | expr e => exact .bind (ih.evaluate e) fun v => .lift (failsOnValues_printed v)
  | assign target value =>
    simp only [Template.run]
    exact .bind (ih.evaluate value) fun v => .bind (.bindTarget v target) fun _ => .pure []
  | assignBlock target filter outside body =>
    simp only [Stmt.outsideNames, List.mem_append, or_imp, forall_and] at hstmt
    simp only [Template.run]
    refine .bind (h.inFrame hstmt.1 ?_) fun v => .bind (.bindTarget v target) fun _ => .pure []
    refine .bind (ih.runAll body hstmt.2) fun u => ?_
    cases filter with
    | none => exact .pure _
    | some e => exact ih.evaluate _
  | loop target iterable test recursive outside body otherwise =>
    simp only [Stmt.outsideNames, List.mem_append, or_imp, forall_and] at hstmt
    obtain ⟨⟨⟨⟨htest, hloop⟩, hbody⟩, helse⟩, hotherwise⟩ := hstmt
    simp only [Template.run, h.strict]
    refine .bind (ih.evaluate iterable) fun v => .bind (.lift (failsOnValues_iterate v)) fun vs => ?_
    -- the test only selects items; the turns of the loop are the same with and without one
    cases test
    case' none => refine .bind (.pure vs) fun items => ?_
    case' some e =>
      refine .bind (.filterM (fun v => h.inFrame htest ?_) vs) fun items => ?_
      · exact .bind (.bindTarget v target) fun _ => .bind (ih.evaluate e) fun w => .lift (failsOnValues_truth w)
    all_goals
      refine .ite (h.inFrame helse (ih.runAll otherwise hotherwise)) ?_
      refine .bind (.mapM fun p _ => h.inFrame hloop ?_) fun parts => .pure _
      exact .bind (.bindName _ _) fun _ => .bind (.bindTarget p.1 target) fun _ => ih.runAll body hbody
  | condition test body more otherwise =>
    simp only [Stmt.outsideNames, List.mem_append, or_imp, forall_and] at hstmt
    simp only [Template.run]
    refine .bind (ih.evaluate test) fun v => .bind (.lift (failsOnValues_truth v)) fun c => ?_
    exact .ite (ih.runAll body hstmt.1.1) (ih.runBranches more otherwise hstmt.1.2 hstmt.2)
  | withNames targets values outside body =>
    simp only [Stmt.outsideNames, List.mem_append, or_imp, forall_and] at hstmt
    simp only [Template.run]
    refine .bind (.mapM fun e _ => ih.evaluate e) fun vs => h.inFrame hstmt.1 ?_
    exact .bind (.bindTargets vs targets) fun _ => ih.runAll body hstmt.2
  | autoescape value outside body =>
    simp only [Stmt.outsideNames, List.mem_append, or_imp, forall_and] at hstmt
    simp only [Template.run]
    refine h.inFrame hstmt.1 ?_
    exact .bind (ih.evaluate value) fun _ => ih.runAll body hstmt.2
  | block name isScoped body =>
    simp only [Template.run, ← h.blocks, ← h.strict]
    split
    · next body hfind =>
      have hnames : ∀ n ∈ body.names, N n := h.within _ (List.mem_of_find?_eq_some hfind)
      refine h.inOuterFrame (fun n hn => hnames n (List.mem_append_left _ hn)) ?_ 1 _
      exact ih.runAll body.statements fun n hn => hnames n (List.mem_append_right _ hn)
    · exact .pure []
  | inherit template =>
    simp only [Template.run]
    exact .bind (ih.evaluate template) fun _ => .throw (aboutValues_wrongType _)
  | insert template passing =>
    simp only [Template.run]
    exact .bind (ih.evaluate template) fun v => .ite (.pure []) (.throw (aboutValues_insertionFault v))
  | importAs template target =>
    simp only [Template.run]
    exact .bind (ih.evaluate template) fun _ => .throw (aboutValues_wrongType _)
  | importNames template names =>
    simp only [Template.run]
    exact .bind (ih.evaluate template) fun _ => .throw (aboutValues_wrongType _)
  | define name params defaults frame body =>
    simp only [Template.run]
    refine .look fun scene hscene => .bind (.replace (hscene.push hstmt)) fun _ => ?_
    exact .bind (.bindName _ _) fun _ => .pure []
  | callBlock call params defaults frame body =>
    simp only [Template.run]
    refine .look fun scene hscene => .bind (.replace (hscene.push hstmt)) fun _ => ?_
    cases call with
    | call f args named rest namedRest =>
      refine .bind (ih.evaluate f) fun f => .bind (ih.evaluateArguments args _ rest namedRest) fun p => ?_
      refine .bind (.lift (failsOnValues_refuseInternal p.2)) fun _ => ?_
      exact .bind (ih.callValue f p.1 p.2) fun v => .lift (failsOnValues_printed v)
    | _ => exact .pure []
  | filterBlock filter outside body =>
    simp only [Stmt.outsideNames, List.mem_append, or_imp, forall_and] at hstmt
    simp only [Template.run]
    refine h.inFrame hstmt.1 ?_
    exact .bind (ih.runAll body hstmt.2) fun u => .bind (ih.evaluate _) fun v => .lift (failsOnValues_printed v)

end succ

/-- Evaluation and running agree at every depth of calls. -/
theorem of_agree (h : s.Agree N t) (fuel : Nat) : AlikeAt N s t fuel := by
  induction fuel with
  | zero => exact .zero
  | succ fuel ih =>
    exact ⟨evaluate_succ ih h, evaluateOption_succ ih, evaluateArguments_succ ih, chainHolds_succ ih,
      callValue_succ ih h, runAll_succ ih, run_succ ih h, runBranches_succ ih⟩

end AlikeAt

theorem Scene.within_empty (N : Text → Prop) (scopes : List Scope) : Scene.Within N ⟨scopes, #[]⟩ := by
  simp [Scene.Within]

/-- The body of a template renders alike for variables that agree on the names that its bodies take from outside. -/
theorem Prepared.alike {N : Text → Prop} {p : Prepared} {bindings others : List (Value × Value)}
    (hnames : ∀ b ∈ p.bodies, ∀ n ∈ b.names, N n)
    (hbindings : ∀ n, N n → Value.lookupText n bindings = Value.lookupText n others) (strict : Bool) (depth : Nat)
    (special : Scope) :
    Alike N
      (inOuterFrame ⟨strict, bindings, p.blocks⟩ 0 special p.body.outside
        (runAll ⟨strict, bindings, p.blocks⟩ depth p.body.statements))
      (inOuterFrame ⟨strict, others, p.blocks⟩ 0 special p.body.outside
        (runAll ⟨strict, others, p.blocks⟩ depth p.body.statements)) := by
  have hagree : Surroundings.Agree N ⟨strict, bindings, p.blocks⟩ ⟨strict, others, p.blocks⟩ :=
    { strict := rfl
      blocks := rfl
      within := fun b hb => hnames b.2 (List.mem_cons_of_mem _ (List.mem_map_of_mem hb))
      outside := fun n hn => by simp only [Surroundings.value?, hbindings n hn] }
  have hbody : ∀ n ∈ p.body.names, N n := hnames p.body (List.mem_cons_self)
  refine hagree.inOuterFrame (fun n hn => hbody n (List.mem_append_left _ hn)) ?_ 0 special
  exact (AlikeAt.of_agree hagree depth).runAll p.body.statements fun n hn => hbody n (List.mem_append_right _ hn)

/-- Rendering depends on the names that the bodies of the template take from outside, and on no other. -/
theorem render_congr {p : Prepared} {bindings others : List (Value × Value)}
    (h : ∀ b ∈ p.bodies, ∀ n ∈ b.names, Value.lookupText n bindings = Value.lookupText n others) (strict : Bool)
    (depth : Nat) : render strict depth p bindings = render strict depth p others := by
  simp only [render, (p.alike h (fun _ => id) strict depth _).same _ (Scene.within_empty _ _)]

/-- What goes wrong in rendering is about values. -/
theorem failsOnValues_render (strict : Bool) (depth : Nat) (p : Prepared) (bindings : List (Value × Value)) :
    FailsOnValues (render strict depth p bindings) := by
  have hsame : ∀ n, True → Value.lookupText n bindings = Value.lookupText n bindings := fun _ _ => rfl
  have halike := p.alike (N := fun _ => True) (fun _ _ _ _ => trivial) hsame strict depth
    (p.body.specialScope strict [])
  simp only [render]
  exact .bind (halike.fails _ (Scene.within_empty _ _)) fun _ => failsOnValues_ok _

end Rulebook.Template
