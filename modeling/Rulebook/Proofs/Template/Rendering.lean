import Rulebook.Proofs.Template.Outline
import Rulebook.Template.Program
import Rulebook.Template.Render

/-!
# Rendering references

A template of references takes its names from outside, and puts out for each what stands for its value there: the
text of the value, or nothing, or a fault, where no value is known.
-/

namespace Rulebook.Template
open Text

/-! ### The names from outside -/

/-- The names that pieces of output look up. -/
def pieceNames (ps : List Piece) : List Text := ps.flatMap fun p => match p with | .data _ => [] | .expr e => e.names

theorem mentionsAll_output (ps : List Piece) : mentionsAll [.output ps] = loads (pieceNames ps) := by
  simp only [mentionsAll, Stmt.mentions, List.append_nil]
  rfl

theorem analyseAll_output (f : Frame) (ps : List Piece) : analyseAll f [.output ps] = f.mentions (loads (pieceNames ps)) := by
  simp only [analyseAll, Stmt.analyse]
  rfl

/-- The names that the pieces of a template of references look up are those of the references. -/
theorem pieceNames_pieces (references : List (Text × Text)) (tail : Text) :
    pieceNames (pieces references tail) = references.map (·.2) := by
  have hpieces : ∀ d, pieceNames (dataPieces d) = [] := by
    intro d
    cases d <;> rfl
  induction references with
  | nil => simpa [pieces] using hpieces tail
  | cons r references ih =>
    simp only [pieceNames] at hpieces ih ⊢
    simp [pieces_cons, hpieces, Expr.names, ih]

/-- No frame is around, and all names of the frame come from outside. -/
structure Frame.Outermost (f : Frame) : Prop where
  outer : f.outer = []
  known : ∀ k ∈ f.known, k.2 = true

theorem Frame.Outermost.mem_fromOutside {f : Frame} (h : f.Outermost) {n : Text} :
    n ∈ f.fromOutside ↔ f.hasOwn n = true := by
  simp only [fromOutside, hasOwn, List.mem_map, List.mem_filter, List.any_eq_true, same_iff]
  constructor
  · rintro ⟨k, ⟨hk, -⟩, rfl⟩
    exact ⟨k, hk, rfl⟩
  · rintro ⟨k, hk, rfl⟩
    exact ⟨k, ⟨hk, h.known k hk⟩, rfl⟩

/-- A look-up of a name adds it to the names from outside. -/
theorem Frame.Outermost.load {f : Frame} (h : f.Outermost) (n : Text) :
    (f.load n).Outermost ∧ ∀ m, m ∈ (f.load n).fromOutside ↔ m ∈ f.fromOutside ∨ m = n := by
  by_cases hn : f.hasOwn n = true
  · have hload : f.load n = f := by simp [Frame.load, hn]
    rw [hload]
    refine ⟨h, fun m => ⟨.inl, ?_⟩⟩
    rintro (hm | rfl)
    · exact hm
    · exact h.mem_fromOutside.2 hn
  · have hload : f.load n = { f with known := f.known ++ [(n, true)] } := by simp [Frame.load, Frame.put, hn, h.outer]
    rw [hload]
    refine ⟨⟨h.outer, fun k hk => ?_⟩, fun m => ?_⟩
    · rcases List.mem_append.1 hk with hk | hk
      · exact h.known k hk
      · rw [List.mem_singleton.1 hk]
    · simp [Frame.fromOutside]

theorem Frame.Outermost.mentions {f : Frame} (h : f.Outermost) (names : List Text) :
    ∀ m, m ∈ (f.mentions (loads names)).fromOutside ↔ m ∈ f.fromOutside ∨ m ∈ names := by
  induction names generalizing f with
  | nil => simp [loads, Frame.mentions]
  | cons n names ih =>
    intro m
    have hstep : f.mentions (loads (n :: names)) = (f.load n).mentions (loads names) := rfl
    rw [hstep, ih (h.load n).1, (h.load n).2, List.mem_cons, or_assoc]

theorem isFree_loads {n : Text} {names : List Text} (h : n ∉ names) : isFree n (loads names) = false := by
  induction names with
  | nil => rfl
  | cons m names ih =>
    rw [List.mem_cons, not_or] at h
    have hm : same m n = false := by
      rw [Bool.eq_false_iff, ne_eq, same_iff]
      exact Ne.symm h.1
    have hrest := ih h.2
    simp only [loads] at hrest
    simp [loads, isFree, hm, hrest]

/-- The body of a template that only puts out pieces takes their names from outside. -/
theorem templateBody_output {ps : List Piece} (hself : ("self" : Text) ∉ pieceNames ps) :
    ∃ outside, templateBody [.output ps] = ⟨[], outside, [.output ps]⟩ ∧ ∀ n, n ∈ outside ↔ n ∈ pieceNames ps := by
  have hfree : isFree "self" (mentionsAll [.output ps]) = false := by
    rw [mentionsAll_output, isFree_loads hself]
  refine ⟨((Frame.inside []).mentions (loads (pieceNames ps))).fromOutside, ?_, fun n => ?_⟩
  · have hnothing : (Frame.inside []).mentions [] = Frame.inside [] := rfl
    simp [templateBody, resolveBody, hfree, hnothing, analyseAll_output, resolveAll, Stmt.resolve]
  · have hinside : (Frame.inside []).Outermost := ⟨rfl, by simp [Frame.inside]⟩
    rw [hinside.mentions]
    simp [Frame.inside, Frame.fromOutside]

theorem self_notMem_pieceNames {references : List (Text × Text)} {tail : Text} (h : Outlines references tail) :
    ("self" : Text) ∉ pieceNames (pieces references tail) := by
  rw [pieceNames_pieces]
  intro hmem
  obtain ⟨r, hr, hself⟩ := List.mem_map.1 hmem
  exact (h.name r hr).free (hself ▸ by simp [reservedWords])

/-- The body of a template of references takes its names from outside. -/
theorem templateBody_pieces {references : List (Text × Text)} {tail : Text} (h : Outlines references tail) :
    ∃ outside, templateBody [.output (pieces references tail)] = ⟨[], outside, [.output (pieces references tail)]⟩ ∧
      ∀ n, n ∈ outside ↔ n ∈ references.map (·.2) := by
  rw [← pieceNames_pieces references tail]
  exact templateBody_output (self_notMem_pieceNames h)

/-! ### Preparation -/

/-- A template that only puts out pieces, none of which can be prepared further, is prepared as it is. -/
theorem prepare_output (strict : Bool) {ps : List Piece} (hself : ("self" : Text) ∉ pieceNames ps)
    (hknown : ps.mapM (Piece.known strict) = .ok ps) (hprepared : ps.mapM (Piece.prepare strict false) = .ok ps) :
    ∃ outside, prepare strict [.output ps] = .ok ⟨⟨[], outside, [.output ps]⟩, []⟩ ∧
      ∀ n, n ∈ outside ↔ n ∈ pieceNames ps := by
  obtain ⟨outside, hbody, houtside⟩ := templateBody_output hself
  have hstatements : prepareAll strict false true [.output ps] = .ok [.output ps] := by
    simp [prepareAll, Stmt.prepare, hknown, hprepared]
  refine ⟨outside, ?_, houtside⟩
  simp [prepare, hbody, Body.prepare, hstatements, blockBodies, blocksAll, Stmt.blocks, checkBlockNames]

theorem mapM_pieces {f : Piece → Except Fault Piece} (hdata : ∀ d, f (.data d) = .ok (.data d))
    (hname : ∀ n, f (.expr (.name n)) = .ok (.expr (.name n))) (references : List (Text × Text)) (tail : Text) :
    (pieces references tail).mapM f = .ok (pieces references tail) := by
  have hpieces : ∀ d, (dataPieces d).mapM f = .ok (dataPieces d) := by
    intro d
    cases d <;> simp [dataPieces, hdata]
  induction references with
  | nil => simpa [pieces] using hpieces tail
  | cons r references ih => simp [pieces_cons, List.mapM_append, hpieces, hname, ih]

theorem prepare_pieces (strict : Bool) {references : List (Text × Text)} {tail : Text} (h : Outlines references tail) :
    ∃ outside, prepare strict [.output (pieces references tail)] =
        .ok ⟨⟨[], outside, [.output (pieces references tail)]⟩, []⟩ ∧
      ∀ n, n ∈ outside ↔ n ∈ references.map (·.2) := by
  have hknown : (pieces references tail).mapM (Piece.known strict) = .ok (pieces references tail) :=
    mapM_pieces (f := Piece.known strict) (fun _ => rfl) (fun _ => by simp [Piece.known, Expr.constant?]) _ _
  have hprepared : (pieces references tail).mapM (Piece.prepare strict false) = .ok (pieces references tail) :=
    mapM_pieces (f := Piece.prepare strict false) (fun _ => rfl)
      (fun _ => by simp [Piece.prepare, Expr.prepare, Expr.fold, Expr.check]) _ _
  rw [← pieceNames_pieces references tail]
  exact prepare_output strict (self_notMem_pieceNames h) hknown hprepared

/-- Pieces of which the compiler refuses none are compiled as they are prepared. -/
theorem compile_output {strict : Bool} {ps : List Piece} {outside : List Text}
    (hprepare : prepare strict [.output ps] = .ok ⟨⟨[], outside, [.output ps]⟩, []⟩)
    (huses : ∀ u ∈ ps.flatMap Piece.uses, u.offence? = none) :
    compile strict [.output ps] = .ok ⟨⟨[], outside, [.output ps]⟩, []⟩ := by
  have hoffence : (ps.flatMap Piece.uses).findSome? Use.offence? = none := List.findSome?_eq_none_iff.2 huses
  have hbody : Body.compile ⟨[], outside, [.output ps]⟩ = .ok () := by
    simp [Body.compile, usesBody, Stmt.uses, hoffence, nestingAll, Stmt.nesting]
  simp [compile, hprepare, Prepared.compile, hbody]

theorem uses_pieces (references : List (Text × Text)) (tail : Text) :
    (pieces references tail).flatMap Piece.uses = [] := by
  have hdata : ∀ d, (dataPieces d).flatMap Piece.uses = [] := by
    intro d
    cases d <;> rfl
  induction references with
  | nil => simpa [pieces] using hdata tail
  | cons r references ih =>
    rw [pieces_cons, List.flatMap_append, hdata, List.flatMap_cons, ih]
    rfl

theorem compile_pieces (strict : Bool) {references : List (Text × Text)} {tail : Text} (h : Outlines references tail) :
    ∃ outside, compile strict [.output (pieces references tail)] =
        .ok ⟨⟨[], outside, [.output (pieces references tail)]⟩, []⟩ ∧
      ∀ n, n ∈ outside ↔ n ∈ references.map (·.2) := by
  obtain ⟨outside, hprepare, houtside⟩ := prepare_pieces strict h
  exact ⟨outside, compile_output hprepare (by simp [uses_pieces]), houtside⟩

/-! ### Values from outside -/

theorem Scope.find?_bind (n m : Text) (v : Value) (scope : Scope) :
    Scope.find? m (Scope.bind n v scope) = if n = m then some v else Scope.find? m scope := by
  induction scope with
  | nil => simp [Scope.bind, Scope.find?, same_iff]
  | cons b scope ih =>
    obtain ⟨k, w⟩ := b
    by_cases hk : k = n
    · by_cases hm : n = m <;> simp [Scope.bind, Scope.find?, same_iff, hk, hm]
    · simp only [Scope.bind, same_iff, hk, if_false, Scope.find?, ih]
      by_cases hm : n = m
      · simp [← hm, hk]
      · simp [hm]

/-- A scope that has taken names from outside knows their values. -/
theorem foldl_fetch (s : Surroundings) (names : List Text) (scope : Scope) (callables : Array Callable) :
    ∃ scope', names.foldl (Scene.fetch s) ⟨[scope], callables⟩ = ⟨[scope'], callables⟩ ∧
      ∀ m, Scope.find? m scope' = (Scope.find? m scope).or (if m ∈ names then s.value? m else none) := by
  induction names generalizing scope with
  | nil => exact ⟨scope, rfl, fun m => by simp⟩
  | cons n names ih =>
    have hfind : Scene.find? ⟨[scope], callables⟩ n = Scope.find? n scope := by
      cases h : Scope.find? n scope <;> simp [Scene.find?, h]
    -- Only a name that is not known yet and has a value outside changes the scope.
    rcases hscope : Scope.find? n scope with _ | v
    · rcases hvalue : s.value? n with _ | v
      · have hfetch : Scene.fetch s ⟨[scope], callables⟩ n = ⟨[scope], callables⟩ := by
          simp [Scene.fetch, hfind, hscope, hvalue]
        obtain ⟨scope', hfold, hscope'⟩ := ih scope
        refine ⟨scope', by rw [List.foldl_cons, hfetch, hfold], fun m => ?_⟩
        rw [hscope']
        by_cases hm : m = n
        · simp [hm, hvalue]
        · simp [hm]
      · have hfetch : Scene.fetch s ⟨[scope], callables⟩ n = ⟨[scope.bind n v], callables⟩ := by
          simp [Scene.fetch, hfind, hscope, hvalue, Scene.bind]
        obtain ⟨scope', hfold, hscope'⟩ := ih (scope.bind n v)
        refine ⟨scope', by rw [List.foldl_cons, hfetch, hfold], fun m => ?_⟩
        rw [hscope', Scope.find?_bind]
        by_cases hm : n = m
        · simp [← hm, hscope, hvalue]
        · simp [hm, Ne.symm hm]
    · have hfetch : Scene.fetch s ⟨[scope], callables⟩ n = ⟨[scope], callables⟩ := by
        simp [Scene.fetch, hfind, hscope]
      obtain ⟨scope', hfold, hscope'⟩ := ih scope
      refine ⟨scope', by rw [List.foldl_cons, hfetch, hfold], fun m => ?_⟩
      rw [hscope']
      by_cases hm : m = n
      · simp [hm, hscope]
      · simp [hm]

/-- What stands for a name: the text of its value outside, or of something undefined. -/
def Surroundings.nameText (s : Surroundings) (n : Text) : Except Fault Text :=
  printed ((s.value? n).getD (undefinedOf s.strict (display n ++ " is undefined")))

/-! ### Output -/

section output
variable {s : Surroundings} {scene : Scene}

/-- The text that a piece of output puts out. -/
def pieceText (s : Surroundings) (fuel : Nat) (p : Piece) : Render Text :=
  match p with
  | .data t => return t
  | .expr e => do printed (← evaluate s fuel e)

theorem run_pieceText_name (fuel : Nat) {n : Text} (hscene : scene.find? n = s.value? n) :
    (pieceText s (fuel + 1) (.expr (.name n))).run scene = (s.nameText n).map fun t => (t, scene) := by
  have hlookup : printed (scene.lookup s.strict n) = s.nameText n := by rw [Scene.lookup, hscene]; rfl
  have hvalue : (evaluate s (fuel + 1) (.name n)).run scene = .ok (scene.lookup s.strict n, scene) := by
    simp [evaluate]
  simp only [pieceText, StateT.run_bind, hvalue, ok_bind, hlookup]
  cases s.nameText n <;> rfl

theorem run_mapM_dataPieces (fuel : Nat) (d : Text) (scene : Scene) :
    ((dataPieces d).mapM (pieceText s fuel)).run scene = .ok (if d.isEmpty then [] else [d], scene) := by
  cases d <;> simp [dataPieces, pieceText]

/-- The pieces of one reference after the other. -/
theorem run_mapM_pieces_cons (fuel : Nat) {r : Text × Text} (hscene : scene.find? r.2 = s.value? r.2)
    (references : List (Text × Text)) (tail : Text) :
    ((pieces (r :: references) tail).mapM (pieceText s (fuel + 1))).run scene = do
      let t ← s.nameText r.2
      let (ts, scene') ← ((pieces references tail).mapM (pieceText s (fuel + 1))).run scene
      return ((if r.1.isEmpty then [] else [r.1]) ++ t :: ts, scene') := by
  rw [pieces_cons, List.mapM_append, StateT.run_bind, run_mapM_dataPieces]
  simp only [ok_bind, List.mapM_cons, StateT.run_bind, run_pieceText_name fuel hscene]
  cases s.nameText r.2 with
  | error => rfl
  | ok t =>
    simp only [Except.map, ok_bind]
    cases ((pieces references tail).mapM (pieceText s (fuel + 1))).run scene <;> rfl

/-- Where each name has a text, the pieces put out the data and these texts in order. -/
theorem run_mapM_pieces {references : List (Text × Text)} (hscene : ∀ r ∈ references, scene.find? r.2 = s.value? r.2)
    {f : Text → Text} (hf : ∀ r ∈ references, s.nameText r.2 = .ok (f r.2)) (fuel : Nat) (tail : Text) :
    ∃ ts, ((pieces references tail).mapM (pieceText s (fuel + 1))).run scene = .ok (ts, scene) ∧
      ts.flatten = assemble f references tail := by
  have hdata : ∀ d : Text, (if d.isEmpty then [] else [d]).flatten = d := by
    intro d
    cases d <;> simp
  induction references with
  | nil => exact ⟨_, by simpa [pieces] using run_mapM_dataPieces (fuel + 1) tail scene, hdata tail⟩
  | cons r references ih =>
    rw [List.forall_mem_cons] at hscene hf
    obtain ⟨ts, hts, hflatten⟩ := ih hscene.2 hf.2
    refine ⟨(if r.1.isEmpty then [] else [r.1]) ++ f r.2 :: ts, ?_, ?_⟩
    · rw [run_mapM_pieces_cons fuel hscene.1, hf.1, hts]
      rfl
    · rw [List.flatten_append, hdata, List.flatten_cons, hflatten, assemble_cons]

/-- Where a name has no text, the pieces end in the fault of the first such name. -/
theorem run_mapM_pieces_of_error {references : List (Text × Text)}
    (hscene : ∀ r ∈ references, scene.find? r.2 = s.value? r.2)
    (h : ∃ r ∈ references, ∃ e, s.nameText r.2 = .error e) (fuel : Nat) (tail : Text) :
    ∃ r ∈ references, ∃ e, s.nameText r.2 = .error e ∧
      ((pieces references tail).mapM (pieceText s (fuel + 1))).run scene = .error e := by
  induction references with
  | nil =>
    obtain ⟨r, hr, -⟩ := h
    cases hr
  | cons r references ih =>
    rw [List.forall_mem_cons] at hscene
    have hstep := run_mapM_pieces_cons (s := s) fuel hscene.1 references tail
    rcases hr : s.nameText r.2 with e | t
    · refine ⟨r, List.mem_cons_self, e, hr, ?_⟩
      rw [hstep, hr]
      rfl
    · obtain ⟨r', hr', e, he⟩ := h
      have hmem : r' ∈ references := by
        rcases List.mem_cons.1 hr' with rfl | hmem
        · rw [hr] at he; cases he
        · exact hmem
      obtain ⟨q, hq, e', hq', hrun⟩ := ih hscene.2 ⟨r', hmem, e, he⟩
      refine ⟨q, List.mem_cons_of_mem r hq, e', hq', ?_⟩
      rw [hstep, hr, hrun]
      rfl

end output

/-! ### The whole template -/

theorem run_output (s : Surroundings) (fuel : Nat) (ps : List Piece) :
    runAll s (fuel + 3) [.output ps] = do return (← ps.mapM (pieceText s (fuel + 1))).flatten := by
  simp [runAll, run]
  rfl

/-- A template that only puts out pieces is rendered piece by piece with the values of its names from outside. -/
theorem render_output (strict : Bool) (depth : Nat) {outside : List Text} {ps : List Piece}
    (houtside : ∀ n, n ∈ outside ↔ n ∈ pieceNames ps) (entries : List (Value × Value)) :
    ∃ scene : Scene, (∀ n ∈ pieceNames ps, scene.find? n = (⟨strict, entries, []⟩ : Surroundings).value? n) ∧
      render strict (depth + 3) ⟨⟨[], outside, [.output ps]⟩, []⟩ entries =
        ((ps.mapM (pieceText ⟨strict, entries, []⟩ (depth + 1))).run scene).map fun p => p.1.flatten := by
  obtain ⟨scope, hfold, hscope⟩ := foldl_fetch ⟨strict, entries, []⟩ outside [] #[]
  refine ⟨⟨[scope], #[]⟩, fun n hn => ?_, ?_⟩
  · have hmem : n ∈ outside := (houtside n).2 hn
    have hvalue := hscope n
    simp only [hmem, if_true, Scope.find?, Option.none_or] at hvalue
    cases h : Scope.find? n scope <;> simp [Scene.find?, h, ← hvalue]
  · simp only [render, Body.specialScope, List.map_nil, inOuterFrame, run_output]
    simp only [StateT.run_bind, StateT.run_modify, StateT.run_get, ok_bind, pure_eq_ok]
    simp [hfold, fetch]
    cases (ps.mapM (pieceText ⟨strict, entries, []⟩ (depth + 1))).run ⟨[scope], #[]⟩ <;> rfl

end Rulebook.Template
