import Rulebook.Proofs.Template.Interpolation
import Mathlib.Data.List.Induction

/-!
# Rendering a path

A template that is nothing but the placeholder of a path walks the properties of a name one after the other, and puts out
the text of what it comes to.
-/

namespace Rulebook.Template
open Text

/-! ### The text of a path -/

section text
variable {n : Text} {ns : List Text}

theorem sign_of_mem_dotted (hn : AsciiName n) (hns : ∀ m ∈ ns, AsciiName m) {c : CodePoint} (hc : c ∈ dotted n ns) :
    isNameSign c = true ∨ c = 0x2e := by
  rcases List.mem_append.1 hc with hc | hc
  · exact .inl (hn.sign c hc)
  · obtain ⟨m, hm, hc⟩ := List.mem_flatMap.1 hc
    rcases List.mem_cons.1 hc with rfl | hc
    · exact .inr rfl
    · exact .inl ((hns m hm).sign c hc)

theorem not_isSpace_dotted (hn : AsciiName n) (hns : ∀ m ∈ ns, AsciiName m) : ∀ c ∈ dotted n ns, isSpace c = false := by
  intro c hc
  rcases sign_of_mem_dotted hn hns hc with hsign | rfl
  · exact (tables_of_isNameSign c (lt_of_isNameSign hsign) hsign).2.2.1
  · decide

theorem dotted_ne_nil (hn : AsciiName n) : dotted n ns ≠ [] := List.append_ne_nil_of_left_ne_nil hn.ne_nil _

theorem length_le_length_dotted (n : Text) (ns : List Text) : ns.length ≤ (dotted n ns).length := by
  induction ns generalizing n with
  | nil => exact Nat.zero_le _
  | cons m ns ih =>
    have hrest := ih m
    rw [dotted_cons, List.length_append, List.length_cons, List.length_cons]
    omega

theorem toTemplate_dotted (hn : AsciiName n) (hns : ∀ m ∈ ns, AsciiName m) :
    toTemplate (variableToken (dotted n ns)) = placeholder (dotted n ns) :=
  toTemplate_variableToken (dotted_ne_nil hn) (not_isSpace_dotted hn hns)

end text

/-! ### Reading -/

section read
variable {n : Text} (hn : PlainName n) {ns : List Text} (hns : ∀ m ∈ ns, AsciiName m)
include hn hns

theorem lex_dotted :
    lex (placeholder (dotted n ns)) =
      ⟨⟨.variableBegin, 1⟩ :: ⟨.name n, 1⟩ :: (dotTokens 1 ns ++ [⟨.variableEnd, 1⟩]), none, 1⟩ := by
  have hnothing : Verbatim [] := by simp [Verbatim]
  have hline : ∀ c, c = 10 ∨ c = 13 → c ∉ placeholder (dotted n ns) := by
    intro c hc hmem
    have hpath : c ∉ dotted n ns := by
      intro hmem
      have hspace := not_isSpace_dotted hn.toAsciiName hns c hmem
      rcases hc with rfl | rfl <;> revert hspace <;> decide
    rw [placeholder_eq] at hmem
    rcases hc with rfl | rfl <;> simp [hpath] at hmem
  have hlength : ns.length + 6 ≤ (placeholder (dotted n ns)).length := by
    have hpath := length_le_length_dotted n ns
    rw [placeholder_eq]
    simp only [List.length_cons, List.length_append, List.length_nil]
    omega
  obtain ⟨k, hk⟩ := Nat.exists_eq_add_of_le (show 2 * ns.length + 6 ≤ 2 * (placeholder (dotted n ns)).length + 2 by omega)
  have hfuel : 2 * (placeholder (dotted n ns)).length + 2 = k + 1 + 2 * ns.length + 5 := by omega
  obtain ⟨place, before, hlex⟩ := lexLoop_placeholder hnothing hn.toAsciiName ns hns (k + 1) 0 1 0 [] []
  rw [List.nil_append, List.append_nil] at hlex
  rw [lex, dropLastLineFeed_unifyLines (hline 10 (.inl rfl)) (hline 13 (.inr rfl)), hfuel, hlex, lexLoop_tail hnothing]
  simp [dataToken]

/-- The placeholder of a path is one statement that puts out the path. -/
theorem read_dotted : Template.read (placeholder (dotted n ns)) = .ok [.output [.expr (dottedExpr n ns)]] := by
  have hbody := run_readBody_placeholder hn ns []
    (s := ⟨⟨.variableBegin, 1⟩ :: ⟨.name n, 1⟩ :: (dotTokens 1 ns ++ [⟨.variableEnd, 1⟩]), none, 1, [], []⟩) rfl rfl
  simp only [Template.read, lex_dotted hn hns]
  rw [hbody, run_readBody_stop rfl]
  rfl

end read

/-! ### Preparation -/

section prepare
variable (n : Text) (ns : List Text)

theorem names_dottedExpr : (dottedExpr n ns).names = [n] := by
  induction ns using List.reverseRecOn with
  | nil => rfl
  | append_singleton ns m ih => rw [dottedExpr_append, Expr.names, ih]

theorem offence?_dottedExpr : ∀ u ∈ (dottedExpr n ns).uses, u.offence? = none := by
  induction ns using List.reverseRecOn with
  | nil => nofun
  | append_singleton ns m ih =>
    rw [dottedExpr_append]
    exact List.forall_mem_cons.2 ⟨rfl, ih⟩

theorem constant?_dottedExpr (strict : Bool) : (dottedExpr n ns).constant? strict = .ok none := by
  induction ns using List.reverseRecOn with
  | nil => simp [Expr.constant?]
  | append_singleton ns m ih => simp [dottedExpr_append, Expr.constant?, ih, Known.andThen, Known.orLater]

theorem fold_dottedExpr (strict : Bool) : (dottedExpr n ns).fold strict = .ok (dottedExpr n ns) := by
  induction ns using List.reverseRecOn with
  | nil => simp [Expr.fold]
  | append_singleton ns m ih =>
    have hconstant := constant?_dottedExpr n (ns ++ [m]) strict
    rw [dottedExpr_append] at hconstant ⊢
    simp [Expr.fold, ih, settle, hconstant]

theorem check_dottedExpr (soft : Bool) : (dottedExpr n ns).check soft = .ok () := by
  induction ns using List.reverseRecOn with
  | nil => simp [Expr.check]
  | append_singleton ns m ih => rw [dottedExpr_append, Expr.check, ih]

theorem prepare_dottedExpr (strict soft : Bool) : (dottedExpr n ns).prepare strict soft = .ok (dottedExpr n ns) := by
  have hfold := fold_dottedExpr n ns strict
  have hcheck := check_dottedExpr n ns soft
  cases ns using List.reverseRecOn with
  | nil => simp [Expr.prepare, Expr.fold, Expr.check]
  | append_singleton ns m =>
    rw [dottedExpr_append] at hfold hcheck ⊢
    simp [Expr.prepare, hfold, hcheck]

end prepare

/-! ### Rendering -/

/-- The properties of a value by names one after the other. -/
def walk (strict : Bool) (v : Value) (ns : List Text) : Except Fault Value := ns.foldlM (getProperty strict) v

theorem run_evaluate_dotted (s : Surroundings) (scene : Scene) (n : Text) (ns : List Text) {fuel : Nat}
    (hfuel : ns.length < fuel) :
    (evaluate s fuel (dottedExpr n ns)).run scene =
      (walk s.strict (scene.lookup s.strict n) ns).map fun v => (v, scene) := by
  induction ns using List.reverseRecOn generalizing fuel with
  | nil =>
    obtain ⟨k, rfl⟩ := Nat.exists_eq_add_one.2 hfuel
    simp [evaluate, walk]
    rfl
  | append_singleton ns m ih =>
    obtain ⟨k, rfl⟩ := Nat.exists_eq_add_one.2 (Nat.zero_lt_of_lt hfuel)
    have hlength : ns.length < k := by simpa using hfuel
    rw [dottedExpr_append]
    simp only [evaluate, StateT.run_bind, ih hlength, walk, List.foldlM_append, List.foldlM_cons, List.foldlM_nil]
    cases ns.foldlM (getProperty s.strict) (scene.lookup s.strict n) with
    | error f => rfl
    | ok v =>
      simp only [Except.map, ok_bind]
      cases getProperty s.strict v m <;> rfl

/-- The value of a name from outside, or something undefined. -/
def Surroundings.valueOf (s : Surroundings) (n : Text) : Value :=
  (s.value? n).getD (undefinedOf s.strict (display n ++ " is undefined"))

/-- The text of a path: that of what the walk from the value of its name comes to. -/
theorem renderTemplate_dotted {n : Text} (hn : PlainName n) {ns : List Text} (hns : ∀ m ∈ ns, AsciiName m)
    {bindings : Value} {entries : List (Value × Value)} (hentries : renderVariables bindings = .ok entries)
    (policy : UndefinedPolicy) :
    renderTemplate policy (placeholder (dotted n ns)) bindings =
      walk (policy == .strict) ((⟨policy == .strict, entries, []⟩ : Surroundings).valueOf n) ns >>= printed := by
  have hnames : pieceNames [.expr (dottedExpr n ns)] = [n] := by simp [pieceNames, names_dottedExpr]
  have hself : ("self" : Text) ∉ pieceNames [.expr (dottedExpr n ns)] := by
    rw [hnames, List.mem_singleton]
    rintro rfl
    exact hn.free (by simp [reservedWords])
  obtain ⟨outside, hprepare, houtside⟩ := prepare_output (policy == .strict) hself
    (by simp [Piece.known, constant?_dottedExpr]) (by simp [Piece.prepare, prepare_dottedExpr])
  have hcompile := compile_output hprepare (by simpa [Piece.uses] using offence?_dottedExpr n ns)
  obtain ⟨scene, hscene, hrender⟩ := render_output (policy == .strict)
    (3997 + 4 * (placeholder (dotted n ns)).length) houtside entries
  have hdepth : 4000 + 4 * (placeholder (dotted n ns)).length = 3997 + 4 * (placeholder (dotted n ns)).length + 3 := by omega
  have hlength : ns.length < 3997 + 4 * (placeholder (dotted n ns)).length + 1 := by
    have hpath := length_le_length_dotted n ns
    rw [placeholder_eq]
    simp only [List.length_cons, List.length_append]
    omega
  have hlookup : scene.lookup (policy == .strict) n =
      (⟨policy == .strict, entries, []⟩ : Surroundings).valueOf n := by
    rw [Scene.lookup, hscene n (by rw [hnames]; exact List.mem_singleton_self n)]
    rfl
  have hvalue := run_evaluate_dotted ⟨policy == .strict, entries, []⟩ scene n ns hlength
  rw [hlookup] at hvalue
  simp only [renderTemplate, read_dotted hn hns, hcompile, hentries, ok_bind, hdepth, hrender, List.mapM_cons, List.mapM_nil,
    pieceText, StateT.run_bind, hvalue]
  cases walk (policy == .strict) ((⟨policy == .strict, entries, []⟩ : Surroundings).valueOf n) ns with
  | error f => rfl
  | ok v =>
    simp only [Except.map, ok_bind]
    cases hprinted : printed v with
    | error f => rfl
    | ok t => exact congrArg Except.ok (List.append_nil t)

end Rulebook.Template
