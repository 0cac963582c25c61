import Rulebook.Proofs.Outcome
import Rulebook.Proofs.Text.Order
import Rulebook.Template.Interpolation

/-!
# The names of a rule

A rule whose names can be read has well-formed references only, and reports the names of each.
-/

namespace Rulebook
open Template

/-- A template that is compiled is prepared, and none of its bodies is refused. -/
theorem compile_eq_ok_iff {strict : Bool} {statements : List Stmt} {p : Prepared} :
    compile strict statements = .ok p ↔ prepare strict statements = .ok p ∧ p.compile = .ok () := by
  simp only [compile, bind_eq_ok_iff, pure_eq_ok, Except.ok.injEq]
  constructor
  · rintro ⟨p, hp, ⟨⟩, hcompile, rfl⟩
    exact ⟨hp, hcompile⟩
  · rintro ⟨hp, hcompile⟩
    exact ⟨p, hp, (), hcompile, rfl⟩

/-- The names of a template that is well formed are those of the analysis. -/
theorem templateNames_eq_ok_iff {source : Text} {names : List Text} :
    templateNames source = .ok names ↔ ∃ statements p, Template.read source = .ok statements ∧
      prepare false statements = .ok p ∧ names = undeclaredNames statements := by
  simp only [templateNames, bind_eq_ok_iff, pure_eq_ok, Except.ok.injEq]
  constructor
  · rintro ⟨statements, hread, p, hp, rfl⟩
    exact ⟨statements, p, hread, hp, rfl⟩
  · rintro ⟨statements, p, hread, hp, rfl⟩
    exact ⟨statements, hread, p, hp, rfl⟩

theorem tokenVariables_eq_ok_iff {token : Text} (href : isReference token = true) {names : List Text} :
    tokenVariables token = .ok names ↔ templateNames (toTemplate token) = .ok names := by
  rw [tokenVariables, if_pos href]
  cases templateNames (toTemplate token) with
  | error f =>
    dsimp only
    split <;> simp
  | ok ns => simp

/-- The names of a rule hold those of each token. -/
theorem exists_tokenVariables {r : Rule} {names : List Text} (h : r.variablesUsed = .ok names) {token : Text}
    (htoken : token ∈ r.tokens) : ∃ ns, tokenVariables token = .ok ns ∧ ns ⊆ names := by
  simp only [Rule.variablesUsed, bind_eq_ok_iff, pure_eq_ok, Except.ok.injEq] at h
  obtain ⟨nss, hnss, rfl⟩ := h
  obtain ⟨ns, hns, htoken⟩ := exists_mem_of_mapM_eq_ok hnss htoken
  refine ⟨ns, htoken, fun n hn => ?_⟩
  rw [Text.mem_sorted, Text.mem_distinct]
  exact List.mem_flatten.2 ⟨ns, hns, hn⟩

/-- A reference of a rule whose names can be read is a template that reads and prepares, and its names are among
those of the rule. -/
theorem exists_statements_of_variablesUsed {r : Rule} {names : List Text} (h : r.variablesUsed = .ok names)
    {token : Text} (htoken : token ∈ r.tokens) (href : isReference token = true) :
    ∃ statements p, Template.read (toTemplate token) = .ok statements ∧ prepare false statements = .ok p ∧
      undeclaredNames statements ⊆ names := by
  obtain ⟨ns, hns, hsubset⟩ := exists_tokenVariables h htoken
  obtain ⟨statements, p, hread, hp, rfl⟩ := templateNames_eq_ok_iff.1 ((tokenVariables_eq_ok_iff href).1 hns)
  exact ⟨statements, p, hread, hp, hsubset⟩

end Rulebook
