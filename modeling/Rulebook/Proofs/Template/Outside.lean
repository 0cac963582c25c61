import Rulebook.Proofs.Outcome
import Rulebook.Proofs.Text.Order
import Rulebook.Template.Prepared

/-!
# Names from outside

What a prepared template takes from outside is what its names were resolved to before it was prepared: the names that
the analysis reports, and names that every template knows.
-/

namespace Rulebook.Template

theorem mem_outsideNamesAll {n : Text} {ss : List Stmt} :
    n ∈ outsideNamesAll ss ↔ ∃ s ∈ ss, n ∈ s.outsideNames := by
  induction ss with
  | nil => simp [outsideNamesAll]
  | cons s ss ih => simp [outsideNamesAll, ih]

section prepare
variable {strict soft top : Bool}

mutual

/-- Preparing a statement keeps the names that its frames take from outside. -/
theorem Stmt.outsideNames_prepare {soft top : Bool} {s s' : Stmt} (h : s.prepare strict soft top = .ok s') :
    s'.outsideNames = s.outsideNames := by
  cases s with
  | output pieces =>
    simp only [Stmt.prepare, bind_eq_ok_iff, pure_eq_ok, Except.ok.injEq] at h
    obtain ⟨_, -, _, -, rfl⟩ := h
    rfl
  | assign target value =>
    simp only [Stmt.prepare, bind_eq_ok_iff, pure_eq_ok, Except.ok.injEq] at h
    obtain ⟨_, -, rfl⟩ := h
    rfl
  | assignBlock target filter outside body =>
    simp only [Stmt.prepare, bind_eq_ok_iff, pure_eq_ok, Except.ok.injEq] at h
    obtain ⟨body', hbody, _, -, rfl⟩ := h
    simp only [Stmt.outsideNames, outsideNamesAll_prepare hbody]
  | loop target iterable test recursive outside body otherwise =>
    simp only [Stmt.prepare, bind_eq_ok_iff, pure_eq_ok] at h
    obtain ⟨test', -, h⟩ := h
    split at h
    · simp at h
    · simp only [bind_eq_ok_iff, Except.ok.injEq] at h
      obtain ⟨_, -, body', hbody, otherwise', hotherwise, rfl⟩ := h
      simp only [Stmt.outsideNames, outsideNamesAll_prepare hbody, outsideNamesAll_prepare hotherwise]
  | condition test body more otherwise =>
    simp only [Stmt.prepare, bind_eq_ok_iff, pure_eq_ok, Except.ok.injEq] at h
    obtain ⟨_, -, body', hbody, more', hmore, otherwise', hotherwise, rfl⟩ := h
    simp only [Stmt.outsideNames, outsideNamesAll_prepare hbody, outsideNamesBranches_prepare hmore,
      outsideNamesAll_prepare hotherwise]
  | withNames targets values outside body =>
    simp only [Stmt.prepare, bind_eq_ok_iff, pure_eq_ok, Except.ok.injEq] at h
    obtain ⟨_, -, body', hbody, rfl⟩ := h
    simp only [Stmt.outsideNames, outsideNamesAll_prepare hbody]
  | autoescape value outside body =>
    simp only [Stmt.prepare, bind_eq_ok_iff, pure_eq_ok, Except.ok.injEq] at h
    obtain ⟨_, -, body', hbody, rfl⟩ := h
    simp only [Stmt.outsideNames, outsideNamesAll_prepare hbody]
  | block name isScoped body =>
    obtain rfl := Except.ok.inj h
    rfl
  | inherit template =>
    rw [Stmt.prepare] at h
    split at h
    · simp at h
    · simp only [bind_eq_ok_iff, pure_eq_ok, Except.ok.injEq] at h
      obtain ⟨_, -, _, -, rfl⟩ := h
      rfl
  | insert template =>
    simp only [Stmt.prepare, bind_eq_ok_iff, pure_eq_ok, Except.ok.injEq] at h
    obtain ⟨_, -, rfl⟩ := h
    rfl
  | importAs template target =>
    simp only [Stmt.prepare, bind_eq_ok_iff, pure_eq_ok, Except.ok.injEq] at h
    obtain ⟨_, -, rfl⟩ := h
    rfl
  | importNames template names =>
    simp only [Stmt.prepare, bind_eq_ok_iff, pure_eq_ok, Except.ok.injEq] at h
    obtain ⟨_, -, rfl⟩ := h
    rfl
  | define name params defaults frame body =>
    simp only [Stmt.prepare, bind_eq_ok_iff, pure_eq_ok, Except.ok.injEq] at h
    obtain ⟨-, -, _, -, body', hbody, rfl⟩ := h
    simp only [Stmt.outsideNames, outsideNamesAll_prepare hbody]
  | callBlock call params defaults frame body =>
    simp only [Stmt.prepare, bind_eq_ok_iff, pure_eq_ok, Except.ok.injEq] at h
    obtain ⟨-, -, _, -, body', hbody, _, -, rfl⟩ := h
    simp only [Stmt.outsideNames, outsideNamesAll_prepare hbody]
  | filterBlock filter outside body =>
    simp only [Stmt.prepare, bind_eq_ok_iff, pure_eq_ok, Except.ok.injEq] at h
    obtain ⟨body', hbody, _, -, rfl⟩ := h
    simp only [Stmt.outsideNames, outsideNamesAll_prepare hbody]

theorem outsideNamesAll_prepare {soft top : Bool} {ss ss' : List Stmt} (h : prepareAll strict soft top ss = .ok ss') :
    outsideNamesAll ss' = outsideNamesAll ss := by
  cases ss with
  | nil =>
    obtain rfl := Except.ok.inj h
    rfl
  | cons s ss =>
    simp only [prepareAll, bind_eq_ok_iff, pure_eq_ok, Except.ok.injEq] at h
    obtain ⟨s', hs, ss', hss, rfl⟩ := h
    simp only [outsideNamesAll, Stmt.outsideNames_prepare hs, outsideNamesAll_prepare hss]

theorem outsideNamesBranches_prepare {top : Bool} {more more' : List (Expr × List Stmt)}
    (h : prepareBranches strict top more = .ok more') : outsideNamesBranches more' = outsideNamesBranches more := by
  cases more with
  | nil =>
    obtain rfl := Except.ok.inj h
    rfl
  | cons branch more =>
    obtain ⟨test, body⟩ := branch
    simp only [prepareBranches, bind_eq_ok_iff, pure_eq_ok, Except.ok.injEq] at h
    obtain ⟨_, -, body', hbody, more', hmore, rfl⟩ := h
    simp only [outsideNamesBranches, outsideNamesAll_prepare hbody, outsideNamesBranches_prepare hmore]

end

theorem Body.names_prepare {b b' : Body} (h : b.prepare strict top = .ok b') : b'.names = b.names := by
  simp only [Body.prepare, bind_eq_ok_iff, pure_eq_ok, Except.ok.injEq] at h
  obtain ⟨statements, hstatements, rfl⟩ := h
  simp only [Body.names, outsideNamesAll_prepare hstatements]

end prepare

/-- The bodies of a prepared template. -/
def Prepared.bodies (p : Prepared) : List Body := p.body :: p.blocks.map (·.2)

/-- The bodies of a prepared template take from outside what the template takes. -/
theorem names_subset_of_mem_bodies {strict : Bool} {statements : List Stmt} {p : Prepared}
    (h : prepare strict statements = .ok p) {b : Body} (hb : b ∈ p.bodies) : b.names ⊆ namesFromOutside statements := by
  simp only [prepare, bind_eq_ok_iff, pure_eq_ok, Except.ok.injEq] at h
  obtain ⟨-, -, body, hbody, blocks, hblocks, rfl⟩ := h
  rcases List.mem_cons.1 hb with rfl | hb
  · rw [Body.names_prepare hbody]
    exact List.subset_append_left _ _
  · obtain ⟨block, hblock, rfl⟩ := List.mem_map.1 hb
    obtain ⟨i, hi⟩ := List.mem_iff_getElem?.1 hblock
    obtain ⟨source, hsource, hprepare⟩ := (forall₂_iff_getElem?.1 (mapM_eq_ok_iff.1 hblocks)).2 i block hi
    simp only [bind_eq_ok_iff, Except.ok.injEq] at hprepare
    obtain ⟨b', hb', rfl⟩ := hprepare
    rw [Body.names_prepare hb']
    refine List.Subset.trans (fun n hn => ?_) (List.subset_append_right _ _)
    exact List.mem_flatMap.2 ⟨source, List.mem_of_getElem? hsource, hn⟩

/-- The analysis reports what a template takes from outside, but for the names that every template knows. -/
theorem mem_undeclaredNames {statements : List Stmt} {n : Text} :
    n ∈ undeclaredNames statements ↔ n ∈ namesFromOutside statements ∧ n ∉ globalNames := by
  rw [undeclaredNames, Text.mem_sorted, Text.mem_distinct, List.mem_filter, Bool.not_eq_true', Bool.eq_false_iff, Ne,
    Text.any_same_iff]

end Rulebook.Template
