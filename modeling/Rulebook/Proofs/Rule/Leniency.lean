import Rulebook.Proofs.Leniency.Rendering
import Rulebook.Proofs.Rule.Names
import Rulebook.Proofs.Rule.Reached

/-!
# Evaluation under the two policies

What a reference stands for under the strict policy it stands for under the lenient one, and a rule that holds or does
not hold under the one does so under the other. This is so for references that compile where undefined names are allowed, and
that use only what is offered and do not ask which kind of undefined value something is.
-/

namespace Rulebook
open Template

/-- A reference is neutral if its template compiles where undefined names are allowed, and uses only what is offered and
asks for no kind of undefined value. A token that is no reference is neutral. -/
structure IsNeutralToken (token : Text) : Prop where
  compiles : isReference token = true →
    ∃ statements p, Template.read (toTemplate token) = .ok statements ∧ compile false statements = .ok p
  neutral : (tokenUses token).all Use.isNeutral = true

namespace IsNeutralToken
variable {token : Text}

theorem of_plain (h : isReference token = false) : IsNeutralToken token :=
  ⟨fun href => absurd href (by simp [h]), by simp [tokenUses, h]⟩

theorem of_compiles (hcompiles : (Template.read (toTemplate token) >>= compile false).isOk = true)
    (hneutral : (tokenUses token).all Use.isNeutral = true) : IsNeutralToken token := by
  refine ⟨fun _ => ?_, hneutral⟩
  cases hread : Template.read (toTemplate token) with
  | error f => simp [hread, Except.isOk, Except.toBool] at hcompiles
  | ok statements =>
    rw [hread, ok_bind] at hcompiles
    cases hp : compile false statements with
    | error f => simp [hp, Except.isOk, Except.toBool] at hcompiles
    | ok p => exact ⟨statements, p, rfl, hp⟩

end IsNeutralToken

/-- A template that asks for no kind of undefined value, and is ready under both policies, has bodies that are paired. -/
theorem prepare_paired {statements : List Stmt} {p q : Prepared} (himpartial : Impartial (usesBody statements))
    (hp : prepare true statements = .ok p) (hq : prepare false statements = .ok q) : p.Paired q := by
  simp only [prepare, bind_eq_ok_iff, pure_eq_ok, Except.ok.injEq] at hp hq
  obtain ⟨_, -, body, hbody, blocks, hblocks, rfl⟩ := hp
  obtain ⟨_, -, body', hbody', blocks', hblocks', rfl⟩ := hq
  refine ⟨Body.paired_prepare ?_ hbody hbody', forall₂_of_mapM hblocks hblocks' fun b hb c d hc hd => ?_⟩
  · rwa [templateBody, usesBody_resolveBody]
  · simp only [bind_eq_ok_iff, Except.ok.injEq] at hc hd
    obtain ⟨c', hc', rfl⟩ := hc
    obtain ⟨d', hd', rfl⟩ := hd
    exact ⟨rfl, Body.paired_prepare (himpartial.mono (usesBody_subset_of_mem_blockBodies hb)) hc' hd'⟩

variable {token : Text} {bindings : Value}

theorem result_interpolate_eq_ok_iff (href : isReference token = true) {policy : UndefinedPolicy} {t : Text} :
    (interpolate policy token bindings).result = .ok t ↔ renderTemplate policy (toTemplate token) bindings = .ok t := by
  rw [interpolate, if_pos href]
  cases renderTemplate policy (toTemplate token) bindings with
  | ok u => simp
  | error f =>
    dsimp only
    split <;> simp [Except.bind]

/-- A neutral token stands for one text under both policies, if it stands for one under the strict policy. -/
theorem result_interpolate_empty (hneutral : IsNeutralToken token) {t : Text}
    (h : (interpolate .strict token bindings).result = .ok t) :
    (interpolate .empty token bindings).result = .ok t := by
  cases href : isReference token with
  | false => simpa [interpolate, href] using h
  | true =>
    obtain ⟨statements, q, hread, hq⟩ := hneutral.compiles href
    have himpartial := hneutral.neutral
    simp only [tokenUses, href, hread, if_true] at himpartial
    have hrender := result_interpolate_eq_ok_iff href |>.1 h
    simp only [renderTemplate, bind_eq_ok_iff] at hrender
    obtain ⟨statements', hread', p, hp, entries, hentries, ht⟩ := hrender
    obtain rfl := Except.ok.inj (hread.symm.trans hread')
    have hpaired := prepare_paired (impartial_of_neutral himpartial) (compile_eq_ok_iff.1 hp).1 (compile_eq_ok_iff.1 hq).1
    obtain ⟨_, ht', rfl⟩ := hpaired.follows_render _ entries t ht
    refine (result_interpolate_eq_ok_iff href).2 ?_
    simp only [renderTemplate, bind_eq_ok_iff]
    exact ⟨statements, hread, q, hq, entries, hentries, ht'⟩

/-- The tokens of the condition are neutral. -/
def Condition.IsNeutral (c : Condition) : Prop := ∀ token ∈ c.tokens, IsNeutralToken token

variable {limit : Int}

theorem Condition.IsNeutral.follows_holds {c : Condition} (h : c.IsNeutral) :
    Follows Eq (c.holds ⟨.strict, limit⟩ bindings).result (c.holds ⟨.empty, limit⟩ bindings).result := by
  intro b hb
  obtain ⟨field, comparand, hstrict⟩ := exists_resolves_of_holds hb
  have hempty : c.Resolves ⟨.empty, limit⟩ bindings field comparand :=
    ⟨result_interpolate_empty (h _ (by simp [Condition.tokens])) hstrict.1,
      result_interpolate_empty (h _ (by simp [Condition.tokens])) hstrict.2⟩
  refine ⟨b, ?_, rfl⟩
  rw [hempty.result_holds]
  rwa [hstrict.result_holds] at hb

/-- Conditions that are neutral, as far as an evaluation comes to them, end alike under both policies. -/
theorem follows_allHold {conditions : List Condition} (index : Nat)
    (h : ∀ before c after, conditions = before ++ c :: after →
      (∀ b ∈ before, (b.holds ⟨.strict, limit⟩ bindings).result = .ok true) → c.IsNeutral) :
    Follows Eq (allHold ⟨.strict, limit⟩ bindings index conditions).result
      (allHold ⟨.empty, limit⟩ bindings index conditions).result := by
  induction conditions generalizing index with
  | nil => exact .eq _
  | cons c rest ih =>
    intro b hb
    rw [result_allHold_cons] at hb ⊢
    obtain ⟨holds, hholds, hrest⟩ := bind_eq_ok_iff.1 hb
    obtain ⟨_, hholds', rfl⟩ := (h [] c rest rfl nofun).follows_holds holds hholds
    rw [hholds']
    cases holds with
    | false => exact ⟨b, hrest, rfl⟩
    | true =>
      refine ih (index + 1) (fun before d after hsplit hbefore => ?_) b hrest
      exact h (c :: before) d after (by rw [hsplit]; rfl) (List.forall_mem_cons.2 ⟨hholds, hbefore⟩)

end Rulebook
