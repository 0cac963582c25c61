import Rulebook.Proofs.Pattern.Substitution
import Rulebook.Proofs.Template.Placeholder

/-!
# Rewriting as substitution

A reference is what a pattern matches: a mark and, as a group, the signs behind it that are not white space. Rewriting puts
the placeholder for the group in the place of each match.
-/

namespace Rulebook
namespace Template
open Text

/-- The pattern of references: a mark, and as a group the signs up to the next white space, at least one. -/
def referencePattern : Text := "\\$(\\S+)"

/-- Anything but white space. -/
def wordSign : Pattern.CharTest := .set .exact [.category .space true false] false

theorem holds_wordSign (c : CodePoint) : wordSign.holds c = !isSpace c := by
  simp [wordSign, Pattern.CharTest.holds, Pattern.SetTest.holds, Pattern.Category.contains, Pattern.Folding.fold]

theorem compile_referencePattern :
    Pattern.compile referencePattern = .ok (Pattern.signAndRun (.is variableMark) wordSign) := by
  have hread : (Pattern.compile referencePattern).toOption.bind Pattern.signAndRun? = some (.is variableMark, wordSign) := by
    decide +kernel
  obtain ⟨program, hcompile, hprogram⟩ := Option.bind_eq_some_iff.1 hread
  rw [← Pattern.eq_signAndRun hprogram]
  cases hresult : Pattern.compile referencePattern with
  | error fault =>
    rw [hresult] at hcompile
    cases hcompile
  | ok result =>
    rw [hresult] at hcompile
    exact congrArg Except.ok (Option.some.inj hcompile)

variable {c : CodePoint} {t n rest : Text}

theorem takeWhile_wordSign (t : Text) : t.takeWhile wordSign.holds = t.takeWhile fun d => !isSpace d :=
  congrArg (List.takeWhile · t) (funext holds_wordSign)

/-- The pattern does not match where a sign opens no reference. -/
theorem matchesAt_of_stays (before : Text) (h : c = variableMark → EndsWord t) :
    (Pattern.signAndRun (.is variableMark) wordSign).matchesAt (before ++ c :: t).toArray before.length = false := by
  rw [← Pattern.Program.match?_eq_none_iff]
  by_cases hmark : c = variableMark
  · exact Pattern.match?_signAndRun_of_none ((takeWhile_wordSign t).trans (takeWhile_eq_nil_iff.2 (h hmark)))
  · exact Pattern.match?_signAndRun_of_first (by simpa [Pattern.CharTest.holds] using hmark)

/-- Where a reference begins the pattern matches it, with its name as the group. -/
theorem exists_match?_reference (before : Text) (hn : n ≠ []) (hspace : ∀ c ∈ n, isSpace c = false)
    (h : EndsWord rest) :
    ∃ choices, (Pattern.signAndRun (.is variableMark) wordSign).match? (before ++ (variableToken n ++ rest)).toArray
      before.length = some ⟨[], before.length + 1 + n.length,
        #[none, some (before.length + 1, before.length + 1 + n.length)], choices⟩ := by
  have hrun := (takeWhile_wordSign (n ++ rest)).trans (takeWhile_dropWhile_word hspace h).1
  have hmatch := @Pattern.exists_match?_signAndRun before (n ++ rest) variableMark (.is variableMark) wordSign
    (beq_self_eq_true _) (by rwa [hrun])
  rwa [hrun] at hmatch

theorem substitutes_toTemplate (before t : Text) :
    Pattern.Substitutes (Pattern.signAndRun (.is variableMark) wordSign) placeholder (before ++ t) before.length
      (toTemplate t) := by
  induction t using reference_induction generalizing before with
  | nil =>
    have hnone := @Pattern.match?_signAndRun_of_first before [] (.is variableMark) wordSign rfl
    rw [Pattern.Program.match?_eq_none_iff, List.append_nil] at hnone
    rw [List.append_nil]
    exact .done hnone
  | cons c t hc ih =>
    rw [toTemplate_cons hc]
    refine .keep (by simp) (matchesAt_of_stays before hc) ?_
    simpa using ih (before ++ [c])
  | reference n rest hn hspace hrest ih =>
    obtain ⟨choices, hmatch⟩ := exists_match?_reference before hn hspace hrest
    have hname : (before ++ (variableToken n ++ rest)).extract (before.length + 1) (before.length + 1 + n.length) = n := by
      simp [List.extract, variableToken, List.drop_append, List.drop_eq_nil_of_le]
    have hbehind := ih (before ++ variableToken n)
    rw [toTemplate_reference hn hspace hrest]
    have hreplace := Pattern.Substitutes.replace (g := placeholder) (u := toTemplate rest) hmatch (by simp; omega) rfl
      (by simpa [variableToken, Nat.add_assoc, Nat.add_comm 1] using hbehind)
    rwa [hname] at hreplace

end Template

open Text Template

/-- Rewriting is local to words. White space parts a text into texts that are rewritten each by itself; a word without a mark
that has something behind it stays, and of any other what is in front of the first such mark stays and all behind it goes
into one placeholder. So a text is parted at its references, no reference holds white space, and nothing around them changes.
The references are what their pattern matches. -/
theorem toTemplate_local :
    (∀ a w b, isSpace w = true → toTemplate (a ++ w :: b) = toTemplate a ++ w :: toTemplate b) ∧
      (∀ t, (∀ c ∈ t, isSpace c = false) →
        ((∀ before c after, t ≠ before ++ variableMark :: c :: after) → toTemplate t = t) ∧
          ∀ before n, t = before ++ variableMark :: n → variableMark ∉ before → n ≠ [] →
            toTemplate t = before ++ placeholder n) ∧
        (∀ t, ∃ references tail, PartedAtReferences references tail ∧ t = assemble variableToken references tail ∧
          toTemplate t = assemble placeholder references tail) ∧
          ∃ program, Pattern.compile referencePattern = .ok program ∧
            ∀ t u, Pattern.Substitutes program placeholder t 0 u ↔ toTemplate t = u := by
  refine ⟨fun a w b hw => ?_, fun t hspace => ⟨fun hnone => ?_, fun before n ht hbefore hn => ?_⟩, fun t => ?_,
    _, compile_referencePattern, fun t u => ⟨fun h => (substitutes_toTemplate [] t).unique h, ?_⟩⟩
  · have hend : EndsWord (w :: b) := endsWord_cons.2 hw
    rw [toTemplate_append a hend, toTemplate_space hw]
  · exact toTemplate_of_noReference fun before c after h => absurd h (hnone before c after)
  · subst ht
    have hname : ∀ c ∈ n, isSpace c = false := fun c hc => hspace c (by simp [hc])
    have hparted : PartedAtReferences [(before, n)] [] :=
      ⟨noReference_append_mark hbefore, hn, hname, endsWord_nil, noReference_nil⟩
    simpa [assemble, variableToken] using toTemplate_assemble hparted
  · obtain ⟨references, tail, hparted, rfl⟩ := exists_partedAtReferences t
    exact ⟨references, tail, hparted, rfl, toTemplate_assemble hparted⟩
  · rintro rfl
    exact substitutes_toTemplate [] t

/-- Marks beside each other, right before white space and at the end of a word. -/
theorem toTemplate_local_marks :
    isSpace 0x2003 = true ∧
      toTemplate (("$x$" : Text) ++ 0x2003 :: ("ab$" : Text)) = placeholder "x$" ++ 0x2003 :: ("ab$" : Text) ∧
        (∀ c ∈ ("a$$b" : Text), isSpace c = false) ∧ toTemplate "a$$b" = ("a" : Text) ++ placeholder "$b" := by
  obtain ⟨hsplit, hword, -, -⟩ := toTemplate_local
  have hmarked : toTemplate "$x$" = placeholder "x$" := (hword "$x$" (by decide)).2 [] "x$" rfl (by decide) (by decide)
  have hplain : toTemplate "ab$" = "ab$" := by
    refine (hword "ab$" (by decide)).1 fun before c after h => ?_
    rcases before with _ | ⟨_, _ | ⟨_, _ | ⟨_, before⟩⟩⟩ <;> simp [ofString, variableMark] at h
  refine ⟨by decide, ?_, by decide, (hword "a$$b" (by decide)).2 "a" "$b" rfl (by decide) (by decide)⟩
  rw [hsplit "$x$" 0x2003 "ab$" (by decide), hmarked, hplain]

end Rulebook
