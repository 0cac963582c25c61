import Rulebook.Pattern.Search
import Rulebook.Proofs.Outcome

/-!
# Substitution for the matches of a pattern

A substitution passes over a text from left to right. Where the pattern matches, what `g` makes of the first group takes
the place of the match, and the passage goes on behind it; where it does not match, one code point stays.
-/

namespace Rulebook.Pattern

/-! ### The end of a match -/

/-- The state in which the goals are met, if the search comes to one. -/
def finish (s : Array CodePoint) : Nat → Config → Option Config
  | 0, _ => none
  | fuel + 1, c =>
    match c.goals with
    | [] => some c
    | _ => (c.next s).bind (finish s fuel)

theorem runConfig_eq_isSome_finish (s : Array CodePoint) (fuel : Nat) (c : Config) :
    runConfig s fuel c = (finish s fuel c).isSome := by
  induction fuel generalizing c with
  | zero => rfl
  | succ fuel ih =>
    obtain ⟨goals, place, captures, choices⟩ := c
    cases goals with
    | nil => rfl
    | cons goal goals =>
      rw [runConfig, finish]
      cases Config.next s ⟨goal :: goals, place, captures, choices⟩ with
      | none => rfl
      | some d => exact ih d

/-- The state behind the match from a place. -/
def Program.match? (p : Program) (s : Array CodePoint) (start : Nat) : Option Config :=
  finish s moveLimit ⟨[.body p.steps], start, Array.replicate p.groups none, []⟩

theorem Program.match?_eq_none_iff {p : Program} {s : Array CodePoint} {start : Nat} :
    p.match? s start = none ↔ p.matchesAt s start = false := by
  rw [matchesAt, runConfig_eq_isSome_finish, Option.isSome_eq_false_iff, Option.isNone_iff_eq_none, match?]

/-! ### Substitution -/

/-- The passage over a text from a place on, where `g` gives what stands for a match by its first group. -/
inductive Substitutes (p : Program) (g : Text → Text) (t : Text) : Nat → Text → Prop where
  | done : p.matchesAt t.toArray t.length = false → Substitutes p g t t.length []
  | keep {i : Nat} {c : CodePoint} {u : Text} : t[i]? = some c → p.matchesAt t.toArray i = false →
      Substitutes p g t (i + 1) u → Substitutes p g t i (c :: u)
  | replace {i first last : Nat} {d : Config} {u : Text} : p.match? t.toArray i = some d → i < d.place →
      captured d.captures 1 = some (first, last) → Substitutes p g t d.place u →
        Substitutes p g t i (g (t.extract first last) ++ u)

/-- What comes of a substitution is determined. -/
theorem Substitutes.unique {p : Program} {g : Text → Text} {t u v : Text} {i : Nat} (hu : Substitutes p g t i u)
    (hv : Substitutes p g t i v) : u = v := by
  induction hu generalizing v with
  | done hnone =>
    cases hv with
    | done => rfl
    | keep hc => simp at hc
    | replace hmatch => simp [Program.match?_eq_none_iff.2 hnone] at hmatch
  | keep hc hnone _ ih =>
    cases hv with
    | done => simp at hc
    | keep hd _ hv =>
      obtain rfl := Option.some.inj (hc.symm.trans hd)
      rw [ih hv]
    | replace hmatch => simp [Program.match?_eq_none_iff.2 hnone] at hmatch
  | replace hmatch _ hgroup _ ih =>
    cases hv with
    | done hnone => simp [Program.match?_eq_none_iff.2 hnone] at hmatch
    | keep _ hnone => simp [Program.match?_eq_none_iff.2 hnone] at hmatch
    | replace hmatch' _ hgroup' hv =>
      obtain rfl := Option.some.inj (hmatch.symm.trans hmatch')
      obtain ⟨rfl, rfl⟩ := Prod.mk.inj (Option.some.inj (hgroup.symm.trans hgroup'))
      rw [ih hv]

/-! ### Runs of signs -/

section Run

variable {before t : Text} {test : CharTest}

theorem testAt_append (test : CharTest) (before t : Text) :
    testAt (before ++ t).toArray test before.length = t.head?.any test.holds := by
  have hhead : (before ++ t).toArray[before.length]? = t.head? := by
    rw [List.getElem?_toArray, List.getElem?_append_right (Nat.le_refl _), Nat.sub_self, List.head?_eq_getElem?]
  rw [testAt, hhead]
  cases t <;> rfl

theorem runOf_append {count : Nat} (hcount : t.length ≤ count) :
    runOf (before ++ t).toArray test count before.length = before.length + (t.takeWhile test.holds).length := by
  induction t generalizing before count with
  | nil =>
    cases count with
    | zero => rfl
    | succ count =>
      rw [runOf, testAt_append]
      rfl
  | cons c t ih =>
    obtain ⟨count, rfl⟩ := Nat.exists_eq_add_one.2 (Nat.lt_of_lt_of_le (Nat.succ_pos _) hcount)
    rw [runOf, testAt_append]
    cases hc : test.holds c with
    | false => simp [hc]
    | true =>
      have hmore := @ih (before ++ [c]) count (Nat.le_of_succ_le_succ hcount)
      rw [List.append_assoc, List.singleton_append, List.length_append] at hmore
      simpa [hc, Nat.add_assoc, Nat.add_comm 1] using hmore

variable {s : Array CodePoint} {goals : List Goal} {place n : Nat} {captures : Captures} {choices : List Choice}

theorem repeatChar_of_none (hrun : runOf s test (s.size - place) place = place) :
    repeatChar s .greedy 1 none test goals place captures choices = resume s choices := by
  simp [repeatChar, hrun]

/-- A greedy repetition takes the whole run at first. -/
theorem exists_repeatChar (hrun : runOf s test (s.size - place) place = place + n) (hn : 0 < n) :
    ∃ shorter, repeatChar s .greedy 1 none test goals place captures choices =
      some ⟨goals, place + n, captures, shorter ++ choices⟩ := by
  have hleast : n ≠ 0 := Nat.ne_of_gt hn
  by_cases hone : n = 1
  · exact ⟨[], by simp [repeatChar, hrun, hone]⟩
  · exact ⟨[.shorter goals (place + 1) (place + n) captures], by simp [repeatChar, hrun, hone, hleast]⟩

end Run

/-! ### A sign with a run of signs behind it -/

section SignAndRun

variable {before t : Text} {c : CodePoint} {first test : CharTest}

/-- A sign, and in a group as many further signs as there are, at least one. -/
def signAndRun (first test : CharTest) : Program :=
  ⟨[.char first, .capture 1 [.repetition .greedy 1 none [.char test]]], 2⟩

/-- The tests of a program for a sign and a run, by which such a program is recognized. -/
def signAndRun? : Program → Option (CharTest × CharTest)
  | ⟨[.char first, .capture 1 [.repetition .greedy 1 none [.char test]]], 2⟩ => some (first, test)
  | _ => none

theorem eq_signAndRun {program : Program} (h : signAndRun? program = some (first, test)) :
    program = signAndRun first test := by
  unfold signAndRun? at h
  split at h
  · cases h
    rfl
  · cases h

theorem match?_signAndRun_of_first (hfirst : t.head?.any first.holds = false) :
    (signAndRun first test).match? (before ++ t).toArray before.length = none := by
  obtain ⟨fuel, hfuel⟩ : ∃ fuel, moveLimit = fuel + 1 := ⟨moveLimit - 1, rfl⟩
  have hstuck : Config.next (before ++ t).toArray
      ⟨[.body (signAndRun first test).steps], before.length, #[none, none], []⟩ = none := by
    have htest := testAt_append first before t
    rw [hfirst] at htest
    simp [signAndRun, Config.next, Step.run, htest, resume]
  rw [Program.match?, hfuel]
  exact congrArg (Option.bind · (finish _ fuel)) hstuck

/-- Behind the sign all depends on the run. -/
theorem match?_signAndRun_of_holds (hfirst : first.holds c = true) :
    ∃ fuel, (signAndRun first test).match? (before ++ c :: t).toArray before.length =
      (repeatChar (before ++ c :: t).toArray .greedy 1 none test [.close 1 (before.length + 1)] (before.length + 1)
        #[none, none] []).bind (finish (before ++ c :: t).toArray (fuel + 2)) := by
  obtain ⟨fuel, hfuel⟩ : ∃ fuel, moveLimit = fuel + 5 := ⟨moveLimit - 5, rfl⟩
  have hopen : Config.next (before ++ c :: t).toArray
      ⟨[.body (signAndRun first test).steps], before.length, #[none, none], []⟩ =
        some ⟨[.body [.capture 1 [.repetition .greedy 1 none [.char test]]]], before.length + 1, #[none, none], []⟩ := by
    have htest := testAt_append first before (c :: t)
    rw [List.head?_cons, Option.any_some, hfirst] at htest
    exact if_pos htest
  refine ⟨fuel, ?_⟩
  rw [Program.match?, hfuel]
  exact congrArg (Option.bind · (finish _ (fuel + 4))) hopen

theorem runOf_behind (before : Text) (c : CodePoint) (t : Text) (test : CharTest) :
    runOf (before ++ c :: t).toArray test ((before ++ c :: t).toArray.size - (before.length + 1)) (before.length + 1) =
      before.length + 1 + (t.takeWhile test.holds).length := by
  have hcount : t.length ≤ (before ++ c :: t).toArray.size - (before.length + 1) := by
    simp
    omega
  simpa using @runOf_append (before ++ [c]) t test _ hcount

theorem match?_signAndRun_of_none (hrun : t.takeWhile test.holds = []) :
    (signAndRun first test).match? (before ++ c :: t).toArray before.length = none := by
  cases hfirst : first.holds c with
  | false => exact match?_signAndRun_of_first hfirst
  | true =>
    have hnone := runOf_behind before c t test
    rw [hrun] at hnone
    obtain ⟨fuel, hmatch⟩ := @match?_signAndRun_of_holds before t c first test hfirst
    rw [hmatch, repeatChar_of_none hnone]
    rfl

/-- Where the sign has a run behind it, the match takes both, and the group the run. -/
theorem exists_match?_signAndRun (hfirst : first.holds c = true) (hrun : t.takeWhile test.holds ≠ []) :
    ∃ choices, (signAndRun first test).match? (before ++ c :: t).toArray before.length =
      some ⟨[], before.length + 1 + (t.takeWhile test.holds).length,
        #[none, some (before.length + 1, before.length + 1 + (t.takeWhile test.holds).length)], choices⟩ := by
  obtain ⟨fuel, hmatch⟩ := @match?_signAndRun_of_holds before t c first test hfirst
  obtain ⟨shorter, hrepeat⟩ := exists_repeatChar (runOf_behind before c t test) (List.length_pos_of_ne_nil hrun)
  rw [hmatch, hrepeat]
  exact ⟨shorter ++ [], rfl⟩

end SignAndRun

end Rulebook.Pattern
