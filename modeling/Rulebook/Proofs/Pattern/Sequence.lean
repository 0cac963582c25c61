import Rulebook.Pattern.Search
import Rulebook.Proofs.Pattern.Parts

/-!
# How patterns are refused

A pattern is read to its end or refused: the allowance of the reader covers every nesting. What it is refused for
is an offence with a position, a repetition that is too large, a count that is too long, or a clash of its flags.
-/

namespace Rulebook.Pattern

/-! ### Groups

What follows the head of a group, where the readers of its body move on from each state with less than `n` left. -/

section groups
variable {n fuel : Nat} {s : ReadState} (hleft : s.left < n)
  (hchoice : ∀ s', s'.left < n → ∀ verbose top, Reads s' (readChoice fuel verbose top))
  (hsequence : ∀ s', s'.left < n → ∀ verbose first done, Reads s' (readSequence fuel verbose first done))
  (opening : Nat) (verbose first : Bool) (done : List Node)
include hleft hsequence

theorem reads_closed (node : Node) : Reads s (do
    closeAt opening
    readSequence fuel verbose first (node :: done)) :=
  (reads_closeAt _).bind fun _ _ h => hsequence _ (h.left_lt hleft) _ _ _

theorem reads_conditional : Reads s (do
    let group ← readCondition
    let yes ← readSequence fuel verbose false []
    if ← accept 0x7c then
      let no ← readSequence fuel verbose false []
      if (← peek) == some [0x7c] then
        failHere "conditional backref with more than two branches" 0
      else
        closeAt opening
        readSequence fuel verbose first (.conditional group yes (some no) :: done)
    else
      closeAt opening
      readSequence fuel verbose first (.conditional group yes none :: done)) := by
  refine reads_readCondition.bind fun group _ h => ?_
  have hleft := h.left_lt hleft
  refine (hsequence _ hleft _ _ _).bind fun yes _ h => ?_
  have hleft := h.left_lt hleft
  refine (reads_accept _).bind fun other _ h => ?_
  have hleft := h.left_lt hleft
  refine Reads.ite (fun _ => ?_) fun _ => reads_closed hleft hsequence _ _ _ _ _
  refine (hsequence _ hleft _ _ _).bind fun no _ h => Reads.peek_bind ?_
  exact Reads.ite (fun _ => Reads.failHere _ _) fun _ => reads_closed (h.left_lt hleft) hsequence _ _ _ _ _

include hchoice

theorem reads_atomic : Reads s (do
    let body ← readChoice fuel verbose false
    closeAt opening
    readSequence fuel verbose first (.atomic body :: done)) :=
  (hchoice _ hleft _ _).bind fun _ _ h => reads_closed (h.left_lt hleft) hsequence _ _ _ _ _

theorem reads_group (index : Option Nat) (on off : Flags) : Reads s (do
    let body ← readChoice fuel ((verbose || on.verbose) && !off.verbose) false
    closeAt opening
    if let some group := index then closeGroup group body
    readSequence fuel verbose first (.group index on off body :: done)) := by
  refine (hchoice _ hleft _ _).bind fun body _ h => ?_
  have hleft := h.left_lt hleft
  cases index with
  | none => exact reads_closed hleft hsequence _ _ _ _ _
  | some group =>
    refine (reads_closeAt _).bind fun _ _ h => ?_
    have hleft := h.left_lt hleft
    exact (reads_closeGroup _ _).bind fun _ _ h => hsequence _ (h.left_lt hleft) _ _ _

theorem reads_look (ahead negated : Bool) (outer : Option Nat) : Reads s (do
    let body ← readChoice fuel verbose false
    if !ahead && outer.isNone then modify fun s => { s with behind := none }
    closeAt opening
    readSequence fuel verbose first (.look ahead negated body :: done)) := by
  refine (hchoice _ hleft _ _).bind fun body _ h => ?_
  have hleft := h.left_lt hleft
  refine Reads.ite (fun _ => ?_) fun _ => reads_closed hleft hsequence _ _ _ _ _
  exact (Reads.modify (by rfl)).bind fun _ _ h => reads_closed (h.left_lt hleft) hsequence _ _ _ _ _

end groups

/-! ### Nesting -/

/-- The reader of parts moves on, if the readers of what is nested in it and follows it do. -/
theorem reads_readSequence_succ {fuel : Nat} {s : ReadState} (verbose first : Bool) (done : List Node)
    (hchoice : ∀ s', s'.left < s.left → ∀ verbose top, Reads s' (readChoice fuel verbose top))
    (hsequence : ∀ s', s'.left < s.left → ∀ verbose first done, Reads s' (readSequence fuel verbose first done)) :
    Reads s (readSequence (fuel + 1) verbose first done) := by
  rw [readSequence]
  refine Reads.peek_bind_cases (Reads.pure _) fun item hitem => Reads.ite (fun _ => Reads.pure _) fun _ =>
    Reads.advance_bind fun s₁ _ hlt => ?_
  have hlt := hlt item hitem
  split
  · exact (reads_readEscape _ _).bind fun _ _ h => hsequence _ (h.left_lt hlt) _ _ _
  · refine Reads.ite (fun _ => hsequence _ hlt _ _ _) fun _ => ?_
    refine Reads.ite (fun _ => Reads.allowance_bind
      ((reads_skipLine _).bind fun _ _ h => hsequence _ (h.left_lt hlt) _ _ _)) fun _ => ?_
    refine Reads.ite (fun _ => reads_readSet.bind fun _ _ h => hsequence _ (h.left_lt hlt) _ _ _) fun _ => ?_
    refine Reads.ite (fun _ => Reads.here_bind
      ((reads_repeatLast _ _ _ _ _).bind fun _ _ h => hsequence _ (h.left_lt hlt) _ _ _)) fun _ => ?_
    refine Reads.ite (fun _ => ?_) fun _ => ?_
    · refine Reads.here_bind (reads_readCounts.bind fun counts _ h => ?_)
      have hlt := h.left_lt hlt
      split
      · exact hsequence _ hlt _ _ _
      · exact (reads_repeatLast _ _ _ _ _).bind fun _ _ h => hsequence _ (h.left_lt hlt) _ _ _
    refine Reads.ite (fun _ => hsequence _ hlt _ _ _) fun _ => ?_
    refine Reads.ite (fun _ => hsequence _ hlt _ _ _) fun _ => ?_
    refine Reads.ite (fun _ => hsequence _ hlt _ _ _) fun _ => ?_
    refine Reads.ite (fun _ => Reads.here_bind ?_) fun _ => hsequence _ hlt _ _ _
    extract_lets opening finish
    have hfinish : ∀ head s', s'.left < s.left → Reads s' (finish head) := by
      intro head s' hlt
      cases head with
      | done node => exact hsequence _ hlt _ _ _
      | global =>
        exact Reads.ite (fun _ => Reads.here_bind (Reads.failHere _ _)) fun _ =>
          Reads.get_bind (hsequence _ hlt _ _ _)
      | group capture name on off =>
        refine Reads.ite (fun _ => (reads_openGroup _).bind fun index _ h => ?_) fun _ => ?_
        · have hlt := h.left_lt hlt
          exact (Reads.pure _).bind fun _ _ h => reads_group (h.left_lt hlt) hchoice hsequence _ _ _ _ _ _ _
        · exact (Reads.pure _).bind fun _ _ h => reads_group (h.left_lt hlt) hchoice hsequence _ _ _ _ _ _ _
      | atomic => exact reads_atomic hlt hchoice hsequence _ _ _ _
      | look ahead negated =>
        refine Reads.get_bind (Reads.ite (fun _ => ?_) fun _ => reads_look hlt hchoice hsequence _ _ _ _ _ _ _)
        exact (Reads.modify (by rfl)).bind fun _ _ h => reads_look (h.left_lt hlt) hchoice hsequence _ _ _ _ _ _ _
      | conditional => exact reads_conditional hlt hsequence _ _ _ _
    refine (reads_accept _).bind fun isHead _ h => ?_
    have hlt := h.left_lt hlt
    refine Reads.ite (fun _ => (reads_readHead _).bind fun head _ h => ?_) fun _ => ?_
    · exact hfinish _ _ (h.left_lt hlt)
    · exact (Reads.pure _).bind fun head _ h => hfinish _ _ (h.left_lt hlt)
  · exact hsequence _ hlt _ _ _

/-- An allowance of two steps for each code point that is left, and some more, covers the readers that nest. -/
theorem reads_nested (fuel : Nat) :
    (∀ (s : ReadState) verbose top, 2 * s.left + 2 ≤ fuel → Reads s (readChoice fuel verbose top)) ∧
    (∀ (s : ReadState) verbose top done, 2 * s.left + 1 ≤ fuel → Reads s (readAlternatives fuel verbose top done)) ∧
    (∀ (s : ReadState) verbose first done, 2 * s.left + 1 ≤ fuel →
      Reads s (readSequence fuel verbose first done)) := by
  induction fuel with
  | zero => exact ⟨by omega, by omega, by omega⟩
  | succ fuel ih =>
    obtain ⟨hchoice, halternatives, hsequence⟩ := ih
    refine ⟨?_, ?_, ?_⟩
    · intro s verbose top hfuel
      rw [readChoice]
      refine (hsequence _ _ _ _ (by omega)).bind fun first s' h => halternatives _ _ _ _ ?_
      have := h.left_le
      omega
    · intro s verbose top done hfuel
      rw [readAlternatives]
      refine Reads.accept_bind fun b s' h hlt => Reads.ite (fun hb => ?_) fun _ => Reads.pure _
      have hlt := hlt hb
      refine Reads.get_bind ((hsequence _ _ _ _ (by omega)).bind fun next s'' h' => halternatives _ _ _ _ ?_)
      have := h'.left_le
      omega
    · intro s verbose first done hfuel
      exact reads_readSequence_succ verbose first done (fun s' h _ _ => hchoice _ _ _ (by omega))
        fun s' h _ _ _ => hsequence _ _ _ _ (by omega)

theorem reads_readTree {s : ReadState} : Reads s readTree := by
  refine reads_advance.bind fun _ s' _ => Reads.allowance_bind ?_
  have hleft : s'.left ≤ s'.cursor.chars.size := Nat.sub_le _ _
  refine ((reads_nested _).1 _ _ _ (by omega)).bind fun body _ _ => Reads.get_bind ?_
  extract_lets flags finish
  have hfinish : ∀ s, Reads s (finish PUnit.unit) := by
    intro s
    refine Reads.peek_bind (Reads.ite (fun _ => Reads.failHere _ _) fun _ => Reads.get_bind ?_)
    split
    · exact Reads.refuse (.inl rfl)
    · exact Reads.pure _
  refine Reads.ite (fun _ => ?_) fun _ => hfinish _
  exact (Reads.refuse (.inr (.inr (.inl rfl)))).bind fun _ _ _ => hfinish _

/-- Reading a pattern ends in a pattern or a refusal; the allowance of the reader is never used up. -/
theorem read_error {pattern : Text} {f : Fault} (h : read pattern = .error f) : IsRefusal f := by
  have hreads := reads_readTree (s := ⟨⟨pattern.toArray, 0, none⟩, Flags.none, #[none], [], none, []⟩) nofun
  rw [read] at h
  cases hrun : readTree.run ⟨⟨pattern.toArray, 0, none⟩, Flags.none, #[none], [], none, []⟩ with
  | ok p =>
    rw [hrun] at h
    cases h
  | error e =>
    rw [hrun] at h hreads
    cases h
    exact hreads

mutual

/-- The steps of a part are refused with an offence only. -/
theorem Node.steps_error (groups : Array (Option Width)) (flags : Flags) (n : Node) (f : Fault)
    (h : n.steps groups flags = .error f) : f.kind = .patternSyntax := by
  cases n with
  | repetition greed least most body =>
    rw [Node.steps] at h
    split at h
    · cases h; rfl
    · exact bodySteps_error groups flags body f (bind_pure_eq_error_iff.1 h)
  | group index on off body =>
    rw [Node.steps] at h
    exact bodySteps_error groups _ body f (bind_pure_eq_error_iff.1 h)
  | atomic body =>
    rw [Node.steps] at h
    exact bodySteps_error groups _ body f (bind_pure_eq_error_iff.1 h)
  | look ahead negated body =>
    cases ahead with
    | true =>
      rw [Node.steps] at h
      exact bodySteps_error groups _ body f (bind_pure_eq_error_iff.1 h)
    | false =>
      rw [Node.steps] at h
      split at h
      · cases h; rfl
      · split at h
        · cases h; rfl
        · exact bodySteps_error groups _ body f (bind_pure_eq_error_iff.1 h)
  | choice alternatives =>
    rw [Node.steps] at h
    exact choiceSteps_error groups _ alternatives f (bind_pure_eq_error_iff.1 h)
  | conditional g yes no =>
    rw [Node.steps] at h
    rcases bind_eq_error_iff.1 h with h | ⟨_, -, h⟩
    · exact bodySteps_error groups _ yes f h
    · cases no with
      | none => cases h
      | some no =>
        exact bodySteps_error groups _ no f (bind_pure_eq_error_iff.1 h)
  | _ => cases h

theorem bodySteps_error (groups : Array (Option Width)) (flags : Flags) (body : List Node) (f : Fault)
    (h : bodySteps groups flags body = .error f) : f.kind = .patternSyntax := by
  cases body with
  | nil => cases h
  | cons n rest =>
    rw [bodySteps] at h
    rcases bind_eq_error_iff.1 h with h | ⟨steps, -, h⟩
    · exact Node.steps_error groups flags n f h
    · exact bodySteps_error groups flags rest f (bind_pure_eq_error_iff.1 h)

theorem choiceSteps_error (groups : Array (Option Width)) (flags : Flags) (alternatives : List (List Node)) (f : Fault)
    (h : choiceSteps groups flags alternatives = .error f) : f.kind = .patternSyntax := by
  cases alternatives with
  | nil => cases h
  | cons body rest =>
    rw [choiceSteps] at h
    rcases bind_eq_error_iff.1 h with h | ⟨steps, -, h⟩
    · exact bodySteps_error groups flags body f h
    · exact choiceSteps_error groups flags rest f (bind_pure_eq_error_iff.1 h)

end

/-- A pattern is compiled or refused. -/
theorem compile_error {pattern : Text} {f : Fault} (h : compile pattern = .error f) : IsRefusal f := by
  rw [compile] at h
  rcases bind_eq_error_iff.1 h with h | ⟨tree, -, h⟩
  · exact read_error h
  · exact .inl (bodySteps_error _ _ _ f (bind_pure_eq_error_iff.1 h))

end Rulebook.Pattern
