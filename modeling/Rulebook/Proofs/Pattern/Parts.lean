import Rulebook.Proofs.Pattern.Reading

/-!
# How the parts of patterns are read

Escapes, sets, flags, repetitions, names and heads of groups: each is read by moving on, or refused.
-/

namespace Rulebook.Pattern

variable {s : ReadState}

/-! ### Escapes -/

theorem reads_readHexEscape (escape : Text) (width : Nat) : Reads s (readHexEscape escape width) := by
  refine (reads_takeWhileMost _ _ _).bind fun digits _ _ => ?_
  dsimp only
  split
  · exact Reads.failHere _ _
  · split
    · exact Reads.failHere _ _
    · exact Reads.pure _

theorem reads_readNamedEscape : Reads s readNamedEscape := by
  refine (reads_accept _).bind fun opened _ _ => ?_
  split
  · exact Reads.failHere _ _
  · refine Reads.allowance_bind ((reads_takeUntil _ _ _ _).bind fun name _ _ => ?_)
    split
    · exact Reads.pure _
    · exact Reads.failHere _ _

theorem reads_readNumericEscape? (escape : Text) (c : CodePoint) : Reads s (readNumericEscape? escape c) := by
  have hsome : ∀ {x : Reader CodePoint}, Reads s x → Reads s (x >>= fun d => pure (some d)) := fun hx =>
    hx.bind fun _ _ _ => Reads.pure _
  unfold readNumericEscape?
  split
  · exact hsome (reads_readHexEscape _ _)
  · split
    · exact hsome (reads_readHexEscape _ _)
    · split
      · exact hsome (reads_readHexEscape _ _)
      · split
        · exact hsome reads_readNamedEscape
        · exact Reads.pure _

theorem reads_readSetEscape (escape : Text) (c : CodePoint) : Reads s (readSetEscape escape c) := by
  unfold readSetEscape
  split
  · exact Reads.pure _
  · split
    · exact Reads.pure _
    · refine (reads_readNumericEscape? _ _).bind fun d _ _ => ?_
      split
      · exact Reads.pure _
      · split
        · refine (reads_takeWhileMost _ _ _).bind fun digits _ _ => ?_
          dsimp only
          split
          · exact Reads.failHere _ _
          · exact Reads.pure _
        · split
          · exact Reads.failHere _ _
          · exact Reads.pure _

theorem reads_checkBehind (group : Nat) : Reads s (checkBehind group) := by
  refine Reads.get_bind ?_
  split
  · exact Reads.pure _
  · split
    · exact Reads.failHere _ _
    · split
      · exact Reads.failHere _ _
      · exact Reads.pure _

theorem reads_referTo (written : Text) : Reads s (referTo written) := by
  refine Reads.get_bind ?_
  split
  · split
    · exact Reads.failHere _ _
    · exact (reads_checkBehind _).bind fun _ _ _ => Reads.pure _
  · exact Reads.failHere _ _

theorem reads_readDigitEscape (escape : Text) (c : CodePoint) : Reads s (readDigitEscape escape c) := by
  refine Reads.peek_bind ?_
  split
  · split
    · refine reads_advance.bind fun _ _ _ => Reads.peek_bind ?_
      split
      · split
        · refine reads_advance.bind fun _ _ _ => ?_
          dsimp only
          split
          · exact Reads.failHere _ _
          · exact Reads.pure _
        · exact reads_referTo _
      · exact reads_referTo _
    · exact reads_referTo _
  · exact reads_referTo _

theorem reads_readEscape (escape : Text) (c : CodePoint) : Reads s (readEscape escape c) := by
  unfold readEscape
  split
  · exact Reads.pure _
  · split
    · exact Reads.pure _
    · split
      · exact Reads.pure _
      · refine (reads_readNumericEscape? _ _).bind fun d _ _ => ?_
        split
        · exact Reads.pure _
        · split
          · exact (reads_takeWhileMost _ _ _).bind fun _ _ _ => Reads.pure _
          · split
            · exact reads_readDigitEscape _ _
            · split
              · exact Reads.failHere _ _
              · exact Reads.pure _

/-! ### Sets -/

theorem reads_readSetItem (item : Text) : Reads s (readSetItem item) := by
  unfold readSetItem
  split
  · exact reads_readSetEscape _ _
  · exact Reads.pure _
  · exact Reads.pure _

theorem reads_readSetItems (opening n : Nat) (done : List SetItem) : Reads s (readSetItems opening n done) := by
  induction n generalizing s done with
  | zero => exact Reads.pure _
  | succ n ih =>
    have hend : ∀ {s : ReadState}, Reads s (here >>= fun place =>
        (failHere "unterminated character set" (place - opening) : Reader (List SetItem))) := fun {s} =>
      Reads.here_bind (Reads.failHere _ _)
    refine reads_take.bind fun item _ _ => ?_
    split
    · exact hend
    · split
      · exact Reads.pure _
      · refine (reads_readSetItem _).bind fun first _ _ => (reads_accept _).bind fun ranged _ _ => ?_
        split
        · refine reads_take.bind fun last _ _ => ?_
          split
          · exact hend
          · split
            · exact Reads.pure _
            · refine (reads_readSetItem _).bind fun second _ _ => ?_
              dsimp only
              split
              · split
                · exact Reads.failHere _ _
                · exact ih _
              · exact Reads.failHere _ _
        · exact ih _

theorem reads_readSet : Reads s readSet := by
  refine Reads.here_bind ((reads_accept _).bind fun negated _ _ => Reads.allowance_bind
    ((reads_readSetItems _ _ _).bind fun items _ _ => ?_))
  dsimp only
  split <;> exact Reads.pure _

/-! ### Flags -/

theorem reads_readFlagsOn (n : Nat) (c : CodePoint) (flags : Flags) : Reads s (readFlagsOn n c flags) := by
  induction n generalizing s c flags with
  | zero => exact Reads.pure _
  | succ n ih =>
    rw [readFlagsOn]
    split
    · exact Reads.failHere _ _
    · split
      · exact Reads.failHere _ _
      · refine reads_take.bind fun item _ _ => ?_
        split
        · exact Reads.failHere _ _
        · split
          · exact Reads.pure _
          · exact Reads.pure _
          · exact Reads.pure _
          · split
            · exact ih _ _
            · exact Reads.failHere _ _

theorem reads_readFlagsOff (n : Nat) (c : CodePoint) (flags : Flags) : Reads s (readFlagsOff n c flags) := by
  induction n generalizing s c flags with
  | zero => exact Reads.pure _
  | succ n ih =>
    rw [readFlagsOff]
    split
    · exact Reads.failHere _ _
    · refine reads_take.bind fun item _ _ => ?_
      split
      · exact Reads.failHere _ _
      · split
        · exact Reads.pure _
        · split
          · exact ih _ _
          · exact Reads.failHere _ _

theorem reads_readFlags (c : CodePoint) : Reads s (readFlags c) := by
  unfold readFlags
  extract_lets finish
  have hfinish : ∀ (s : ReadState) (p : Flags × CodePoint), Reads s (finish p) := by
    rintro s ⟨on, stop⟩
    show Reads s (ite _ _ _)
    split
    · exact (Reads.modify rfl).bind fun _ _ _ => Reads.pure _
    · split
      · exact Reads.failHere _ _
      · split
        · refine reads_take.bind fun item _ _ => ?_
          split
          · exact Reads.failHere _ _
          · split
            · exact Reads.failHere _ _
            · refine Reads.allowance_bind ((reads_readFlagsOff _ _ _).bind fun off _ _ => ?_)
              split
              · exact Reads.failHere _ _
              · split
                · exact Reads.failHere _ _
                · exact Reads.pure _
        · exact Reads.pure _
  split
  · exact (Reads.pure _).bind fun _ _ _ => hfinish _ _
  · exact Reads.allowance_bind ((reads_readFlagsOn _ _ _).bind fun _ _ _ => hfinish _ _)

/-! ### Repetitions -/

theorem reads_skipLine (n : Nat) : Reads s (skipLine n) := by
  induction n generalizing s with
  | zero => exact Reads.pure _
  | succ n ih =>
    refine reads_take.bind fun item _ _ => ?_
    split
    · exact Reads.pure _
    · split
      · exact Reads.pure _
      · exact ih

theorem reads_skipComment (opening n : Nat) : Reads s (skipComment opening n) := by
  induction n generalizing s with
  | zero => exact Reads.pure _
  | succ n ih =>
    refine Reads.peek_bind ?_
    split
    · exact Reads.here_bind (Reads.failHere _ _)
    · refine reads_take.bind fun item _ _ => ?_
      split
      · exact Reads.pure _
      · exact ih

theorem reads_countOf (digits : Text) : Reads s (countOf digits) :=
  Reads.ite (fun h => Reads.refuse (.inr (.inr (.inr ⟨_, h, rfl⟩)))) fun _ =>
    Reads.ite (fun _ => Reads.refuse (.inr (.inl rfl))) fun _ => Reads.pure _

/-- Counts that turn out to be none are given back, and only counts can be too large. -/
theorem reads_readCounts : Reads s readCounts := by
  refine Reads.here_bind (Reads.peek_bind ?_)
  split
  · exact Reads.pure _
  refine Reads.allowance_bind (ReadsFrom.bind (reads_takeWhileMost _ _ _) fun low s₁ h₁ => ?_)
  refine ReadsFrom.bind (reads_accept _) fun comma s₂ h₂ => ?_
  extract_lets finish
  have hfinish : ∀ high s', Passes s s' → ReadsFrom s s' (finish high) := by
    intro high s' h
    refine ReadsFrom.bind (reads_accept _) fun closed s₃ h₃ => ?_
    split
    · exact ReadsFrom.bind (readsFrom_seek (h.trans h₃)) fun _ _ h' => (Reads.pure _).readsFrom h'
    · refine Reads.readsFrom ((reads_countOf low).bind fun least _ _ => ?_) (h.trans h₃)
      refine Reads.ite (fun _ => Reads.pure _) fun _ => (reads_countOf high).bind fun most _ _ => ?_
      exact Reads.ite (fun _ => Reads.here_bind (Reads.failHere _ _)) fun _ => Reads.pure _
  have h := h₁.trans h₂
  split
  · exact ReadsFrom.bind (reads_takeWhileMost _ _ _) fun _ _ h₃ => hfinish _ _ (h.trans h₃)
  · exact ReadsFrom.bind (Reads.pure _) fun _ _ h₃ => hfinish _ _ (h.trans h₃)

theorem reads_repeatLast (start width least : Nat) (most : Option Nat) (done : List Node) :
    Reads s (repeatLast start width least most done) := by
  refine Reads.here_bind ?_
  dsimp only
  split
  · exact Reads.failHere _ _
  · exact Reads.failHere _ _
  · exact Reads.failHere _ _
  · refine (reads_accept _).bind fun _ _ _ => ?_
    split
    · exact Reads.pure _
    · refine (reads_accept _).bind fun _ _ _ => ?_
      split <;> exact Reads.pure _

/-! ### Groups -/

theorem reads_checkName (name : Text) : Reads s (checkName name) := by
  unfold checkName
  split
  · exact Reads.failHere _ _
  · exact Reads.pure _

theorem reads_openGroup (name : Option Text) : Reads s (openGroup name) := by
  refine Reads.get_bind ?_
  dsimp only
  split
  · exact Reads.bind (Reads.set (by rfl)) fun _ _ _ => Reads.pure _
  · split
    · exact Reads.failHere _ _
    · exact Reads.bind (Reads.set (by rfl)) fun _ _ _ => Reads.pure _

theorem reads_closeGroup (group : Nat) (body : List Node) : Reads s (closeGroup group body) := Reads.modify rfl

theorem reads_closeAt (opening : Nat) : Reads s (closeAt opening) := by
  refine (reads_accept _).bind fun _ _ _ => ?_
  split
  · exact Reads.here_bind (Reads.failHere _ _)
  · exact Reads.pure _

theorem reads_readCondition : Reads s readCondition := by
  refine Reads.allowance_bind ((reads_takeUntil _ _ _ _).bind fun name _ _ => ?_)
  extract_lets finish
  have hfinish : ∀ (s : ReadState) (group : Nat), Reads s (finish group) := fun s group =>
    (reads_checkBehind _).bind fun _ _ _ => Reads.pure _
  split
  · refine Reads.get_bind ?_
    split
    · exact (Reads.pure _).bind fun _ _ _ => hfinish _ _
    · exact (Reads.failHere _ _).bind fun _ _ _ => hfinish _ _
  · split
    · exact (Reads.failHere _ _).bind fun _ _ _ => hfinish _ _
    · split
      · exact (Reads.failHere _ _).bind fun _ _ _ => hfinish _ _
      · split
        · exact (Reads.failHere _ _).bind fun _ _ _ => hfinish _ _
        · split
          · exact (Reads.failHere _ _).bind fun _ _ _ => hfinish _ _
          · refine Reads.here_bind ?_
            refine Reads.bind (Reads.modify ?_) fun _ _ _ => (Reads.pure _).bind fun _ _ _ => hfinish _ _
            split <;> rfl

theorem reads_readHead (opening : Nat) : Reads s (readHead opening) := by
  refine reads_take.bind fun item _ _ => ?_
  split
  · exact Reads.failHere _ _
  split
  · refine (reads_accept _).bind fun _ _ _ => ?_
    split
    · refine Reads.allowance_bind ((reads_takeUntil _ _ _ _).bind fun name _ _ => ?_)
      exact (reads_checkName _).bind fun _ _ _ => Reads.pure _
    · refine (reads_accept _).bind fun _ _ _ => ?_
      split
      · refine Reads.allowance_bind ((reads_takeUntil _ _ _ _).bind fun name _ _ => ?_)
        refine (reads_checkName _).bind fun _ _ _ => Reads.get_bind ?_
        split
        · exact Reads.failHere _ _
        · refine Reads.get_bind ?_
          split
          · exact Reads.failHere _ _
          · exact (reads_checkBehind _).bind fun _ _ _ => Reads.pure _
      · refine reads_take.bind fun _ _ _ => ?_
        split <;> exact Reads.failHere _ _
  · exact Reads.pure _
  · exact Reads.allowance_bind ((reads_skipComment _ _).bind fun _ _ _ => Reads.pure _)
  · exact Reads.pure _
  · exact Reads.pure _
  · refine reads_take.bind fun _ _ _ => ?_
    split
    · exact Reads.failHere _ _
    · exact Reads.pure _
    · exact Reads.pure _
    · exact Reads.failHere _ _
  · exact Reads.pure _
  · exact Reads.pure _
  · dsimp only
    split
    · exact Reads.failHere _ _
    · refine (reads_readFlags _).bind fun _ _ _ => ?_
      split <;> exact Reads.pure _

end Rulebook.Pattern
