import Rulebook.Pattern.Reader
import Rulebook.Proofs.Outcome

/-!
# How readers of patterns move

A reader of patterns never moves back, and it fails in nothing but an offence with a position, a repetition that is
too large, a count that is too long or a clash of flags. `Reads s x` says so of the reader `x` from the state `s`; it is closed under sequences and choices,
so that each reader has it because its parts do.
-/

namespace Rulebook.Pattern

/-- The count of a repetition cannot be held. -/
def repetitionTooLarge : Fault := ⟨.overflow, "the repetition number is too large"⟩

/-- The flags of the whole pattern exclude each other. -/
def flagsClash : Fault := Fault.badValue "ASCII and UNICODE flags are incompatible"

/-- A count has more digits than are read. -/
def IsLongCount (f : Fault) : Prop := ∃ digits, maxIntegerDigits < digits ∧ f = Fault.longNumber digits

/-- What a pattern can be refused for. -/
def IsRefusal (f : Fault) : Prop :=
  f.kind = .patternSyntax ∨ f = repetitionTooLarge ∨ f = flagsClash ∨ IsLongCount f

/-- The item ahead, if there is one, ends at the position, inside the text. -/
def Cursor.Valid (c : Cursor) : Prop :=
  ∀ item, c.next = some item → item ≠ [] ∧ item.length ≤ c.position ∧ c.position ≤ c.chars.size

/-- The number of code points from the item ahead on. -/
def ReadState.left (s : ReadState) : Nat := s.cursor.chars.size - s.cursor.here

/-- The second state stands where the first does, or behind it in the same text. -/
structure Passes (s s' : ReadState) : Prop where
  valid : s'.cursor.Valid
  chars : s'.cursor.chars = s.cursor.chars
  here : s.cursor.here ≤ s'.cursor.here

/-- From the state `s` inside the text the reader ends behind `start` or refuses the pattern. -/
def ReadsFrom {α : Type} (start s : ReadState) (x : Reader α) : Prop :=
  s.cursor.Valid →
    match x.run s with
    | .ok (_, s') => Passes start s'
    | .error f => IsRefusal f

/-- From a state inside the text the reader moves on or refuses the pattern. -/
def Reads {α : Type} (s : ReadState) (x : Reader α) : Prop := ReadsFrom s s x

variable {α β : Type} {start s s' s'' : ReadState} {x : Reader α} {f : α → Reader β}

theorem Passes.refl (h : s.cursor.Valid) : Passes s s := ⟨h, rfl, Nat.le_refl _⟩

theorem Passes.trans (h : Passes s s') (h' : Passes s' s'') : Passes s s'' :=
  ⟨h'.valid, h'.chars.trans h.chars, Nat.le_trans h.here h'.here⟩

theorem Passes.left_le (h : Passes s s') : s'.left ≤ s.left := by
  rw [ReadState.left, ReadState.left, h.chars]
  exact Nat.sub_le_sub_left h.here _

theorem Passes.left_lt {n : Nat} (h : Passes s s') (hn : s.left < n) : s'.left < n :=
  Nat.lt_of_le_of_lt h.left_le hn

/-! ### Sequences -/

theorem Reads.pure (a : α) : Reads s (pure a : Reader α) := Passes.refl

theorem ReadsFrom.bind {between : ReadState} (hx : ReadsFrom between s x)
    (hf : ∀ a s', Passes between s' → ReadsFrom start s' (f a)) : ReadsFrom start s (x >>= f) := by
  intro h
  have hx := hx h
  rw [StateT.run_bind]
  cases hrun : x.run s with
  | error e =>
    rw [hrun] at hx
    exact hx
  | ok p =>
    rw [hrun] at hx
    exact hf p.1 p.2 hx hx.valid

theorem Reads.readsFrom (hx : Reads s' x) (h : Passes s s') : ReadsFrom s s' x := by
  intro hs'
  have hx := hx hs'
  cases hrun : x.run s' with
  | error e =>
    rw [hrun] at hx
    exact hx
  | ok p =>
    rw [hrun] at hx
    exact h.trans hx

theorem Reads.bind (hx : Reads s x) (hf : ∀ a s', Passes s s' → Reads s' (f a)) : Reads s (x >>= f) :=
  ReadsFrom.bind hx fun a s' h => (hf a s' h).readsFrom h

theorem Reads.ite {c : Prop} [Decidable c] {y : Reader α} (hx : c → Reads s x) (hy : ¬c → Reads s y) :
    Reads s (if c then x else y) := by
  split
  · next h => exact hx h
  · next h => exact hy h

theorem Reads.failHere (message : Text) (back : Nat) : Reads s (failHere message back : Reader α) :=
  fun _ => .inl rfl

theorem Reads.refuse {f : Fault} (h : IsRefusal f) : Reads s (throw f : Reader α) := fun _ => h

theorem Reads.modify {g : ReadState → ReadState} (h : (g s).cursor = s.cursor) : Reads s (modify g : Reader Unit) := by
  intro hs
  show Passes s (g s)
  exact ⟨by rw [h]; exact hs, by rw [h], Nat.le_of_eq (by rw [h])⟩

theorem Reads.set {s' : ReadState} (h : s'.cursor = s.cursor) : Reads s (set s' : Reader PUnit) := by
  intro hs
  show Passes s s'
  exact ⟨by rw [h]; exact hs, by rw [h], Nat.le_of_eq (by rw [h])⟩

/-! Steps that only look around hand on what they see. -/

theorem Reads.get_bind {f : ReadState → Reader β} (h : Reads s (f s)) : Reads s (get >>= f) := h

theorem Reads.peek_bind {f : Option Text → Reader β} (h : Reads s (f s.cursor.next)) : Reads s (peek >>= f) := h

theorem Reads.peek_bind_cases {f : Option Text → Reader β} (hnone : Reads s (f none))
    (hsome : ∀ item, s.cursor.next = some item → Reads s (f (some item))) : Reads s (peek >>= f) := by
  refine Reads.peek_bind ?_
  cases h : s.cursor.next with
  | none => exact hnone
  | some item => exact hsome item h

theorem Reads.here_bind {f : Nat → Reader β} (h : Reads s (f s.cursor.here)) : Reads s (here >>= f) := h

theorem Reads.allowance_bind {f : Nat → Reader β} (h : Reads s (f (s.cursor.chars.size + 2))) :
    Reads s (allowance >>= f) := h

/-! ### Moving -/

/-- A cursor is loaded inside the text with the item at its position ahead, if there is no lone backslash. -/
theorem Cursor.load_cases (c : Cursor) :
    (∃ f, c.load = .error f ∧ f.kind = .patternSyntax) ∨
      ∃ c', c.load = .ok c' ∧ c'.Valid ∧ c'.chars = c.chars ∧ c'.here = c.position := by
  unfold Cursor.load
  split
  · exact .inr ⟨_, rfl, nofun, rfl, rfl⟩
  · split
    · exact .inl ⟨_, rfl, rfl⟩
    · next hsecond =>
      have hlt := (Array.getElem?_eq_some_iff.1 hsecond).1
      refine .inr ⟨_, rfl, ?_, rfl, rfl⟩
      rintro item ⟨⟩
      exact ⟨List.cons_ne_nil _ _, Nat.le_add_left _ _, hlt⟩
  · next hfirst =>
    have hlt := (Array.getElem?_eq_some_iff.1 hfirst).1
    refine .inr ⟨_, rfl, ?_, rfl, rfl⟩
    rintro item ⟨⟩
    exact ⟨List.cons_ne_nil _ _, Nat.le_add_left _ _, hlt⟩

theorem Cursor.here_le_position (c : Cursor) : c.here ≤ c.position := Nat.sub_le _ _

/-- Moving past the item ahead leaves less of the text, if there was an item. -/
theorem Passes.left_lt_of_advance {c' : Cursor} (h : s.cursor.Valid) {item : Text} (hitem : s.cursor.next = some item)
    (hchars : c'.chars = s.cursor.chars) (hhere : c'.here = s.cursor.position) :
    ReadState.left { s with cursor := c' } < s.left := by
  obtain ⟨hne, hlength, hposition⟩ := h item hitem
  have hpos : 0 < item.length := List.length_pos_iff.2 hne
  have hbefore : s.cursor.here = s.cursor.position - item.length := by
    rw [Cursor.here, hitem]
    rfl
  show c'.chars.size - c'.here < s.cursor.chars.size - s.cursor.here
  rw [hchars, hhere, hbefore]
  omega

/-- Moving past the item ahead, with less of the text left than before if there was an item. -/
theorem Reads.advance_bind {f : Unit → Reader β}
    (hf : ∀ s', Passes s s' → (∀ item, s.cursor.next = some item → s'.left < s.left) → Reads s' (f ())) :
    Reads s (advance >>= f) := by
  intro h
  have hrun : (advance >>= f).run s = s.cursor.load >>= fun c => (f ()).run { s with cursor := c } := by
    unfold advance
    cases hload : s.cursor.load <;> simp [StateT.run_bind, hload]
  rcases s.cursor.load_cases with ⟨e, he, hkind⟩ | ⟨c', hc', hvalid, hchars, hhere⟩
  · rw [hrun, he]
    exact .inl hkind
  · have hpasses : Passes s { s with cursor := c' } :=
      ⟨hvalid, hchars, Nat.le_trans s.cursor.here_le_position (Nat.le_of_eq hhere.symm)⟩
    rw [hrun, hc', ok_bind]
    exact (hf _ hpasses fun item hitem => Passes.left_lt_of_advance h hitem hchars hhere).readsFrom hpasses hvalid

theorem reads_advance : Reads s advance := by
  have h : Reads s (advance >>= fun _ => (pure () : Reader Unit)) := Reads.advance_bind fun _ _ _ => Reads.pure ()
  simpa using h

/-- Moving back to where a reader began. -/
theorem readsFrom_seek (h : Passes start s) : ReadsFrom start s (seek start.cursor.here) := by
  intro hs
  rcases Cursor.load_cases { s.cursor with position := start.cursor.here } with
    ⟨e, he, hkind⟩ | ⟨c', hc', hvalid, hchars, hhere⟩
  · have hrun : (seek start.cursor.here).run s = .error e := by
      unfold seek
      simp [StateT.run_bind, he]
    rw [hrun]
    exact .inl hkind
  · have hrun : (seek start.cursor.here).run s = .ok ((), { s with cursor := c' }) := by
      unfold seek
      simp [StateT.run_bind, hc']
    rw [hrun]
    exact ⟨hvalid, hchars.trans h.chars, Nat.le_of_eq hhere.symm⟩

theorem reads_take : Reads s take := Reads.peek_bind (reads_advance.bind fun _ _ _ => Reads.pure _)

theorem reads_accept (c : CodePoint) : Reads s (accept c) := by
  refine Reads.peek_bind ?_
  split
  · exact reads_advance.bind fun _ _ _ => Reads.pure _
  · exact Reads.pure _

/-- Past a character that is accepted, less of the text is left. -/
theorem Reads.accept_bind {c : CodePoint} {f : Bool → Reader β}
    (hf : ∀ b s', Passes s s' → (b = true → s'.left < s.left) → Reads s' (f b)) : Reads s (accept c >>= f) := by
  unfold accept
  rw [bind_assoc]
  refine Reads.peek_bind ?_
  split
  · next hitem =>
    rw [bind_assoc]
    exact Reads.advance_bind fun s' h hlt => hf true s' h fun _ => hlt _ (eq_of_beq hitem)
  · exact fun h => hf false s (Passes.refl h) nofun h

theorem reads_takeWhileMost (p : CodePoint → Bool) (n : Nat) (done : Text) : Reads s (takeWhileMost p n done) := by
  induction n generalizing s done with
  | zero => exact Reads.pure _
  | succ n ih =>
    refine Reads.peek_bind ?_
    split
    · split
      · exact reads_advance.bind fun _ _ _ => ih _
      · exact Reads.pure _
    · exact Reads.pure _

theorem reads_takeUntil (close : CodePoint) (what : Text) (n : Nat) (done : Text) :
    Reads s (takeUntil close what n done) := by
  induction n generalizing s done with
  | zero => exact Reads.pure _
  | succ n ih =>
    refine reads_take.bind fun item _ _ => ?_
    cases item with
    | none => dsimp only; split <;> exact Reads.failHere _ _
    | some item =>
      dsimp only
      split
      · split
        · exact Reads.failHere _ _
        · exact Reads.pure _
      · exact ih _

end Rulebook.Pattern
