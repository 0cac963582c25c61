import Rulebook.Expression.Reader

/-!
# Steps of the reader

Where a step of the reader leads. What the reader remembers of a phrase at a place must be what a table says of it; then
a phrase comes to the same whether it is read or remembered.
-/

namespace Rulebook.Expression.Source

/-- What is known of the memory of a reader: what it may hold of each phrase at each place, which is what comes of the
phrase and where it ends, and of which phrases it does hold something. -/
structure Memory where
  table : Phrase → Nat → Option Node × Nat
  holds : Phrase → Nat → Prop

/-- The reader stands at a place, looks for no faults, and has such a memory. -/
structure Stands (M : Memory) (i : Nat) (st : State) : Prop where
  position : st.position = i
  checks : st.checks = false
  table : ∀ p j r, st.remembered[(p, j)]? = some r → r = M.table p j
  holds : ∀ p j, M.holds p j → (p, j) ∈ st.remembered

/-- From a state on a step comes to a result and leads to a place. -/
def Leads {α : Type} (M : Memory) (x : Reading α) (st : State) (a : α) (j : Nat) : Prop :=
  ∃ st', x.run st = .ok (a, st') ∧ Stands M j st'

/-- From every state at a place a step comes to a result and leads to another place. -/
def Goes {α : Type} (M : Memory) (x : Reading α) (i : Nat) (a : α) (j : Nat) : Prop :=
  ∀ st, Stands M i st → Leads M x st a j

variable {M : Memory} {α β : Type} {x : Reading α} {f : α → Reading β} {st : State} {a : α} {b : β} {i j k : Nat}

/-- Only where the reader stands has changed. -/
theorem Stands.move (h : Stands M i st) (j reach : Nat) : Stands M j { st with position := j, reach := reach } :=
  ⟨rfl, h.checks, h.table, h.holds⟩

theorem Leads.bind {M' : Memory} (hx : Leads M x st a j) (hf : ∀ st, Stands M j st → Leads M' (f a) st b k) :
    Leads M' (x >>= f) st b k := by
  obtain ⟨st', hrun, hst'⟩ := hx
  obtain ⟨st'', hrun', hst''⟩ := hf st' hst'
  refine ⟨st'', ?_, hst''⟩
  rw [StateT.run_bind, hrun]
  exact hrun'

theorem Goes.bind (hx : Goes M x i a j) (hf : Goes M (f a) j b k) : Goes M (x >>= f) i b k :=
  fun st hst => (hx st hst).bind hf

theorem leads_pure (h : Stands M j st) (a : α) : Leads M (pure a : Reading α) st a j := ⟨st, rfl, h⟩

theorem goes_pure (a : α) : Goes M (pure a : Reading α) i a i := fun _ hst => leads_pure hst a

/-- A step that looks at the state goes on from there. -/
theorem leads_get {f : State → Reading β} (h : Leads M (f st) st b k) : Leads M (get >>= f) st b k := h

theorem goes_goTo : Goes M (goTo j) i () j := fun st hst => ⟨_, rfl, hst.move j st.reach⟩

/-! ### Memory -/

section memory
variable {p : Phrase} {r : Option Node × Nat}

/-- The memory holds something of one more phrase at a place. -/
def Memory.with (M : Memory) (p : Phrase) (i : Nat) (r : Option Node × Nat) : Memory where
  table q j := if q = p ∧ j = i then r else M.table q j
  holds q j := q = p ∧ j = i ∨ M.holds q j

theorem Memory.with_self (M : Memory) (p : Phrase) (i : Nat) (r : Option Node × Nat) : (M.with p i r).table p i = r :=
  if_pos ⟨rfl, rfl⟩

/-- What comes of a phrase may be remembered. -/
theorem Stands.remember (h : Stands M j st) (p : Phrase) (i : Nat) (r : Option Node × Nat) :
    Stands (M.with p i r) j { st with remembered := st.remembered.insert (p, i) r } where
  position := h.position
  checks := h.checks
  table q k found hq := by
    rw [Std.HashMap.getElem?_insert] at hq
    split at hq
    · next heq =>
      obtain ⟨rfl, rfl⟩ := Prod.mk.inj (beq_iff_eq.1 heq)
      rw [Memory.with_self]
      exact (Option.some.inj hq).symm
    · next hne =>
      have hother : ¬(q = p ∧ k = i) := by
        rintro ⟨rfl, rfl⟩
        simp at hne
      simp only [Memory.with, if_neg hother]
      exact h.table q k found hq
  holds q k hq := by
    rcases hq with ⟨rfl, rfl⟩ | hq
    · exact Std.HashMap.mem_insert_self
    · exact Std.HashMap.mem_insert.2 (.inr (h.holds q k hq))

/-- Less may be known of a memory. -/
theorem Stands.weaken {M' : Memory} (h : Stands M' i st) (htable : M'.table = M.table)
    (hholds : ∀ p j, M.holds p j → M'.holds p j) : Stands M i st :=
  ⟨h.position, h.checks, htable ▸ h.table, fun p j hp => h.holds p j (hholds p j hp)⟩

theorem Memory.with_table (h : M.table p i = r) : (M.with p i r).table = M.table := by
  funext q j
  simp only [Memory.with]
  split
  · next heq => rw [heq.1, heq.2, h]
  · rfl

/-- What is remembered later counts. -/
theorem Memory.with_with (M : Memory) (p : Phrase) (i : Nat) (r r' : Option Node × Nat) :
    ((M.with p i r).with p i r').table = (M.with p i r').table := by
  funext q j
  simp only [Memory.with]
  split <;> rfl

/-- What the table says of a phrase may be forgotten again. -/
theorem Leads.forget (hM : M.table p i = r) (h : Leads (M.with p i r) x st a j) :
    Leads M x st a j := by
  obtain ⟨st', hrun, hst'⟩ := h
  exact ⟨st', hrun, hst'.weaken (Memory.with_table hM) fun _ _ => .inr⟩

theorem leads_remember (h : Stands M j st) (p : Phrase) (i : Nat) (n : Option Node) (stop : Nat) :
    Leads (M.with p i (n, stop)) (remember p i n stop) st () j :=
  ⟨_, rfl, h.remember p i (n, stop)⟩

end memory

/-! ### Tokens -/

variable (s : Source) {t : Token}

/-- The token at a place. -/
def At (i : Nat) (t : Token) : Prop := s.tokens.tokens[i]? = some t

variable {s}

theorem goes_look (ht : s.At i t) : Goes M s.look i (some t) i := by
  intro st hst
  have ht' : s.tokens.tokens[st.position]? = some t := by rw [hst.position]; exact ht
  by_cases hreach : st.reach ≤ st.position
  · refine ⟨{ st with reach := st.position + 1 }, ?_, hst.position, hst.checks, hst.table, hst.holds⟩
    simp only [look, StateT.run_bind, StateT.run_get, pure_bind, ht', hreach, ↓reduceIte]
    rfl
  · refine ⟨st, ?_, hst⟩
    simp only [look, StateT.run_bind, StateT.run_get, pure_bind, ht', hreach, ↓reduceIte]
    rfl

theorem goes_take_part (ht : s.At i t) {test : Token → Bool} (htest : test t = true) (node : Token → Node) :
    Goes M (s.take test node) i (.part (node t)) (i + 1) := by
  refine (goes_look ht).bind ?_
  simp only [htest, ↓reduceIte]
  intro st hst
  exact ⟨_, rfl, by rw [← hst.position], hst.checks, hst.table, hst.holds⟩

theorem goes_take_missing (ht : s.At i t) {test : Token → Bool} (htest : test t = false) (node : Token → Node) :
    Goes M (s.take test node) i .missing i := by
  refine (goes_look ht).bind ?_
  simp only [htest, Bool.false_eq_true, ↓reduceIte]
  exact goes_pure _

/-- A number token is taken as the constant that it stands for. -/
theorem goes_takeNumber_part (ht : s.At i t) (hkind : t.kind = .number) {v : Value}
    (hv : numberValue t.line t.text = .ok v) :
    Goes M s.takeNumber i (.part (.mk (.constant v) t.line [])) (i + 1) := by
  refine (goes_look ht).bind ?_
  simp only [hkind, beq_self_eq_true, ↓reduceIte, hv]
  intro st hst
  exact ⟨_, rfl, by rw [← hst.position], hst.checks, hst.table, hst.holds⟩

theorem goes_takeNumber_missing (ht : s.At i t) (hkind : t.kind ≠ .number) : Goes M s.takeNumber i .missing i := by
  refine (goes_look ht).bind ?_
  simp only [beq_eq_false_iff_ne.2 hkind, Bool.false_eq_true, ↓reduceIte]
  exact goes_pure _

theorem goes_takeQuoted_nil (ht : s.At i t) (hkind : t.kind ≠ .string) (bound : Nat) (done : List (Nat × Text)) :
    Goes M (s.takeQuoted bound done) i done.reverse i := by
  cases bound with
  | zero => exact goes_pure _
  | succ bound =>
    refine (goes_look ht).bind ?_
    simp only [beq_eq_false_iff_ne.2 hkind, Bool.false_eq_true, ↓reduceIte]
    exact goes_pure _

theorem goes_takeStrings_missing (ht : s.At i t) (hkind : t.kind ≠ .string) : Goes M s.takeStrings i .missing i :=
  (goes_takeQuoted_nil ht hkind _ []).bind (goes_pure _)

/-- A quoted token that no other follows is taken as what it stands for. -/
theorem goes_takeStrings_part (ht : s.At i t) (hkind : t.kind = .string) {u : Token} (hu : s.At (i + 1) u)
    (hnext : u.kind ≠ .string) {n : Node} (hn : readStrings s.inner [(t.line, t.text)] = .ok n) :
    Goes M s.takeStrings i (.part n) (i + 1) := by
  have hsize : s.tokens.tokens.size ≠ 0 := by
    intro h
    simp [At, Array.size_eq_zero_iff.1 h] at ht
  obtain ⟨bound, hbound⟩ := Nat.exists_eq_succ_of_ne_zero hsize
  have hquoted : Goes M (s.takeQuoted s.tokens.tokens.size []) i [(t.line, t.text)] (i + 1) := by
    rw [hbound]
    refine (goes_look ht).bind ?_
    simp only [hkind, beq_self_eq_true, ↓reduceIte]
    refine Goes.bind (a := ()) (j := i + 1) (fun st hst => ?_) (goes_takeQuoted_nil hu hnext bound [(t.line, t.text)])
    exact ⟨_, rfl, by rw [← hst.position], hst.checks, hst.table, hst.holds⟩
  refine hquoted.bind ?_
  simp only [hn]
  exact goes_pure _

/-! ### Items -/

section items
variable {bound : Nat} {n : Node} {rest : List Item} {item : Item} {committed : Bool} {done : List Node} {r : Row}

theorem goes_readItems_nil : Goes M (s.readItems (bound + 1) [] committed done) i (.parts done.reverse) i := by
  rw [readItems]
  exact goes_pure _

theorem goes_readItems_part (hitem : item ≠ .commit) (h : Goes M (s.readItem bound item) i (.part n) j)
    (hrest : Goes M (s.readItems bound rest committed (n :: done)) j r k) :
    Goes M (s.readItems (bound + 1) (item :: rest) committed done) i r k := by
  rw [readItems]
  · exact h.bind hrest
  · exact hitem

theorem goes_readItems_bare (hitem : item ≠ .commit) (h : Goes M (s.readItem bound item) i .bare j)
    (hrest : Goes M (s.readItems bound rest committed done) j r k) :
    Goes M (s.readItems (bound + 1) (item :: rest) committed done) i r k := by
  rw [readItems]
  · exact h.bind hrest
  · exact hitem

theorem goes_readItems_missing (hitem : item ≠ .commit) (h : Goes M (s.readItem bound item) i .missing j) :
    Goes M (s.readItems (bound + 1) (item :: rest) committed done) i (.missing committed) j := by
  rw [readItems]
  · exact h.bind (goes_pure _)
  · exact hitem

theorem goes_word_part (ht : s.At i t) (hkind : t.kind = .word) :
    Goes M (s.readItem (bound + 1) (.word t.spelling)) i (.part (tokenNode t)) (i + 1) := by
  rw [readItem]
  exact goes_take_part ht (by simp [hkind]) tokenNode

theorem goes_word_missing (ht : s.At i t) {w : String} (hw : t.kind = .word → t.spelling ≠ w) :
    Goes M (s.readItem (bound + 1) (.word w)) i .missing i := by
  rw [readItem]
  refine goes_take_missing ht ?_ tokenNode
  by_cases hkind : t.kind = .word
  · simp [hkind, hw hkind]
  · simp [hkind]

theorem goes_phrase_part {p : Phrase} (h : Goes M (s.readPhrase bound p) i (some n) j) :
    Goes M (s.readItem (bound + 1) (.phrase p)) i (.part n) j := by
  rw [readItem]
  exact h.bind (goes_pure _)

theorem goes_phrase_missing {p : Phrase} (h : Goes M (s.readPhrase bound p) i none j) :
    Goes M (s.readItem (bound + 1) (.phrase p)) i .missing j := by
  rw [readItem]
  exact h.bind (goes_pure _)

/-- No faults are looked for. -/
theorem goes_check (p : Phrase) : Goes M (s.readItem (bound + 1) (.check p)) i .missing i := by
  rw [readItem]
  intro st hst
  refine leads_get ?_
  rw [hst.checks]
  exact leads_pure hst _

theorem goes_ahead_missing (h : Goes M (s.readItem bound item) i .missing j) :
    Goes M (s.readItem (bound + 1) (.ahead item)) i .missing i := by
  rw [readItem]
  intro st hst
  refine leads_get ?_
  rw [hst.position]
  exact (h st hst).bind (goes_goTo.bind (goes_pure _))

theorem goes_ahead_bare (h : Goes M (s.readItem bound item) i (.part n) j) :
    Goes M (s.readItem (bound + 1) (.ahead item)) i .bare i := by
  rw [readItem]
  intro st hst
  refine leads_get ?_
  rw [hst.position]
  exact (h st hst).bind (goes_goTo.bind (goes_pure _))

theorem goes_notAhead_bare (h : Goes M (s.readItem bound item) i .missing j) :
    Goes M (s.readItem (bound + 1) (.notAhead item)) i .bare i := by
  rw [readItem]
  intro st hst
  refine leads_get ?_
  rw [hst.position]
  exact (h st hst).bind (goes_goTo.bind (goes_pure _))

theorem goes_readMany_nil (h : Goes M (s.readItem bound item) i .missing j) :
    Goes M (s.readMany (bound + 1) item done) i done.reverse i := by
  rw [readMany]
  intro st hst
  refine leads_get ?_
  rw [hst.position]
  exact (h st hst).bind (goes_goTo.bind (goes_pure _))

theorem goes_readMany_cons (h : Goes M (s.readItem bound item) i (.part n) j) {ns : List Node}
    (hrest : Goes M (s.readMany bound item (n :: done)) j ns k) :
    Goes M (s.readMany (bound + 1) item done) i ns k := by
  rw [readMany]
  intro st hst
  refine leads_get ?_
  exact (h st hst).bind hrest

theorem goes_atLeastOne_missing (h : Goes M (s.readMany bound item []) i [] j) :
    Goes M (s.readItem (bound + 1) (.atLeastOne item)) i .missing j := by
  rw [readItem]
  exact h.bind (goes_pure _)

theorem goes_atLeastOne_part {ns : List Node} (h : Goes M (s.readMany bound item []) i (n :: ns) j) :
    Goes M (s.readItem (bound + 1) (.atLeastOne item)) i (.part (Node.row (n :: ns))) j := by
  rw [readItem]
  exact h.bind (goes_pure _)

end items

/-! ### Alternatives and phrases -/

section phrases
variable {bound start : Nat} {n : Node} {p : Phrase} {r : Option Node} {a : Alternative} {alternatives : List Alternative}

/-- From anywhere, the alternatives at a place come to a result. -/
def Chooses (s : Source) (M : Memory) (bound start : Nat) (alternatives : List Alternative) (r : Option Node) (k : Nat) :
    Prop :=
  ∀ i, Goes M (s.readAlternatives bound start alternatives) i r k

theorem chooses_zero : s.Chooses M 0 start alternatives none start := by
  intro i
  rw [readAlternatives_zero]
  exact goes_goTo.bind (goes_pure _)

theorem chooses_nil : s.Chooses M bound start [] none start := by
  intro i
  cases bound <;> rw [readAlternatives] <;> exact goes_goTo.bind (goes_pure _)

theorem chooses_next (h : Goes M (s.readItems bound a.items false []) start (.missing false) j)
    (hrest : s.Chooses M bound start alternatives r k) : s.Chooses M (bound + 1) start (a :: alternatives) r k := by
  intro i
  rw [readAlternatives]
  refine goes_goTo.bind (h.bind ?_)
  simp only [Bool.false_eq_true, ↓reduceIte]
  exact hrest j

theorem chooses_first (ht : s.At start t) {ns : List Node}
    (h : Goes M (s.readItems bound a.items false []) start (.parts ns) j)
    (hbuild : ∀ place : Place, place.line = t.line → a.build place ns = .node n) :
    s.Chooses M (bound + 1) start (a :: alternatives) (some n) j := by
  intro i
  rw [readAlternatives]
  refine goes_goTo.bind (h.bind fun st hst => leads_get ?_)
  rw [hbuild (s.placeOf start st) (by rw [At] at ht; simp [placeOf, ht])]
  exact leads_pure hst _

theorem goes_oneOf_missing {rows : List (List Item)}
    (h : s.Chooses M bound i (rows.map fun items => ⟨items, pass⟩) none j) :
    Goes M (s.readItem (bound + 1) (.oneOf rows)) i .missing j := by
  rw [readItem]
  intro st hst
  refine leads_get ?_
  rw [hst.position]
  exact (h i st hst).bind (goes_pure _)

theorem goes_optional_part {rows : List (List Item)}
    (h : s.Chooses M bound i (rows.map fun items => ⟨items, pass⟩) (some n) j) :
    Goes M (s.readItem (bound + 1) (.optional rows)) i (.part n) j := by
  rw [readItem]
  intro st hst
  refine leads_get ?_
  rw [hst.position]
  exact (h i st hst).bind (goes_pure _)

theorem goes_plain (hmode : p.mode = .plain) (h : s.Chooses M bound i p.alternatives r k) :
    Goes M (s.readPhrase (bound + 1) p) i r k := by
  rw [readPhrase]
  intro st hst
  refine leads_get ?_
  rw [hmode, hst.position]
  exact h i st hst

/-- What the memory holds of a phrase is taken as it is. -/
theorem goes_held (ht : s.At i t) (hmode : p.mode = .remembered ∨ p.mode = .growing) (hp : M.holds p i)
    (hM : M.table p i = (r, k)) : Goes M (s.readPhrase (bound + 1) p) i r k := by
  have hgo : Goes M (goTo k >>= fun _ => (pure r : Reading _)) i r k := goes_goTo.bind (goes_pure r)
  rw [readPhrase]
  intro st hst
  refine leads_get ?_
  rw [hst.position]
  rcases hmode with hmode | hmode
  all_goals
    rw [hmode]
    refine (goes_look ht st hst).bind fun st hst => leads_get ?_
    obtain ⟨found, hfound⟩ := Option.isSome_iff_exists.1 (Std.HashMap.mem_iff_isSome_getElem?.1 (hst.holds p i hp))
    rw [hfound, hst.table p i found hfound, hM]
    exact hgo st hst

/-- A phrase comes to the same whether it is remembered or read. -/
theorem goes_remembered (ht : s.At i t) (hmode : p.mode = .remembered) (hM : M.table p i = (r, k))
    (h : s.Chooses M bound i p.alternatives r k) : Goes M (s.readPhrase (bound + 1) p) i r k := by
  have hgo : Goes M (goTo k >>= fun _ => (pure r : Reading _)) i r k := goes_goTo.bind (goes_pure r)
  rw [readPhrase]
  intro st hst
  refine leads_get ?_
  rw [hmode, hst.position]
  refine (goes_look ht st hst).bind fun st hst => leads_get ?_
  cases hfound : st.remembered[(p, i)]? with
  | some found =>
    rw [hst.table p i found hfound, hM]
    exact hgo st hst
  | none =>
    refine (h i st hst).bind fun st hst => leads_get ?_
    rw [hst.position]
    exact Leads.forget hM ((leads_remember hst p i r k).bind (goes_pure r))

/-- A phrase that may begin with itself counts as absent until it has been found. -/
theorem goes_growing (ht : s.At i t) (hmode : p.mode = .growing) (hM : M.table p i = (r, k))
    (h : ∀ st, Stands (M.with p i (none, i)) i st → Leads M (s.grow bound p i none i) st r k) :
    Goes M (s.readPhrase (bound + 1) p) i r k := by
  have hgo : Goes M (goTo k >>= fun _ => (pure r : Reading _)) i r k := goes_goTo.bind (goes_pure r)
  rw [readPhrase]
  intro st hst
  refine leads_get ?_
  rw [hmode, hst.position]
  refine (goes_look ht st hst).bind fun st hst => leads_get ?_
  cases hfound : st.remembered[(p, i)]? with
  | some found =>
    rw [hst.table p i found hfound, hM]
    exact hgo st hst
  | none => exact (leads_remember hst p i none i).bind h

/-- Where nothing longer is found, growing ends with what was found before. -/
theorem goes_grow_end {best : Option Node} {stop : Nat} (h : s.Chooses M bound i p.alternatives r k)
    (hend : r = none ∨ k ≤ stop) : Goes M (s.grow (bound + 1) p i best stop) j best stop := by
  rw [grow]
  intro st hst
  refine (h j st hst).bind fun st hst => leads_get ?_
  have hlonger : (r.isSome && decide (stop < st.position)) = false := by
    rcases hend with rfl | hk
    · rfl
    · simp [hst.position, Nat.not_lt.2 hk]
  simp only [hlonger, Bool.false_eq_true, ↓reduceIte]
  exact (goes_goTo.bind (goes_pure best)) st hst

/-- A phrase that may begin with itself is not found where no alternative fits as long as it counts as absent. -/
theorem goes_growing_none (ht : s.At i t) (hmode : p.mode = .growing) (hM : M.table p i = (none, i))
    (h : s.Chooses (M.with p i (none, i)) bound i p.alternatives none k) :
    Goes M (s.readPhrase (bound + 2) p) i none i := by
  refine goes_growing ht hmode hM fun st hst => ?_
  exact Leads.forget hM (goes_grow_end h (.inl rfl) st hst)

/-- A phrase that may begin with itself is found where an alternative fits as long as it counts as absent, if no
alternative leads further once it has been found. -/
theorem goes_growing_some (ht : s.At i t) (hmode : p.mode = .growing) (hM : M.table p i = (some n, k))
    (hik : i < k) (h : s.Chooses (M.with p i (none, i)) (bound + 1) i p.alternatives (some n) k)
    (hagain : s.Chooses (M.with p i (some n, k)) bound i p.alternatives (some n) k) :
    Goes M (s.readPhrase (bound + 3) p) i (some n) k := by
  refine goes_growing ht hmode hM fun st hst => ?_
  rw [grow]
  refine (h i st hst).bind fun st hst => leads_get ?_
  have hlonger : ((some n).isSome && decide (i < st.position)) = true := by simp [hst.position, hik]
  simp only [hlonger, ↓reduceIte]
  rw [hst.position]
  refine (leads_remember hst p i (some n) k).bind fun st hst => ?_
  have hst : Stands (M.with p i (some n, k)) k st := hst.weaken (M.with_with p i _ _) fun _ _ h => .inr h
  refine Leads.forget hM ?_
  exact (goes_goTo st hst).bind (goes_grow_end hagain (.inr (Nat.le_refl k)))

end phrases

end Rulebook.Expression.Source
