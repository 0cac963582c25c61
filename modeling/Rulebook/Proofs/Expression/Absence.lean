import Rulebook.Proofs.Expression.Reading

/-!
# Phrases that a token does not begin

Whether an item can fit at a place is decided by the token there, where its first word or the first words of its
phrases are others. Phrases of which each alternative asks for such an item first are absent, and the reader finds out
without going on.
-/

namespace Rulebook.Expression

section refusal
variable (kind : TokenKind) (spelling : String) (absent : Phrase → Bool)

mutual

/-- The item does not fit where a token of the kind with the spelling comes next and certain phrases are absent. -/
def Item.refuses : Item → Bool
  | .word w => !(kind == .word && spelling == w)
  | .soft _ => kind != .name
  | .softKeyword => kind != .name
  | .nameToken => kind != .name
  | .numberToken => kind != .number
  | .stringToken => kind != .string
  | .stringTokens => kind != .string
  | .newline => kind != .newline
  | .indent => kind != .indent
  | .dedent => kind != .dedent
  | .finish => kind != .finish
  | .phrase p => absent p
  | .check _ => true
  | .oneOf alternatives => Item.allRefuse alternatives
  | .atLeastOne item => item.refuses
  | .separated _ item => item.refuses
  | .ahead item => item.refuses
  | _ => false

/-- The first item of a row does not fit. -/
def Item.rowRefuses : List Item → Bool
  | [] => false
  | item :: _ => item.refuses

/-- None of several rows fits. -/
def Item.allRefuse : List (List Item) → Bool
  | [] => true
  | items :: rest => Item.rowRefuses items && Item.allRefuse rest

end

/-- Each alternative of the phrase asks first for an item that does not fit. -/
def Phrase.isRefused (p : Phrase) : Bool :=
  p.mode != .unchecked && p.alternatives.all fun a => Item.rowRefuses kind spelling absent a.items

end refusal

namespace Source
variable {s : Source} {t : Token} {absent : Phrase → Bool} {i : Nat}

/-- At a place where certain phrases are absent the reader finds nothing that begins with one of them, with any bound
on its depth. -/
structure Misses (s : Source) (t : Token) (absent : Phrase → Bool) (i bound : Nat) (M : Memory) : Prop where
  phrase : ∀ p, absent p = true → Goes M (s.readPhrase bound p) i none i
  grow : ∀ p, absent p = true → Goes M (s.grow bound p i none i) i none i
  alternatives : ∀ as : List Alternative,
    (∀ a ∈ as, Item.rowRefuses t.kind t.spelling absent a.items = true) → s.Chooses M bound i as none i
  row : ∀ items done, Item.rowRefuses t.kind t.spelling absent items = true →
    Goes M (s.readItems bound items false done) i (.missing false) i
  item : ∀ item : Item, item.refuses t.kind t.spelling absent = true → Goes M (s.readItem bound item) i .missing i
  many : ∀ item : Item, item.refuses t.kind t.spelling absent = true → Goes M (s.readMany bound item []) i [] i

theorem allRefuse_eq_true {kind : TokenKind} {spelling : String} {rows : List (List Item)}
    (h : Item.allRefuse kind spelling absent rows = true) {items : List Item} (hitems : items ∈ rows) :
    Item.rowRefuses kind spelling absent items = true := by
  induction rows with
  | nil => cases hitems
  | cons first rows ih =>
    rw [Item.allRefuse, Bool.and_eq_true] at h
    rcases List.mem_cons.1 hitems with rfl | hitems
    · exact h.1
    · exact ih h.2 hitems

/-- An item that does not fit is missing. -/
theorem goes_item_missing {bound : Nat} {M : Memory} (ht : s.At i t) (h : Misses s t absent i bound M) {item : Item}
    (hitem : item.refuses t.kind t.spelling absent = true) : Goes M (s.readItem (bound + 1) item) i .missing i := by
  have hname : ∀ {b : Bool}, t.kind ≠ .name → (t.kind == .name && b) = false := by
    intro b hkind
    simp [hkind]
  have hkind : ∀ {k : TokenKind}, t.kind ≠ k → Goes M (s.takeKind k) i .missing i := by
    intro k hk
    exact goes_take_missing ht (by simp [hk]) tokenNode
  cases item
  case word w =>
    refine goes_word_missing ht fun hkind hspelling => ?_
    simp [Item.refuses, hkind, hspelling] at hitem
  case phrase p => exact goes_phrase_missing (h.phrase p hitem)
  case check p => exact goes_check p
  case ahead item => exact goes_ahead_missing (h.item item hitem)
  case atLeastOne item => exact goes_atLeastOne_missing (h.many item hitem)
  case oneOf rows =>
    have hrows : ∀ a ∈ rows.map fun items => (⟨items, pass⟩ : Alternative),
        Item.rowRefuses t.kind t.spelling absent a.items = true := by
      intro a ha
      obtain ⟨items, hitems, rfl⟩ := List.mem_map.1 ha
      exact allRefuse_eq_true hitem hitems
    exact goes_oneOf_missing (h.alternatives _ hrows)
  all_goals rw [readItem]
  case soft w => exact goes_take_missing ht (hname (bne_iff_ne.1 hitem)) nameNode
  case softKeyword => exact goes_take_missing ht (hname (bne_iff_ne.1 hitem)) nameNode
  case nameToken =>
    refine goes_take_missing ht ?_ nameNode
    exact beq_eq_false_iff_ne.2 (bne_iff_ne.1 hitem)
  case numberToken => exact goes_takeNumber_missing ht (bne_iff_ne.1 hitem)
  case stringTokens => exact goes_takeStrings_missing ht (bne_iff_ne.1 hitem)
  case separated separator item => exact (h.item item hitem).bind (goes_pure _)
  case stringToken | newline | indent | dedent | finish => exact hkind (bne_iff_ne.1 hitem)
  all_goals cases hitem

variable (ht : s.At i t) (habsent : ∀ p, absent p = true → p.isRefused t.kind t.spelling absent = true)
include ht habsent

/-- Phrases that the next token does not begin are missed, and so is what begins with them. -/
theorem misses (bound : Nat) {M : Memory} (hM : ∀ p, absent p = true → p.mode ≠ .plain → M.table p i = (none, i)) :
    Misses s t absent i bound M := by
  induction bound generalizing M with
  | zero =>
    refine ⟨fun p _ => ?_, fun p _ => ?_, fun as _ => chooses_zero, fun items done _ => ?_, fun item _ => ?_,
      fun item _ => ?_⟩
    · rw [readPhrase_zero]; exact goes_pure _
    · rw [grow_zero]; exact goes_goTo.bind (goes_pure _)
    · rw [readItems_zero]; exact goes_pure _
    · rw [readItem_zero]; exact goes_pure _
    · rw [readMany_zero]; exact goes_pure _
  | succ bound ih =>
    -- While a phrase grows, it counts as absent, which is what it is.
    have hwith : ∀ p q, absent q = true → q.mode ≠ .plain → (M.with p i (none, i)).table q i = (none, i) := by
      intro p q hq hmode
      simp only [Memory.with, hM q hq hmode, ite_self]
    have hmiss := ih hM
    have hrefused : ∀ p, absent p = true → s.Chooses M bound i p.alternatives none i := by
      intro p hp
      have hrows := (Bool.and_eq_true_iff.1 (habsent p hp)).2
      exact hmiss.alternatives _ (List.all_eq_true.1 hrows)
    refine ⟨fun p hp => ?_, fun p hp => goes_grow_end (hrefused p hp) (.inl rfl), fun as has => ?_,
      fun items done hitems => ?_, fun item hitem => ?_, fun item hitem => goes_readMany_nil (hmiss.item item hitem)⟩
    · have hchecked : p.mode ≠ .unchecked := bne_iff_ne.1 (Bool.and_eq_true_iff.1 (habsent p hp)).1
      cases hmode : p.mode with
      | plain => exact goes_plain hmode (hrefused p hp)
      | remembered => exact goes_remembered ht hmode (hM p hp (by simp [hmode])) (hrefused p hp)
      | growing =>
        have htable := hM p hp (by simp [hmode])
        refine goes_growing ht hmode htable fun st hst => Leads.forget htable ?_
        exact (ih (hwith p)).grow p hp st hst
      | unchecked => exact absurd hmode hchecked
    · cases as with
      | nil => exact chooses_nil
      | cons a as =>
        obtain ⟨ha, has⟩ := List.forall_mem_cons.1 has
        exact chooses_next (hmiss.row a.items [] ha) (hmiss.alternatives as has)
    · cases items with
      | nil => cases hitems
      | cons item rest =>
        refine goes_readItems_missing ?_ (hmiss.item item hitems)
        rintro rfl
        cases hitems
    · exact goes_item_missing ht hmiss hitem

omit habsent in
/-- A phrase is absent with others that the next token does not begin. -/
theorem goes_phrase_absent {ps : List Phrase} (hps : ∀ p ∈ ps, p.isRefused t.kind t.spelling ps.contains = true)
    {M : Memory} (hM : ∀ p ∈ ps, p.mode ≠ .plain → M.table p i = (none, i)) {p : Phrase} (hp : p ∈ ps) (bound : Nat) :
    Goes M (s.readPhrase bound p) i none i :=
  (misses ht (fun q hq => hps q (List.contains_iff_mem.1 hq)) bound fun q hq => hM q (List.contains_iff_mem.1 hq)).phrase
    p (List.contains_iff_mem.2 hp)

omit habsent in
/-- A row that begins with a word or a token that does not come next is missed. -/
theorem goes_row_missing {items : List Item} (h : Item.rowRefuses t.kind t.spelling (fun _ => false) items = true)
    (M : Memory) (bound : Nat) (done : List Node) : Goes M (s.readItems bound items false done) i (.missing false) i :=
  (misses ht (fun _ h => absurd h Bool.false_ne_true) bound fun _ h => absurd h Bool.false_ne_true).row items done h

end Source
end Rulebook.Expression
