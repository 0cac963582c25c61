import Rulebook.Proofs.Template.Outline

/-!
# Rewriting references word by word

Rewriting passes over a text from left to right. Where a mark has something behind it that is not white space, the
reference takes all up to the next white space; elsewhere a sign stays as it is. So each text is read in one of three
ways, and what holds in all three holds of every text (`reference_induction`). No reference goes into white space,
hence a text that is parted before white space is rewritten part by part.
-/

namespace Rulebook

/-- The text of a reference in a token. -/
def variableToken (n : Text) : Text := variableMark :: n

namespace Template
open Text

/-- The text is empty or begins with white space, so that a word in front of it ends there. -/
def EndsWord (t : Text) : Prop := ∀ c ∈ t.head?, isSpace c = true

variable {c : CodePoint} {t n rest : Text}

theorem endsWord_nil : EndsWord [] := by simp [EndsWord]

theorem endsWord_cons : EndsWord (c :: t) ↔ isSpace c = true := by simp [EndsWord]

theorem EndsWord.append (h : EndsWord t) (hrest : EndsWord rest) : EndsWord (t ++ rest) := by
  cases t with
  | nil => exact hrest
  | cons c t => exact endsWord_cons.2 (endsWord_cons.1 h)

theorem takeWhile_eq_nil_iff : t.takeWhile (fun d => !isSpace d) = [] ↔ EndsWord t := by
  rw [takeWhile_eq_nil_iff_head?]
  simp [EndsWord]

theorem endsWord_dropWhile (t : Text) : EndsWord (t.dropWhile fun d => !isSpace d) := by
  intro c hc
  simpa using head?_dropWhile t c hc

/-- A word goes up to where it ends. -/
theorem takeWhile_dropWhile_word (hspace : ∀ c ∈ n, isSpace c = false) (h : EndsWord rest) :
    (n ++ rest).takeWhile (fun d => !isSpace d) = n ∧ (n ++ rest).dropWhile (fun d => !isSpace d) = rest :=
  takeWhile_dropWhile_append rest (fun c hc => by simp [hspace c hc]) fun c hc => by simp [h c hc]

/-! ### One sign or one reference at a time -/

theorem toTemplateLoop_done (fuel : Nat) (done t : Text) :
    toTemplateLoop fuel done t = done.reverse ++ toTemplateLoop fuel [] t := by
  induction fuel generalizing done t with
  | zero => simp [toTemplateLoop]
  | succ fuel ih =>
    cases t with
    | nil => simp [toTemplateLoop]
    | cons c t =>
      rw [toTemplateLoop, toTemplateLoop, ih (c :: done), ih [c]]
      split
      · split
        · simp
        · rw [ih (_ ++ done), ih (_ ++ [])]
          simp
      · simp

/-- Any fuel beyond the length of the text rewrites all of it. -/
theorem toTemplateLoop_fuel {k l : Nat} (hk : t.length < k) (hl : t.length < l) (done : Text) :
    toTemplateLoop k done t = toTemplateLoop l done t := by
  induction k generalizing t l done with
  | zero => exact absurd hk (Nat.not_lt_zero _)
  | succ k ih =>
    obtain ⟨l, rfl⟩ := Nat.exists_eq_add_one.2 (Nat.zero_lt_of_lt hl)
    cases t with
    | nil => rfl
    | cons c t =>
      rw [List.length_cons, Nat.add_lt_add_iff_right] at hk hl
      have hshorter := List.length_dropWhile_le (fun d => !isSpace d) t
      rw [toTemplateLoop, toTemplateLoop]
      split
      · split
        · exact ih hk hl _
        · exact ih (Nat.lt_of_le_of_lt hshorter hk) (Nat.lt_of_le_of_lt hshorter hl) _
      · exact ih hk hl _

theorem toTemplateLoop_eq {fuel : Nat} (hfuel : t.length < fuel) (done : Text) :
    toTemplateLoop fuel done t = done.reverse ++ toTemplate t := by
  rw [toTemplateLoop_done, toTemplateLoop_fuel hfuel (Nat.lt_succ_self _), toTemplate]

theorem toTemplate_nil : toTemplate [] = [] := rfl

/-- A sign that opens no reference stays. -/
theorem toTemplate_cons (h : c = variableMark → EndsWord t) : toTemplate (c :: t) = c :: toTemplate t := by
  have hstay : toTemplateLoop (t.length + 1) [c] t = c :: toTemplate t := toTemplateLoop_eq (Nat.lt_succ_self _) [c]
  rw [toTemplate, List.length_cons, toTemplateLoop, hstay]
  split
  · next hmark => rw [takeWhile_eq_nil_iff.2 (h hmark)]
  · rfl

/-- A reference goes up to the next white space and becomes the placeholder for all of it. -/
theorem toTemplate_reference (hn : n ≠ []) (hspace : ∀ c ∈ n, isSpace c = false) (h : EndsWord rest) :
    toTemplate (variableToken n ++ rest) = placeholder n ++ toTemplate rest := by
  obtain ⟨htake, hdrop⟩ := takeWhile_dropWhile_word hspace h
  have hfuel : rest.length < (n ++ rest).length + 1 := by
    rw [List.length_append]
    omega
  rw [variableToken, List.cons_append, toTemplate, List.length_cons, toTemplateLoop, if_pos rfl, htake, hdrop]
  split
  · exact absurd rfl hn
  · rw [toTemplateLoop_eq hfuel]
    simp

/-- A reference alone becomes a placeholder. -/
theorem toTemplate_variableToken (hn : n ≠ []) (hspace : ∀ c ∈ n, isSpace c = false) :
    toTemplate (variableToken n) = placeholder n := by
  simpa [toTemplate_nil] using toTemplate_reference hn hspace endsWord_nil

/-- White space opens no reference. -/
theorem toTemplate_space (h : isSpace c = true) : toTemplate (c :: t) = c :: toTemplate t := by
  refine toTemplate_cons ?_
  rintro rfl
  exact absurd h (by decide)

/-- A text is empty, begins with a sign that opens no reference, or begins with a reference up to white space. -/
theorem reference_induction {P : Text → Prop} (nil : P [])
    (cons : ∀ c t, (c = variableMark → EndsWord t) → P t → P (c :: t))
    (reference : ∀ n rest, n ≠ [] → (∀ c ∈ n, isSpace c = false) → EndsWord rest → P rest → P (variableToken n ++ rest))
    (t : Text) : P t := by
  induction hlength : t.length using Nat.strong_induction_on generalizing t with
  | _ k ih =>
    subst hlength
    cases t with
    | nil => exact nil
    | cons c t =>
      by_cases hstays : c = variableMark → EndsWord t
      · exact cons c t hstays (ih t.length (Nat.lt_succ_self _) t rfl)
      obtain ⟨rfl, hopens⟩ := Classical.not_imp.1 hstays
      have hshorter := List.length_dropWhile_le (fun d => !isSpace d) t
      have hrest := ih _ (Nat.lt_succ_of_le hshorter) _ rfl
      have hparts := reference _ _ (mt takeWhile_eq_nil_iff.1 hopens)
        (fun d hd => by simpa using List.mem_takeWhile_imp hd) (endsWord_dropWhile t) hrest
      rwa [variableToken, List.cons_append, List.takeWhile_append_dropWhile] at hparts

/-- Rewriting goes part by part where the second part is empty or begins with white space. -/
theorem toTemplate_append (t : Text) (h : EndsWord rest) :
    toTemplate (t ++ rest) = toTemplate t ++ toTemplate rest := by
  induction t using reference_induction with
  | nil => rfl
  | cons c t hc ih =>
    rw [List.cons_append, toTemplate_cons fun hmark => (hc hmark).append h, ih, toTemplate_cons hc, List.cons_append]
  | reference n t hn hspace ht ih =>
    rw [List.append_assoc, toTemplate_reference hn hspace (ht.append h), ih, toTemplate_reference hn hspace ht,
      List.append_assoc]

/-! ### Texts taken apart at their references -/

/-- Each mark of the text is its last sign or has white space behind it, so that none opens a reference. -/
def NoReference (t : Text) : Prop := ∀ before c after, t = before ++ variableMark :: c :: after → isSpace c = true

theorem noReference_nil : NoReference [] := by
  intro before c after h
  simp at h

theorem noReference_cons : NoReference (c :: t) ↔ (c = variableMark → EndsWord t) ∧ NoReference t := by
  constructor
  · intro h
    refine ⟨?_, fun before d after ht => h (c :: before) d after (by rw [ht]; rfl)⟩
    rintro rfl
    cases t with
    | nil => exact endsWord_nil
    | cons d t => exact endsWord_cons.2 (h [] d t rfl)
  · rintro ⟨hc, ht⟩ before d after h
    cases before with
    | nil =>
      obtain ⟨rfl, rfl⟩ := List.cons.inj h
      exact endsWord_cons.1 (hc rfl)
    | cons e before =>
      obtain ⟨rfl, rfl⟩ := List.cons.inj h
      exact ht before d after rfl

theorem noReference_of_notMem (h : variableMark ∉ t) : NoReference t := by
  rintro before c after rfl
  simp at h

/-- A mark that ends the text opens no reference. -/
theorem noReference_append_mark (h : variableMark ∉ t) : NoReference (t ++ [variableMark]) := by
  induction t with
  | nil => exact noReference_cons.2 ⟨fun _ => endsWord_nil, noReference_nil⟩
  | cons c t ih =>
    rw [List.mem_cons, not_or] at h
    exact noReference_cons.2 ⟨fun hc => absurd hc.symm h.1, ih h.2⟩

/-- What stands in front of a reference or of the end of the text stays. -/
theorem toTemplate_outside (h : NoReference (t ++ rest.head?.toList)) : toTemplate (t ++ rest) = t ++ toTemplate rest := by
  induction t with
  | nil => rfl
  | cons c t ih =>
    obtain ⟨hc, ht⟩ := noReference_cons.1 h
    have hhead : (t ++ rest.head?.toList).head? = (t ++ rest).head? := by cases rest <;> simp
    have hstays : c = variableMark → EndsWord (t ++ rest) := by
      intro hmark d hd
      exact hc hmark d (hhead ▸ hd)
    rw [List.cons_append, toTemplate_cons hstays, ih ht, List.cons_append]

theorem toTemplate_of_noReference (h : NoReference t) : toTemplate t = t := by
  have hnone : NoReference (t ++ ([] : Text).head?.toList) := by simpa using h
  simpa [toTemplate_nil] using toTemplate_outside hnone

/-- Names with the text before each, and the text behind the last, as a text with references to these names is read: the
names are words, each ends before white space or with the text, and no reference begins in the other texts. -/
def PartedAtReferences : List (Text × Text) → Text → Prop
  | [], tail => NoReference tail
  | (before, n) :: references, tail =>
    NoReference (before ++ [variableMark]) ∧ n ≠ [] ∧ (∀ c ∈ n, isSpace c = false) ∧
      EndsWord (assemble variableToken references tail) ∧ PartedAtReferences references tail

/-- Each text is parted at its references. -/
theorem exists_partedAtReferences (t : Text) :
    ∃ references tail, PartedAtReferences references tail ∧ t = assemble variableToken references tail := by
  induction t using reference_induction with
  | nil => exact ⟨[], [], noReference_nil, rfl⟩
  | cons c t hc ih =>
    obtain ⟨references, tail, hparted, rfl⟩ := ih
    cases references with
    | nil => exact ⟨[], c :: tail, noReference_cons.2 ⟨hc, hparted⟩, rfl⟩
    | cons r references =>
      obtain ⟨before, n⟩ := r
      obtain ⟨hbefore, hparted⟩ := hparted
      have hstays : c = variableMark → EndsWord (before ++ [variableMark]) := by
        intro hmark d hd
        refine hc hmark d ?_
        cases before <;> exact hd
      refine ⟨(c :: before, n) :: references, tail, ⟨noReference_cons.2 ⟨hstays, hbefore⟩, hparted⟩, ?_⟩
      simp [assemble_cons]
  | reference n rest hn hspace hrest ih =>
    obtain ⟨references, tail, hparted, rfl⟩ := ih
    exact ⟨([], n) :: references, tail, ⟨noReference_append_mark List.not_mem_nil, hn, hspace, hrest, hparted⟩,
      (assemble_cons variableToken ([], n) references tail).symm⟩

/-- The references become placeholders, and the texts around them stay. -/
theorem toTemplate_assemble {references : List (Text × Text)} {tail : Text} (h : PartedAtReferences references tail) :
    toTemplate (assemble variableToken references tail) = assemble placeholder references tail := by
  induction references with
  | nil => exact toTemplate_of_noReference h
  | cons r references ih =>
    obtain ⟨hbefore, hn, hspace, hrest, hparted⟩ := h
    rw [assemble_cons, toTemplate_outside hbefore, toTemplate_reference hn hspace hrest, ih hparted, assemble_cons]

end Template
end Rulebook
