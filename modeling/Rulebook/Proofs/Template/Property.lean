import Rulebook.Proofs.Text.Order
import Rulebook.Template.Property

/-!
# Names of properties

The properties that every value has, and those of what is undefined, are internal ones: their names start with a low line.
-/

namespace Rulebook.Template

/-! ### Words of a literal -/

/-- The words of a text behind the reversed start of a word, one after the other. -/
def wordsFrom (word : Text) : Text → List Text
  | [] => if word.isEmpty then [] else [word.reverse]
  | c :: t =>
    if Text.isSpace c then (if word.isEmpty then wordsFrom [] t else word.reverse :: wordsFrom [] t)
    else wordsFrom (c :: word) t

/-- The words of a literal, from its characters. -/
theorem wordsOf_ofList (l : List Char) : wordsOf (String.ofList l) = wordsFrom [] (l.map Char.toNat) := by
  have hfold : ∀ (t word : Text) (done : List Text),
      let p := t.foldl
        (fun (word, done) c =>
          if Text.isSpace c then (([] : Text), if word.isEmpty then done else word.reverse :: done)
          else (c :: word, done))
        (word, done)
      (if p.1.isEmpty then p.2 else p.1.reverse :: p.2).reverse = done.reverse ++ wordsFrom word t := by
    intro t
    induction t with
    | nil =>
      intro word done
      rw [List.foldl_nil, wordsFrom]
      cases word <;> simp
    | cons c t ih =>
      intro word done
      rw [List.foldl_cons, wordsFrom]
      dsimp only
      split
      · rw [ih]
        split <;> simp
      · exact ih _ _
  have htext : Text.ofString (String.ofList l) = l.map Char.toNat := congrArg (List.map Char.toNat) String.toList_ofList
  unfold wordsOf
  rw [htext]
  exact hfold _ [] []

theorem forall_mem_wordsOf {p : Text → Prop} (l : List Char) (h : ∀ w ∈ wordsFrom [] (l.map Char.toNat), p w) :
    ∀ w ∈ wordsOf (String.ofList l), p w := by
  rwa [wordsOf_ofList]

/-! ### Internal properties -/

set_option maxRecDepth 4000 in
/-- The properties that every value has are internal ones. -/
theorem head?_of_mem_commonProperties {name : Text} (h : name ∈ commonProperties) : name.head? = some 0x5f := by
  unfold commonProperties at h
  exact forall_mem_wordsOf (p := fun w => w.head? = some 0x5f) _ (by decide) name h

set_option maxRecDepth 4000 in
/-- The properties of what is undefined are internal ones. -/
theorem head?_of_mem_undefinedProperties {name : Text} (h : name ∈ undefinedProperties) : name.head? = some 0x5f := by
  unfold undefinedProperties at h
  exact forall_mem_wordsOf (p := fun w => w.head? = some 0x5f) _ (by decide) name h

theorem hasProperty_iff {v : Value} {name : Text} :
    hasProperty v name = true ↔ name ∈ ownProperties v ∨ name ∈ commonProperties := by
  rw [hasProperty, Bool.or_eq_true, Text.any_same_iff, Text.any_same_iff]

/-- What is undefined has internal properties only. -/
theorem head?_of_hasProperty_undefined {u : Undefined} {name : Text} (h : hasProperty (.undefined u) name = true) :
    name.head? = some 0x5f := by
  rcases hasProperty_iff.1 h with h | h
  · rw [ownProperties] at h
    split at h
    · rcases List.mem_cons.1 h with rfl | h
      · decide
      · exact head?_of_mem_undefinedProperties h
    · exact head?_of_mem_undefinedProperties h
  · exact head?_of_mem_commonProperties h

end Rulebook.Template
