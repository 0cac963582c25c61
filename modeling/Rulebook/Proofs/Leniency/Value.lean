import Rulebook.Proofs.Leniency.Follows
import Rulebook.Template.Constant

/-!
# Values that differ in what is undefined

Under the two policies an expression has the same value, except that what is strictly undefined under the one may be
undefined in any way under the other. Such values look alike: they have the same numbers, texts and kinds. A value
without a part that is strictly undefined is the same under both.
-/

namespace Rulebook
open Template

/-- The second value is the first, with other undefined values in the place of those that are strictly undefined. The
keys of mappings and the members of sets are the same: nothing in them is strictly undefined. -/
inductive Value.Eases : Value → Value → Prop
  | same (v : Value) : Eases v v
  | undefined {u w : Undefined} (h : u.strict = true) : Eases (.undefined u) (.undefined w)
  | list {xs ys : List Value} (h : List.Forall₂ Eases xs ys) : Eases (.list xs) (.list ys)
  | tuple {xs ys : List Value} (h : List.Forall₂ Eases xs ys) : Eases (.tuple xs) (.tuple ys)
  | view (kind : ViewKind) {xs ys : List Value} (h : List.Forall₂ Eases xs ys) : Eases (.view kind xs) (.view kind ys)
  | mapping {xs ys : List (Value × Value)} (h : List.Forall₂ (Prod.RProd Eq Eases) xs ys) :
      Eases (.mapping xs) (.mapping ys)
  | record (typeName shown : Text) {xs ys : List (Text × Value)} (h : List.Forall₂ (Prod.RProd Eq Eases) xs ys) :
      Eases (.record typeName shown xs) (.record typeName shown ys)
  | method {v w : Value} (h : Eases v w) (htype : v.typeName = w.typeName) (name : Text) :
      Eases (.method v name) (.method w name)

/-- Values under names or keys that are the same. -/
abbrev EasesUnder {α : Type} : α × Value → α × Value → Prop := Prod.RProd Eq Value.Eases

theorem EasesUnder.key {α : Type} {p q : α × Value} (h : EasesUnder p q) : p.1 = q.1 := by
  obtain ⟨h, -⟩ := h
  exact h

theorem EasesUnder.value {α : Type} {p q : α × Value} (h : EasesUnder p q) : p.2.Eases q.2 := by
  obtain ⟨-, h⟩ := h
  exact h

namespace Value
variable {v w : Value} {vs ws : List Value}

theorem easesUnder_refl {α : Type} (p : α × Value) : EasesUnder p p := .intro rfl (.same p.2)

theorem forall₂_eases_refl (vs : List Value) : List.Forall₂ Eases vs vs := forall₂_refl .same vs

theorem forall₂_easesUnder_refl {α : Type} (es : List (α × Value)) : List.Forall₂ EasesUnder es es :=
  forall₂_refl easesUnder_refl es

theorem forall₂_easesUnder_keys {α : Type} {es fs : List (α × Value)} (h : List.Forall₂ EasesUnder es fs) :
    es.map (·.1) = fs.map (·.1) := by
  induction h with
  | nil => rfl
  | cons hef _ ih =>
    obtain ⟨rfl, -⟩ := hef
    simp [ih]

namespace Eases

theorem list_iff {xs : List Value} : Eases (.list xs) w ↔ ∃ ys, w = .list ys ∧ List.Forall₂ Eases xs ys := by
  constructor
  · intro h
    cases h with
    | same => exact ⟨xs, rfl, forall₂_eases_refl xs⟩
    | list h => exact ⟨_, rfl, h⟩
  · rintro ⟨ys, rfl, h⟩
    exact .list h

theorem tuple_iff {xs : List Value} : Eases (.tuple xs) w ↔ ∃ ys, w = .tuple ys ∧ List.Forall₂ Eases xs ys := by
  constructor
  · intro h
    cases h with
    | same => exact ⟨xs, rfl, forall₂_eases_refl xs⟩
    | tuple h => exact ⟨_, rfl, h⟩
  · rintro ⟨ys, rfl, h⟩
    exact .tuple h

theorem mapping_iff {es : List (Value × Value)} :
    Eases (.mapping es) w ↔ ∃ fs, w = .mapping fs ∧ List.Forall₂ EasesUnder es fs := by
  constructor
  · intro h
    cases h with
    | same => exact ⟨es, rfl, forall₂_easesUnder_refl es⟩
    | mapping h => exact ⟨_, rfl, h⟩
  · rintro ⟨ys, rfl, h⟩
    exact .mapping h

theorem view_iff {kind : ViewKind} {xs : List Value} :
    Eases (.view kind xs) w ↔ ∃ ys, w = .view kind ys ∧ List.Forall₂ Eases xs ys := by
  constructor
  · intro h
    cases h with
    | same => exact ⟨xs, rfl, forall₂_eases_refl xs⟩
    | view _ h => exact ⟨_, rfl, h⟩
  · rintro ⟨ys, rfl, h⟩
    exact .view kind h

theorem record_iff {kind shown : Text} {es : List (Text × Value)} :
    Eases (.record kind shown es) w ↔ ∃ fs, w = .record kind shown fs ∧ List.Forall₂ EasesUnder es fs := by
  constructor
  · intro h
    cases h with
    | same => exact ⟨es, rfl, forall₂_easesUnder_refl es⟩
    | record _ _ h => exact ⟨_, rfl, h⟩
  · rintro ⟨ys, rfl, h⟩
    exact .record kind shown h

theorem method_iff {u : Value} {name : Text} :
    Eases (.method u name) w ↔ ∃ v, w = .method v name ∧ Eases u v ∧ u.typeName = v.typeName := by
  constructor
  · intro h
    cases h with
    | same => exact ⟨u, rfl, .same u, rfl⟩
    | method h htype => exact ⟨_, rfl, h, htype⟩
  · rintro ⟨v, rfl, h, htype⟩
    exact .method h htype name

/-- Under a key that is the same the two values differ only in what is undefined. -/
theorem lookup {es fs : List (Value × Value)} (h : List.Forall₂ EasesUnder es fs) (k : Value) :
    Option.Rel Eases (Value.lookup k es) (Value.lookup k fs) := by
  induction h with
  | nil => exact .none
  | @cons e f es fs hef _ ih =>
    obtain ⟨rfl, hv⟩ := hef
    rw [Value.lookup, Value.lookup]
    split
    · exact .some hv
    · exact ih

/-! ### What looks alike -/

theorem asInteger? (h : Eases v w) : v.asInteger? = w.asInteger? := by
  cases h <;> rfl

theorem asNumber? (h : Eases v w) : asNumber? v = asNumber? w := by
  cases h <;> rfl

/-- A number is the same under both policies. -/
theorem eq_of_asNumber? (h : Eases v w) (hv : (Template.asNumber? v).isSome) : w = v := by
  cases h with
  | same => rfl
  | _ => cases hv

mutual

/-- What is undefined is shown in one way. -/
theorem display {v w : Value} (h : Eases v w) : v.display = w.display := by
  cases h with
  | same => rfl
  | undefined => rfl
  | list h => simp only [Value.display, displayAll h]
  | tuple h => simp only [Value.display, displayAll h]
  | view kind h => simp only [Value.display, displayAll h]
  | mapping h => simp only [Value.display, displayEntries h]
  | record => rfl
  | method h htype name => simp only [Value.display, htype]

theorem displayAll {vs ws : List Value} (h : List.Forall₂ Eases vs ws) (done : List Text) :
    Value.displayAll vs done = Value.displayAll ws done := by
  cases h with
  | nil => rfl
  | cons h hs => simp only [Value.displayAll, display h, displayAll hs]

theorem displayEntries {es fs : List (Value × Value)} (h : List.Forall₂ EasesUnder es fs) (done : List Text) :
    Value.displayEntries es done = Value.displayEntries fs done := by
  cases h with
  | nil => rfl
  | cons h hs =>
    obtain ⟨rfl, h⟩ := h
    simp only [Value.displayEntries, display h, displayEntries hs]

end

theorem follows_plain (h : Eases v w) : Follows Eq v.plain w.plain := by
  have hdisplay := h.display
  cases h with
  | same => exact .eq _
  | undefined h => simp [Value.plain, h]
  | _ => exact .of_eq hdisplay

mutual

theorem showsAddress {v w : Value} (h : Eases v w) : Template.showsAddress v = Template.showsAddress w := by
  cases h with
  | same => rfl
  | list h | tuple h | view kind h => simp only [Template.showsAddress, anyShowsAddress h]
  | mapping h => simp only [Template.showsAddress, anyEntryShowsAddress h]
  | _ => rfl

theorem anyShowsAddress {vs ws : List Value} (h : List.Forall₂ Eases vs ws) :
    Template.anyShowsAddress vs = Template.anyShowsAddress ws := by
  cases h with
  | nil => rfl
  | cons h hs => simp only [Template.anyShowsAddress, showsAddress h, anyShowsAddress hs]

theorem anyEntryShowsAddress {es fs : List (Value × Value)} (h : List.Forall₂ EasesUnder es fs) :
    Template.anyEntryShowsAddress es = Template.anyEntryShowsAddress fs := by
  cases h with
  | nil => rfl
  | cons h hs =>
    obtain ⟨rfl, h⟩ := h
    simp only [Template.anyEntryShowsAddress, showsAddress h, anyEntryShowsAddress hs]

end

theorem displayed (h : Eases v w) : Template.displayed v = Template.displayed w := by
  rw [Template.displayed, Template.displayed, h.showsAddress, h.display]

theorem follows_printed (h : Eases v w) : Follows Eq (printed v) (printed w) := by
  rw [printed, printed, h.showsAddress]
  exact .ite (.eq _) h.follows_plain

/-- Only something undefined changes its type. -/
theorem typeName (h : Eases v w) (hv : ∀ u, v ≠ .undefined u) : v.typeName = w.typeName := by
  cases h with
  | undefined => exact absurd rfl (hv _)
  | _ => rfl

mutual

theorem isConstantValue {v w : Value} (h : Eases v w) : isConstantValue v = isConstantValue w := by
  cases h with
  | same => rfl
  | list h | tuple h => simp only [Template.isConstantValue, allConstantValues h]
  | mapping h => simp only [Template.isConstantValue, allConstantEntries h]
  | _ => rfl

theorem allConstantValues {vs ws : List Value} (h : List.Forall₂ Eases vs ws) :
    Template.allConstantValues vs = Template.allConstantValues ws := by
  cases h with
  | nil => rfl
  | cons h hs => simp only [Template.allConstantValues, isConstantValue h, allConstantValues hs]

theorem allConstantEntries {es fs : List (Value × Value)} (h : List.Forall₂ EasesUnder es fs) :
    Template.allConstantEntries es = Template.allConstantEntries fs := by
  cases h with
  | nil => rfl
  | cons h hs =>
    obtain ⟨rfl, h⟩ := h
    simp only [Template.allConstantEntries, isConstantValue h, allConstantEntries hs]

end

/-! ### Values without a part that is strictly undefined -/

mutual

theorem eq_of_strictPart?_eq_none {v w : Value} (h : Eases v w) (hv : strictPart? v = none) : w = v := by
  cases h with
  | same => rfl
  | undefined h => simp [strictPart?, h] at hv
  | list h =>
    rw [strictPart?] at hv
    rw [eq_of_strictPartIn?_eq_none h hv]
  | tuple h =>
    rw [strictPart?] at hv
    rw [eq_of_strictPartIn?_eq_none h hv]
  | view kind h =>
    rw [strictPart?] at hv
    rw [eq_of_strictPartIn?_eq_none h hv]
  | mapping h =>
    rw [strictPart?] at hv
    rw [eq_of_strictPartOfEntries?_eq_none h hv]
  | record typeName shown h =>
    rw [strictPart?] at hv
    rw [eq_of_strictPartOfFields?_eq_none h hv]
  | method h htype name =>
    rw [strictPart?] at hv
    rw [eq_of_strictPart?_eq_none h hv]

theorem eq_of_strictPartIn?_eq_none {vs ws : List Value} (h : List.Forall₂ Eases vs ws)
    (hvs : strictPartIn? vs = none) : ws = vs := by
  cases h with
  | nil => rfl
  | cons h hs =>
    rw [strictPartIn?, Option.or_eq_none_iff] at hvs
    rw [eq_of_strictPart?_eq_none h hvs.1, eq_of_strictPartIn?_eq_none hs hvs.2]

theorem eq_of_strictPartOfEntries?_eq_none {es fs : List (Value × Value)} (h : List.Forall₂ EasesUnder es fs)
    (hes : strictPartOfEntries? es = none) : fs = es := by
  cases h with
  | nil => rfl
  | cons h hs =>
    obtain ⟨rfl, h⟩ := h
    simp only [strictPartOfEntries?, Option.or_eq_none_iff] at hes
    rw [eq_of_strictPart?_eq_none h hes.1.2, eq_of_strictPartOfEntries?_eq_none hs hes.2]

theorem eq_of_strictPartOfFields?_eq_none {es fs : List (Text × Value)} (h : List.Forall₂ EasesUnder es fs)
    (hes : strictPartOfFields? es = none) : fs = es := by
  cases h with
  | nil => rfl
  | cons h hs =>
    obtain ⟨rfl, h⟩ := h
    simp only [strictPartOfFields?, Option.or_eq_none_iff] at hes
    rw [eq_of_strictPart?_eq_none h hes.1, eq_of_strictPartOfFields?_eq_none hs hes.2]

end

mutual

/-- A constant holds nothing that is undefined. -/
theorem eq_of_isConstantValue {v w : Value} (h : Eases v w) (hv : Template.isConstantValue v = true) : w = v := by
  cases h with
  | same => rfl
  | list h =>
    rw [Template.isConstantValue] at hv
    rw [eq_of_allConstantValues h hv]
  | tuple h =>
    rw [Template.isConstantValue] at hv
    rw [eq_of_allConstantValues h hv]
  | mapping h =>
    rw [Template.isConstantValue] at hv
    rw [eq_of_allConstantEntries h hv]
  | _ => cases hv

theorem eq_of_allConstantValues {vs ws : List Value} (h : List.Forall₂ Eases vs ws)
    (hvs : Template.allConstantValues vs = true) : ws = vs := by
  cases h with
  | nil => rfl
  | cons h hs =>
    rw [Template.allConstantValues, Bool.and_eq_true] at hvs
    rw [eq_of_isConstantValue h hvs.1, eq_of_allConstantValues hs hvs.2]

theorem eq_of_allConstantEntries {es fs : List (Value × Value)} (h : List.Forall₂ EasesUnder es fs)
    (hes : Template.allConstantEntries es = true) : fs = es := by
  cases h with
  | nil => rfl
  | cons h hs =>
    obtain ⟨rfl, h⟩ := h
    simp only [Template.allConstantEntries, Bool.and_eq_true] at hes
    rw [eq_of_isConstantValue h hes.1.2, eq_of_allConstantEntries hs hes.2]

end

end Eases

end Value
end Rulebook
