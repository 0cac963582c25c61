import Rulebook.Proofs.Config.Path

/-!
# Data of a shape

Data fits a shape if it has the sections of the shape, and in them fields of the shape under their own names. Setting
single fields keeps data fitting, and the names in it need not be spelled again.
-/

namespace Rulebook.Config

open Value

/-- No two fields have the same name in lower case. -/
def OwnNames (of : List (String × Shape)) : Prop := (of.map fun f => Text.lower (Text.ofString f.1)).Nodup

instance (of : List (String × Shape)) : Decidable (OwnNames of) := inferInstanceAs (Decidable (List.Nodup _))

/-- A path leads through sections to a single field. -/
inductive Leads : List (String × Shape) → List Text → Prop
  | single {of : List (String × Shape)} {name : String} :
    OwnNames of → (name, .single) ∈ of → Leads of [Text.ofString name]
  | inner {of inside : List (String × Shape)} {name : String} {path : List Text} :
    OwnNames of → (name, .fields inside) ∈ of → Leads inside path → Leads of (Text.ofString name :: path)

/-- A value is data of a shape. -/
inductive Fits : Shape → Value → Prop
  | single (v : Value) : Fits .single v
  | fields {of : List (String × Shape)} {entries : List (Value × Value)} :
    DistinctKeys entries → OwnNames of → (∀ e ∈ entries, ∃ f ∈ of, e.1 = .text (Text.ofString f.1)) →
      (∀ e ∈ entries, ∀ f ∈ of, e.1 = .text (Text.ofString f.1) → Fits f.2 e.2) → Fits (.fields of) (.mapping entries)

section OwnNames

variable {of : List (String × Shape)} {f g : String × Shape} {path : List Text}

/-- Each field is the one that its own name is read as. -/
theorem OwnNames.find?_eq (h : OwnNames of) (hf : f ∈ of) :
    (of.find? fun g => Text.same (Text.lower g.1) (Text.lower f.1)) = some f := by
  induction of with
  | nil => cases hf
  | cons g of ih =>
    obtain ⟨hnew, hrest⟩ := List.nodup_cons.1 h
    rw [List.find?_cons]
    rcases List.mem_cons.1 hf with rfl | hf
    · rw [Text.same_self]
    · have hne : Text.same (Text.lower g.1) (Text.lower f.1) = false := by
        refine Bool.eq_false_iff.2 fun hsame => hnew ?_
        exact List.mem_map.2 ⟨f, hf, (Text.same_iff.1 hsame).symm⟩
      rw [hne]
      exact ih hrest hf

theorem OwnNames.eq_of_name_eq (h : OwnNames of) (hf : f ∈ of) (hg : g ∈ of)
    (hname : Text.ofString f.1 = Text.ofString g.1) : f = g := by
  have hfound := h.find?_eq hf
  rw [hname, h.find?_eq hg] at hfound
  exact (Option.some.inj hfound).symm

theorem Leads.ownNames (h : Leads of path) : OwnNames of := by
  cases h with
  | single hown => exact hown
  | inner hown => exact hown

theorem Leads.ne_nil (h : Leads of path) : path ≠ [] := by
  cases h <;> exact List.cons_ne_nil _ _

/-- A path starts with a field, and ends there or leads on from it into a section. -/
theorem Leads.exists_field {key : Text} (h : Leads of (key :: path)) :
    ∃ f ∈ of, Text.ofString f.1 = key ∧
      (f.2 = .single ∧ path = [] ∨ ∃ inside, f.2 = .fields inside ∧ Leads inside path) := by
  generalize hwhole : key :: path = whole at h
  cases h with
  | single _ hf =>
    obtain ⟨rfl, rfl⟩ := List.cons.inj hwhole
    exact ⟨_, hf, rfl, .inl ⟨rfl, rfl⟩⟩
  | inner _ hf hpath =>
    obtain ⟨rfl, rfl⟩ := List.cons.inj hwhole
    exact ⟨_, hf, rfl, .inr ⟨_, rfl, hpath⟩⟩

/-- Which of the two it is the shape of the field says. -/
theorem Leads.tail {name : String} {shape : Shape} (h : Leads of (Text.ofString name :: path))
    (hfield : (name, shape) ∈ of) :
    shape = .single ∧ path = [] ∨ ∃ inside, shape = .fields inside ∧ Leads inside path := by
  obtain ⟨f, hf, hname, hpath⟩ := h.exists_field
  obtain rfl := h.ownNames.eq_of_name_eq hf hfield hname
  exact hpath

/-- A path that starts with a section leads on from it. -/
theorem Leads.of_section {name : String} {inside : List (String × Shape)} (h : Leads of (Text.ofString name :: path))
    (hsection : (name, .fields inside) ∈ of) : Leads inside path := by
  rcases h.tail hsection with ⟨hsingle, -⟩ | ⟨_, hfields, hpath⟩
  · cases hsingle
  · exact Shape.fields.inj hfields ▸ hpath

/-- A path that starts with a single field ends there. -/
theorem Leads.of_single {name : String} (h : Leads of (Text.ofString name :: path)) (hsingle : (name, .single) ∈ of) :
    path = [] := by
  rcases h.tail hsingle with ⟨-, hpath⟩ | ⟨_, hfields, -⟩
  · exact hpath
  · cases hfields

end OwnNames

namespace Fits

variable {of : List (String × Shape)} {f : String × Shape} {entries : List (Value × Value)} {v : Value}
  {path : List Text}

theorem nil (h : OwnNames of) : Fits (.fields of) (.mapping []) :=
  .fields .nil h (fun _ he => absurd he List.not_mem_nil) fun _ he => absurd he List.not_mem_nil

theorem lookup (h : Fits (.fields of) (.mapping entries)) (hf : f ∈ of)
    (hv : lookupText (Text.ofString f.1) entries = some v) : Fits f.2 v := by
  cases h with
  | fields _ _ _ hparts => exact hparts _ (mem_of_lookupText hv) f hf rfl

theorem insertEntry (h : Fits (.fields of) (.mapping entries)) (hf : f ∈ of) (hv : Fits f.2 v) :
    Fits (.fields of) (.mapping (insertEntry (.text (Text.ofString f.1)) v entries)) := by
  cases h with
  | fields hdistinct hown hnames hparts =>
    refine .fields hdistinct.insertEntry hown (fun e he => ?_) fun e he g hg hkey => ?_
    · rcases mem_insertEntry_text he with rfl | he
      · exact ⟨f, hf, rfl⟩
      · exact hnames e he
    · rcases mem_insertEntry_text he with rfl | he
      · rwa [← hown.eq_of_name_eq hf hg (Value.text.inj hkey)]
      · exact hparts e he g hg hkey

/-- Setting a single field keeps data fitting. -/
theorem setAt (hleads : Leads of path) (h : Fits (.fields of) (.mapping entries)) (v : Value) :
    Fits (.fields of) (.mapping (setAt v path entries)) := by
  induction hleads generalizing entries with
  | single _ hf => exact h.insertEntry hf (.single v)
  | @inner of inside name path _ hf hleads ih =>
    cases path with
    | nil => exact absurd rfl hleads.ne_nil
    | cons next path =>
      rcases setAt_cons_cases v (Text.ofString name) next path entries with ⟨inner, hinner, hset⟩ | ⟨-, hset⟩
      · rw [hset]
        refine h.insertEntry hf (ih ?_)
        rw [← hinner]
        cases hw : lookupText (Text.ofString name) entries with
        | none => exact nil hleads.ownNames
        | some w => exact h.lookup hf hw
      · rw [hset]
        exact h

theorem tablesAlong (hleads : Leads of path) (h : Fits (.fields of) v) : TablesAlong path v := by
  induction hleads generalizing v with
  | single _ hf =>
    cases h with
    | fields hdistinct _ _ _ => exact tablesAlong_cons_mapping.2 ⟨hdistinct, fun _ _ => trivial⟩
  | inner _ hf _ ih =>
    cases h with
    | fields hdistinct hown hnames hparts =>
      refine tablesAlong_cons_mapping.2 ⟨hdistinct, fun w hw => ih ?_⟩
      exact lookup (.fields hdistinct hown hnames hparts) hf hw

end Fits

/-! ### Spelling -/

/-- Fields under their own names stay in place, where what is inside them stays the same. -/
theorem respelled_eq_append {of : List (String × Shape)} {entries done : List (Value × Value)} (hown : OwnNames of)
    (h : ∀ e ∈ entries, ∃ f ∈ of, e.1 = .text (Text.ofString f.1) ∧
      ∀ inner, f.2 = .fields inner → respelledValue inner e.2 = e.2)
    (hdistinct : DistinctKeys (done ++ entries)) : respelled of entries done = done ++ entries := by
  induction entries generalizing done with
  | nil => simp [respelled]
  | cons e entries ih =>
    obtain ⟨k, v⟩ := e
    obtain ⟨⟨f, hf, rfl, hinner⟩, hrest⟩ := List.forall_mem_cons.1 h
    obtain ⟨own, shape⟩ := f
    have hnew : lookup (.text (Text.ofString own)) done = none := by
      refine DistinctKeys.lookup_of_forall fun e he => ?_
      exact (List.pairwise_append.1 hdistinct).2.2 e he _ List.mem_cons_self
    -- a new key goes behind those that are done, which is where it stood
    have hcons : done ++ (.text (Text.ofString own), v) :: entries =
        insertEntry (.text (Text.ofString own)) v done ++ entries := by
      rw [DistinctKeys.insertEntry_of_lookup hnew, List.append_assoc]
      rfl
    rw [hcons] at hdistinct ⊢
    rw [respelled, hown.find?_eq hf]
    cases shape with
    | single => exact ih hrest hdistinct
    | fields inner =>
      dsimp only
      rw [hinner inner rfl]
      exact ih hrest hdistinct

/-- Data that fits is spelled as it should be. -/
theorem Fits.respelledValue_eq {of : List (String × Shape)} {v : Value} (h : Fits (.fields of) v) :
    respelledValue of v = v := by
  generalize hshape : Shape.fields of = shape at h
  induction h generalizing of with
  | single => cases hshape
  | @fields of' entries hdistinct hown hnames _ ih =>
    obtain rfl := Shape.fields.inj hshape
    have hrespelled : respelled of entries [] = [] ++ entries :=
      respelled_eq_append hown (fun e he => by
        obtain ⟨f, hf, hkey⟩ := hnames e he
        exact ⟨f, hf, hkey, fun inner hinner => ih e he f hf hkey hinner.symm⟩) hdistinct
    rw [respelledValue, hrespelled, List.nil_append]

end Rulebook.Config
