import Rulebook.Template.Program

/-!
# What is offered

Of what templates can use, some is left out here: filters that give texts marked as safe, iterators, or what only chance,
the locale or a longer table decides; the test for identity; escaping of what is put out; other templates that a template
extends; blocks that see the names around them; properties that are assigned to; slices inside tuples; and conditions
on the items of a loop, which are asked while the loop runs. All else is offered, with the words for it. What is left out
of the methods, functions and operations depends on the values: it is a fault of its own kind, `leftOut`, where a
template comes to it, such as a text or a comparison that tells where a value is kept.

Two questions tell something strictly undefined from something undefined in another way, without failing: whether it is
a sequence, and whether it has the property that tests membership. A use that asks neither is impartial, and neutral
if it is offered besides.
-/

namespace Rulebook.Template

/-- The filters that are left out. -/
def leftOutFilters : List Text :=
  ["batch", "dictsort", "e", "escape", "filesizeformat", "forceescape", "groupby", "indent", "items", "map", "pprint",
    "random", "reject", "rejectattr", "reverse", "safe", "select", "selectattr", "slice", "sort", "striptags", "tojson",
    "truncate", "unique", "urlencode", "urlize", "wordwrap", "xmlattr"].map Text.ofString

/-- What is used is offered. -/
def Use.isOffered : Use → Bool
  | .ask .filter name => !leftOutFilters.any (Text.same name)
  | .ask .test name => !Text.same name "sameas"
  | .tuple sliced => !sliced
  | .namespaceTarget => false
  | .loop chosen => !chosen
  | .escaping => false
  | .block isScoped => !isScoped
  | .inheritance => false
  | .property _ => true
  | .arguments _ => true
  | .parameters _ => true

/-- The property that only strictly undefined values have. -/
def membershipProperty : Text := "__contains__"

/-- The name asks of a value whether it is a sequence. -/
def Asked.isSequenceTest (asked : Asked) (name : Text) : Bool := asked == .test && name.toStringLossy == "sequence"

/-- The use does not ask what kind of undefined value something is. -/
def Use.isImpartial : Use → Bool
  | .ask asked name => !asked.isSequenceTest name
  | .property name => name != membershipProperty
  | _ => true

/-- The use is offered and impartial. -/
def Use.isNeutral (w : Use) : Bool := w.isOffered && w.isImpartial

/-- All uses are impartial. -/
def Impartial (ws : List Use) : Prop := ∀ w ∈ ws, w.isImpartial = true

section
variable {w : Use} {ws ws' : List Use}

@[simp] theorem impartial_nil : Impartial [] := nofun

@[simp] theorem impartial_cons : Impartial (w :: ws) ↔ w.isImpartial = true ∧ Impartial ws := List.forall_mem_cons

@[simp] theorem impartial_append : Impartial (ws ++ ws') ↔ Impartial ws ∧ Impartial ws' := List.forall_mem_append

theorem Impartial.mono (h : Impartial ws) (hsubset : ws' ⊆ ws) : Impartial ws' := fun w hw => h w (hsubset hw)

theorem impartial_of_neutral (h : ws.all Use.isNeutral = true) : Impartial ws := by
  intro w hw
  exact (Bool.and_eq_true_iff.1 (List.all_eq_true.1 h w hw)).2

theorem Impartial.tail (h : Impartial (w :: ws)) : Impartial ws := (impartial_cons.1 h).2

end

end Rulebook.Template
