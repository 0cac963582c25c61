import Rulebook.Proofs.Leniency.Equality
import Rulebook.Template.Format

/-!
# Format texts and values that differ in what is undefined

A format text that strict values fill is filled in the same way by the values that they ease to.
-/

namespace Rulebook.Template.Format
open Value (Eases)

/-- The values for the places that are left differ only in what is undefined. -/
inductive Supply.Eases : Supply → Supply → Prop
  | row {vs ws : List Value} (h : List.Forall₂ Value.Eases vs ws) : Eases (.row vs) (.row ws)
  | single {v w : Value} (h : Value.Eases v w) (mayRemain : Bool) : Eases (.single v mayRemain) (.single w mayRemain)
  | used : Eases .used .used

/-- Parts of a format text that are the same, behind values that differ only in what is undefined. -/
abbrev EasesBefore {α : Type} : Supply × α → Supply × α → Prop := Prod.RProd Supply.Eases Eq

/-- Results of reading that are the same, before what differs only in what is undefined. -/
abbrev EasesBehind {α : Type} : α × Supply × Text → α × Supply × Text → Prop := Prod.RProd Eq EasesBefore

variable {v w : Value} {s s' : Supply}

theorem Supply.Eases.finished (h : s.Eases s') : s.finished = s'.finished := by
  cases h with
  | row h => cases h <;> rfl
  | _ => rfl

theorem follows_next (h : s.Eases s') : Follows (Prod.RProd Value.Eases Supply.Eases) s.next s'.next := by
  cases h with
  | row h =>
    cases h with
    | nil => exact follows_error _ _
    | cons h hs => exact follows_ok_ok.2 ⟨h, .row hs⟩
  | single h => exact follows_ok_ok.2 ⟨h, .used⟩
  | used => exact follows_error _ _

theorem follows_readSize (m : Measure) (t : Text) (h : s.Eases s') :
    Follows EasesBehind (readSize m s t) (readSize m s' t) := by
  unfold readSize
  split
  · refine (follows_next h).bind ?_
    rintro ⟨v, s⟩ ⟨w, s'⟩ ⟨hv, hs⟩
    dsimp only
    rw [← hv.asInteger?]
    split
    · exact .ite (follows_ok_ok.2 ⟨rfl, hs, rfl⟩) (follows_error _ _)
    · exact follows_error _ _
  · dsimp only
    refine .ite (follows_ok_ok.2 ⟨rfl, h, rfl⟩) (.ite (follows_error _ _) (follows_ok_ok.2 ⟨rfl, h, rfl⟩))

/-- What is undefined, and what has parts, is no number. -/
theorem follows_wholeNumber (c : CodePoint) (h : Eases v w) : Follows Eq (wholeNumber c v) (wholeNumber c w) := by
  cases h with
  | same => exact .eq _
  | _ => exact .ite (follows_error _ _) (follows_error _ _)

theorem follows_written (style : Style) (index : Nat) (c : CodePoint) (h : Eases v w) :
    Follows Eq (written style index c v) (written style index c w) := by
  have hwhole : Follows Eq (whole style c v) (whole style c w) :=
    (follows_wholeNumber c h).bind_eq fun n => .eq _
  have hreal : Follows Eq (real style c v) (real style c w) := by
    cases h with
    | same => exact .eq _
    | _ => simp [real, asNumber?]
  have hcharacter : Follows Eq (character v) (character w) := by
    cases h with
    | same => exact .eq _
    | _ => simp [character, Value.asInteger?]
  unfold written
  dsimp only
  refine .ite ?_ (.ite hwhole (.ite hreal (.ite ?_ (.eq _))))
  · exact .ite (h.follows_printed.bind_eq fun t => .eq _) ((Follows.of_eq h.displayed).bind_eq fun t => .eq _)
  · exact hcharacter.bind_eq fun t => .eq _

/-! ### Places -/

variable {m m' : Option Value}

theorem follows_keyed (key : Text) (hm : Option.Rel Eases m m') : Follows Eases (keyed m key) (keyed m' key) := by
  cases hm with
  | none => exact follows_error _ _
  | some h =>
    cases h with
    | same => exact .refl .same _
    | mapping h =>
      have hlookup := Eases.lookup h (.text key)
      simp only [keyed, Value.lookupText]
      generalize Value.lookup (.text key) _ = o at hlookup ⊢
      generalize Value.lookup (.text key) _ = o' at hlookup ⊢
      cases hlookup with
      | none => exact follows_error _ _
      | some h => exact follows_ok_ok.2 h
    | _ => exact follows_error _ _

theorem follows_readKeyed (t : Text) (hm : Option.Rel Eases m m') (h : s.Eases s') :
    Follows EasesBefore (readKeyed m s t) (readKeyed m' s' t) := by
  have hnone : m.isNone = m'.isNone := by cases hm <;> rfl
  unfold readKeyed
  rw [hnone]
  split
  · refine .ite (follows_error _ _) ?_
    split
    · exact follows_error _ _
    · exact (follows_keyed _ hm).bind fun v w hv => follows_ok_ok.2 ⟨.single hv true, rfl⟩
  · exact follows_ok_ok.2 ⟨h, rfl⟩

theorem follows_readPrecision (style : Style) (t : Text) (h : s.Eases s') :
    Follows EasesBehind (readPrecision style s t) (readPrecision style s' t) := by
  unfold readPrecision
  split
  · refine (follows_readSize _ _ h).bind ?_
    rintro ⟨precision, s, rest⟩ ⟨_, s', _⟩ ⟨rfl, hs, rfl⟩
    exact follows_ok_ok.2 ⟨rfl, hs, rfl⟩
  · exact follows_ok_ok.2 ⟨rfl, h, rfl⟩

theorem follows_readPlace (t : Text) (hm : Option.Rel Eases m m') (h : s.Eases s') :
    Follows EasesBehind (readPlace m s t) (readPlace m' s' t) := by
  refine (follows_readKeyed t hm h).bind ?_
  rintro ⟨s, rest⟩ ⟨s', _⟩ ⟨hs, rfl⟩
  refine (follows_readSize _ _ hs).bind ?_
  rintro ⟨width, s, rest⟩ ⟨_, s', _⟩ ⟨rfl, hs, rfl⟩
  refine (follows_readPrecision _ _ hs).bind ?_
  rintro ⟨style, s, rest⟩ ⟨_, s', _⟩ ⟨rfl, hs, rfl⟩
  exact follows_ok_ok.2 ⟨rfl, hs, rfl⟩

theorem follows_loop (size fuel : Nat) (done t : Text) (hm : Option.Rel Eases m m') (h : s.Eases s') :
    Follows Eq (loop size m fuel s done t) (loop size m' fuel s' done t) := by
  induction fuel generalizing s s' done t with
  | zero => exact .eq _
  | succ fuel ih =>
    cases t with
    | nil =>
      rw [loop, loop, h.finished]
      exact .ite (.eq _) (.eq _)
    | cons c rest =>
      unfold loop
      refine .ite (ih _ _ h) ?_
      split
      · exact ih _ _ h
      refine (follows_readPlace rest hm h).bind ?_
      rintro ⟨style, s, rest⟩ ⟨_, s', _⟩ ⟨rfl, hs, rfl⟩
      dsimp only
      split
      · exact follows_error _ _
      · exact ih _ _ hs
      · refine (follows_next hs).bind ?_
        rintro ⟨v, s⟩ ⟨w, s'⟩ ⟨hv, hs⟩
        exact (follows_written _ _ _ hv).bind_eq fun t => ih _ _ hs

theorem follows_apply (t : Text) (h : Eases v w) : Follows Eq (apply t v) (apply t w) := by
  have hsingle : ∀ {v w}, Eases v w → takesKeys v = takesKeys w → Follows Eq
      (loop t.length (if takesKeys v then some v else none) (t.length + 1)
        (.single v (if takesKeys v then some v else none).isSome) [] t)
      (loop t.length (if takesKeys w then some w else none) (t.length + 1)
        (.single w (if takesKeys w then some w else none).isSome) [] t) := by
    intro v w h hkeys
    rw [← hkeys]
    split
    · exact follows_loop _ _ _ _ (.some h) (.single h _)
    · exact follows_loop _ _ _ _ .none (.single h _)
  cases h with
  | same => exact .eq _
  | tuple h => exact follows_loop _ _ _ _ .none (.row h)
  | undefined h => exact hsingle (.undefined h) rfl
  | list h => exact hsingle (.list h) rfl
  | view kind h => exact hsingle (.view kind h) rfl
  | mapping h => exact hsingle (.mapping h) rfl
  | record typeName shown h => exact hsingle (.record typeName shown h) rfl
  | method h htype name => exact hsingle (.method h htype name) rfl

end Rulebook.Template.Format
