import Rulebook.Proofs.Outcome
import Rulebook.Proofs.Value.Display
import Rulebook.Template.Access
import Rulebook.Template.Signature

/-!
# Faults about values

What goes wrong with values is said about values: no fault of arithmetic, of a format text, or of an access to a part
is one of a template that is not well formed.
-/

namespace Rulebook

/-- The fault is none of a template that is not well formed. -/
def Fault.AboutValues (f : Fault) : Prop := f.kind ≠ .templateSyntax ∧ f.kind ≠ .templateAssertion

@[simp] theorem aboutValues_mk {k : FaultKind} {message : Text} :
    (Fault.mk k message).AboutValues ↔ k ≠ .templateSyntax ∧ k ≠ .templateAssertion := Iff.rfl

@[simp] theorem aboutValues_wrongType (message : Text) : (Fault.wrongType message).AboutValues := by
  simp [Fault.wrongType]

@[simp] theorem aboutValues_badValue (message : Text) : (Fault.badValue message).AboutValues := by
  simp [Fault.badValue]

@[simp] theorem aboutValues_tooManyDigits : Fault.tooManyDigits.AboutValues := by simp [Fault.tooManyDigits]

@[simp] theorem aboutValues_undefined (u : Undefined) : u.fault.AboutValues := by
  unfold Undefined.fault
  split <;> simp

@[simp] theorem aboutValues_ite {c : Prop} [Decidable c] {f g : Fault} :
    (if c then f else g).AboutValues ↔ (c → f.AboutValues) ∧ (¬c → g.AboutValues) := by
  split <;> simp [*]

/-- A step that fails does so with a fault about values. -/
def FailsOnValues {α : Type} (x : Except Fault α) : Prop := ∀ f, x = .error f → f.AboutValues

section FailsOnValues
variable {α β : Type}

@[simp] theorem failsOnValues_ok (a : α) : FailsOnValues (.ok a) := nofun

@[simp] theorem failsOnValues_error {f : Fault} : FailsOnValues (.error f : Except Fault α) ↔ f.AboutValues := by
  constructor
  · intro h
    exact h f rfl
  · rintro h _ ⟨⟩
    exact h

@[simp] theorem failsOnValues_ite {c : Prop} [Decidable c] {x y : Except Fault α} :
    FailsOnValues (if c then x else y) ↔ (c → FailsOnValues x) ∧ (¬c → FailsOnValues y) := by
  split <;> simp [*]

@[simp] theorem failsOnValues_bind {x : Except Fault α} {f : α → Except Fault β} :
    FailsOnValues (x >>= f) ↔ FailsOnValues x ∧ ∀ a, x = .ok a → FailsOnValues (f a) := by
  cases x <;> simp

theorem FailsOnValues.bind {x : Except Fault α} {f : α → Except Fault β} (hx : FailsOnValues x)
    (hf : ∀ a, FailsOnValues (f a)) : FailsOnValues (x >>= f) :=
  failsOnValues_bind.2 ⟨hx, fun a _ => hf a⟩

theorem FailsOnValues.mapM {f : α → Except Fault β} (hf : ∀ a, FailsOnValues (f a)) (l : List α) :
    FailsOnValues (l.mapM f) := by
  intro e he
  obtain ⟨_, a, _, _, _, ha⟩ := mapM_eq_error_iff.1 he
  exact hf a e ha

theorem FailsOnValues.foldlM {f : β → α → Except Fault β} (hf : ∀ b a, FailsOnValues (f b a)) (l : List α) (b : β) :
    FailsOnValues (l.foldlM f b) := by
  induction l generalizing b with
  | nil => exact failsOnValues_ok b
  | cons a l ih => exact .bind (hf b a) ih

theorem FailsOnValues.forM {f : α → Except Fault PUnit} (hf : ∀ a, FailsOnValues (f a)) (l : List α) :
    FailsOnValues (forM l f) := by
  induction l with
  | nil => exact failsOnValues_ok _
  | cons a l ih => exact .bind (hf a) fun _ => ih

theorem FailsOnValues.anyM {f : α → Except Fault Bool} (hf : ∀ a, FailsOnValues (f a)) (l : List α) :
    FailsOnValues (l.anyM f) := by
  induction l with
  | nil => exact failsOnValues_ok false
  | cons a l ih =>
    refine .bind (hf a) fun b => ?_
    cases b
    · exact ih
    · exact failsOnValues_ok true

theorem FailsOnValues.filterAuxM {f : α → Except Fault Bool} (hf : ∀ a, FailsOnValues (f a)) (l kept : List α) :
    FailsOnValues (l.filterAuxM f kept) := by
  induction l generalizing kept with
  | nil => exact failsOnValues_ok kept
  | cons a l ih => exact .bind (hf a) fun _ => ih _

theorem FailsOnValues.filterM {f : α → Except Fault Bool} (hf : ∀ a, FailsOnValues (f a)) (l : List α) :
    FailsOnValues (l.filterM f) :=
  .bind (filterAuxM hf l []) fun _ => failsOnValues_ok _

end FailsOnValues

@[simp] theorem failsOnValues_integerText (n : Int) : FailsOnValues (integerText n) := by
  intro f h
  obtain ⟨rfl, -⟩ := integerText_eq_error_iff.1 h
  simp

@[simp] theorem failsOnValues_display (v : Value) : FailsOnValues v.display := by
  intro f h
  obtain ⟨rfl, -⟩ := (Value.display_eq_error_iff v).1 h
  simp

@[simp] theorem failsOnValues_plain (v : Value) : FailsOnValues v.plain := by
  unfold Value.plain
  split <;> simp

namespace Template

/-! ### Format texts -/

@[simp] theorem aboutValues_leftOut (what : Text) : (leftOut what).AboutValues := by simp [leftOut]

@[simp] theorem failsOnValues_printed (v : Value) : FailsOnValues (printed v) := by
  unfold printed
  split <;> simp

@[simp] theorem failsOnValues_displayed (v : Value) : FailsOnValues (displayed v) := by
  unfold displayed
  split <;> simp

@[simp] theorem aboutValues_beyondRange (type : Text) : (beyondRange type).AboutValues := by simp [beyondRange]

@[simp] theorem failsOnValues_toDouble? (n : Number) : FailsOnValues n.toDouble? := by
  unfold Number.toDouble?
  split
  · split <;> simp
  · simp

@[simp] theorem failsOnValues_integerOf (x : Double) : FailsOnValues (integerOf x) := by
  unfold integerOf
  split <;> simp

@[simp] theorem failsOnValues_truncated (n : Number) : FailsOnValues n.truncated := by
  cases n <;> simp [Number.truncated]

namespace Format

@[simp] theorem failsOnValues_next (s : Supply) : FailsOnValues s.next := by
  unfold Supply.next
  split <;> simp

@[simp] theorem failsOnValues_readSize (m : Measure) (s : Supply) (t : Text) : FailsOnValues (readSize m s t) := by
  unfold readSize
  split
  · refine .bind (failsOnValues_next s) fun p => ?_
    dsimp only
    split <;> simp
  · simp

@[simp] theorem failsOnValues_wholeNumber (c : CodePoint) (v : Value) : FailsOnValues (wholeNumber c v) := by
  unfold wholeNumber
  dsimp only
  split
  · split <;> simp
  · split
    · simp
    · split <;> simp

@[simp] theorem failsOnValues_whole (s : Style) (c : CodePoint) (v : Value) : FailsOnValues (whole s c v) := by
  simp [whole]

@[simp] theorem failsOnValues_real (s : Style) (c : CodePoint) (v : Value) : FailsOnValues (real s c v) := by
  unfold real
  dsimp only
  split
  · simp
  · split <;> simp

@[simp] theorem failsOnValues_character (v : Value) : FailsOnValues (character v) := by
  unfold character
  split
  · simp
  · split <;> simp

@[simp] theorem failsOnValues_written (s : Style) (index : Nat) (c : CodePoint) (v : Value) :
    FailsOnValues (written s index c v) := by
  simp [written]

@[simp] theorem failsOnValues_keyed (mapping : Option Value) (key : Text) : FailsOnValues (keyed mapping key) := by
  unfold keyed
  split
  case h_1 => split <;> simp
  all_goals simp

@[simp] theorem failsOnValues_readKeyed (mapping : Option Value) (s : Supply) (t : Text) :
    FailsOnValues (readKeyed mapping s t) := by
  unfold readKeyed
  split
  · split
    · simp
    · split <;> simp
  · simp

@[simp] theorem failsOnValues_readPrecision (style : Style) (s : Supply) (t : Text) :
    FailsOnValues (readPrecision style s t) := by
  unfold readPrecision
  split <;> simp

@[simp] theorem failsOnValues_readPlace (mapping : Option Value) (s : Supply) (t : Text) :
    FailsOnValues (readPlace mapping s t) := by
  simp [readPlace]

theorem failsOnValues_loop (size : Nat) (mapping : Option Value) (fuel : Nat) (s : Supply) (done t : Text) :
    FailsOnValues (loop size mapping fuel s done t) := by
  induction fuel generalizing s done t with
  | zero => simp [loop]
  | succ fuel ih =>
    cases t with
    | nil => simp [loop]
    | cons c rest =>
      unfold loop
      split
      · exact ih _ _ _
      split
      · exact ih _ _ _
      refine .bind (failsOnValues_readPlace mapping s rest) fun ⟨style, s, rest⟩ => ?_
      dsimp only
      split
      · simp
      · exact ih _ _ _
      · exact .bind (failsOnValues_next s) fun ⟨v, s⟩ => .bind (failsOnValues_written _ _ _ _) fun t => ih _ _ _

@[simp] theorem failsOnValues_apply (t : Text) (v : Value) : FailsOnValues (apply t v) := by
  unfold apply
  split <;> exact failsOnValues_loop _ _ _ _ _ _

end Format

/-! ### Arithmetic -/

@[simp] theorem aboutValues_unsupported (op : Arith) (a b : Value) : (unsupported op a b).AboutValues := by
  simp [unsupported]

@[simp] theorem failsOnValues_powDouble (x y : Double) : FailsOnValues (powDouble x y) := by
  unfold powDouble
  split
  · simp
  · split
    · simp [zeroDivision]
    · dsimp only
      split
      · split <;> simp [rangeOverflow]
      · simp

@[simp] theorem failsOnValues_arithInt (op : Arith) (m n : Int) : FailsOnValues (arithInt op m n) := by
  unfold arithInt
  split
  case h_4 =>
    split
    · simp [zeroDivision]
    · split <;> simp
  all_goals simp [zeroDivision]

@[simp] theorem failsOnValues_arithDouble (op : Arith) (x y : Double) : FailsOnValues (arithDouble op x y) := by
  unfold arithDouble
  split <;> simp [zeroDivision]

@[simp] theorem failsOnValues_concatenate (a b : Value) : FailsOnValues (concatenate a b) := by
  unfold concatenate
  split <;> simp

@[simp] theorem failsOnValues_repeatBy (v w : Value) : FailsOnValues (repeatBy v w) := by
  unfold repeatBy
  split <;> simp

@[simp] theorem failsOnValues_multiply (a b : Value) : FailsOnValues (multiply a b) := by
  simp [multiply]

@[simp] theorem failsOnValues_subtract (a b : Value) : FailsOnValues (subtract a b) := by
  unfold subtract
  split <;> simp

@[simp] theorem failsOnValues_arithDefined (op : Arith) (a b : Value) : FailsOnValues (arithDefined op a b) := by
  unfold arithDefined
  split
  · simp
  · simp
  · split
    · simp
    · simp
    · split <;> simp

@[simp] theorem failsOnValues_arith (op : Arith) (a b : Value) : FailsOnValues (arith op a b) := by
  unfold arith
  split <;> simp

@[simp] theorem failsOnValues_truth (v : Value) : FailsOnValues (truth v) := by
  unfold truth
  split <;> simp

@[simp] theorem failsOnValues_unary (op : Unary) (v : Value) : FailsOnValues (unary op v) := by
  unfold unary
  split
  · simp
  · split
    · simp
    · simp
    · split <;> simp
  · split
    · simp
    · simp
    · split <;> simp

@[simp] theorem failsOnValues_iterate (v : Value) : FailsOnValues (iterate v) := by
  unfold iterate
  split <;> simp

@[simp] theorem failsOnValues_iterateOr (message : Text) (v : Value) : FailsOnValues (iterateOr message v) := by
  unfold iterateOr
  split
  · simp
  · next f h =>
    have := failsOnValues_iterate v f h
    split <;> simp [this]

@[simp] theorem failsOnValues_length (v : Value) : FailsOnValues (length v) := by
  unfold length
  split <;> simp

@[simp] theorem aboutValues_equalityFault (a b : Value) : (equalityFault a b).AboutValues := by simp [equalityFault]

/-- Equality fails on values, whether of two values, of two sequences, of entries, or of members in any order. -/
theorem failsOnValues_equal :
    (∀ a b, FailsOnValues (equalValues a b)) ∧ (∀ vs ws, FailsOnValues (equalInSome vs ws)) ∧
      (∀ es fs, FailsOnValues (equalEntries es fs)) ∧ ∀ vs ws, FailsOnValues (equalInOrder vs ws) := by
  apply equalValues.mutual_induct
  case case20 =>
    intro v vs ws hv ih
    simp [equalInSome, FailsOnValues.anyM hv, ih]
  all_goals intros
  all_goals first
    | (rw [equalValues] <;> first | assumption | simp [*])
    | simp [equalInSome, equalEntries, equalInOrder, *]

@[simp] theorem failsOnValues_equalValues (a b : Value) : FailsOnValues (equalValues a b) := failsOnValues_equal.1 a b

theorem failsOnValues_firstUnequal (vs ws : List Value) : FailsOnValues (firstUnequal vs ws) := by
  induction vs, ws using firstUnequal.induct with
  | case1 v vs w ws ih =>
    rw [firstUnequal]
    simp [ih]
  | case2 => simp [firstUnequal]

@[simp] theorem failsOnValues_orderedBy (r : Relation) (depth : Nat) (a b : Value) :
    FailsOnValues (orderedBy r depth a b) := by
  induction depth generalizing a b with
  | zero => simp [orderedBy]
  | succ depth ih =>
    unfold orderedBy
    dsimp only
    split
    case h_8 | h_9 =>
      refine .bind (failsOnValues_firstUnequal _ _) fun o => ?_
      split <;> simp [ih]
    case h_15 =>
      split
      · split <;> simp
      · simp
    all_goals simp

mutual

@[simp] theorem failsOnValues_checkKey (v : Value) : FailsOnValues (checkKey v) := by
  unfold checkKey
  split
  · exact failsOnValues_checkKeys _
  · split
    · split <;> simp
    · simp

theorem failsOnValues_checkKeys (vs : List Value) : FailsOnValues (checkKeys vs) := by
  unfold checkKeys
  split
  · simp
  · exact .bind (failsOnValues_checkKey _) fun _ => failsOnValues_checkKeys _

end

@[simp] theorem failsOnValues_checkMember (v : Value) : FailsOnValues (checkMember v) := by
  unfold checkMember
  split <;> simp

@[simp] theorem failsOnValues_isInBytes (v : Value) (data : List Nat) : FailsOnValues (isInBytes v data) := by
  unfold isInBytes
  split
  · simp
  · simp
  · split <;> simp

@[simp] theorem failsOnValues_isMember (v container : Value) : FailsOnValues (isMember v container) := by
  unfold isMember
  split
  case h_2 => split <;> simp
  case h_8 => exact .bind (failsOnValues_checkKey _) fun _ => .anyM (fun w => failsOnValues_equalValues w v) _
  case h_10 => exact .bind (failsOnValues_iterateOr _ _) fun items => .anyM (fun w => failsOnValues_equalValues w v) items
  all_goals simp

@[simp] theorem failsOnValues_relate (r : Relation) (a b : Value) : FailsOnValues (relate r a b) := by
  unfold relate
  split <;> simp

/-! ### Parts of values -/

@[simp] theorem failsOnValues_itemAt {α : Type} (items : List α) (i : Int) (kind : Text) :
    FailsOnValues (itemAt items i kind) := by
  unfold itemAt
  split <;> simp

@[simp] theorem failsOnValues_subscript (v index : Value) : FailsOnValues (subscript v index) := by
  unfold subscript
  dsimp only
  split
  case h_1 | h_9 | h_10 | h_11 => simp
  case h_2 =>
    refine .bind (failsOnValues_checkKey index) fun _ => ?_
    split <;> simp
  all_goals
    refine .bind ?_ fun i => by simp
    split <;> simp

@[simp] theorem aboutValues_hiddenProperty (v : Value) (name : Text) : (hiddenProperty v name).AboutValues := by
  simp [hiddenProperty]

@[simp] theorem failsOnValues_getProperty (strict : Bool) (v : Value) (name : Text) :
    FailsOnValues (getProperty strict v name) := by
  unfold getProperty
  split
  · simp
  · split
    · simp
    · split
      · simp
      · next f h => simp [failsOnValues_subscript v _ f h]

@[simp] theorem failsOnValues_getItem (strict : Bool) (v index : Value) : FailsOnValues (getItem strict v index) := by
  unfold getItem
  split
  · simp
  · next f h =>
    split
    · split <;> simp
    · simp [failsOnValues_subscript v _ f h]

@[simp] theorem failsOnValues_sliceBound (v : Value) : FailsOnValues (sliceBound v) := by
  unfold sliceBound
  split
  · simp
  · simp
  · split <;> simp

@[simp] theorem failsOnValues_slicePlaces (size : Nat) (start stop step : Option Int) :
    FailsOnValues (slicePlaces size start stop step) := by
  simp [slicePlaces]

@[simp] theorem failsOnValues_sliceItems {α : Type} (items : List α) (start stop step : Option Int) :
    FailsOnValues (sliceItems items start stop step) := by
  simp [sliceItems]

@[simp] theorem failsOnValues_sliceValue (v start stop step : Value) :
    FailsOnValues (sliceValue v start stop step) := by
  unfold sliceValue
  split <;> simp

/-! ### Signatures -/

@[simp] theorem failsOnValues_signature (s : Signature) (args : List Value) (named : List (Text × Value)) :
    FailsOnValues (s.bind args named) := by
  unfold Signature.bind
  dsimp only
  split
  · simp
  · split
    · simp
    · simp

@[simp] theorem failsOnValues_exactlyOne (label : String) (args : List Value) (named : List (Text × Value)) :
    FailsOnValues (exactlyOne label args named) := by
  unfold exactlyOne
  split
  · simp
  · split <;> simp

end Template

end Rulebook
