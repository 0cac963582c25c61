import Rulebook.Proofs.Rule.Pairs
import Rulebook.Proofs.Rule.Reader
import Rulebook.Proofs.Text.Order
import Rulebook.Proofs.Value.Data

/-!
# The grammar of rule data

What rule data may look like, said without the reader: the elements at even places are scalars, those at odd places are
comparands, and each pair of them denotes a condition. The reader accepts exactly that, and reads exactly what is
denoted.
-/

namespace Rulebook

/-! ### Scalars -/

/-- A scalar and its text. Truth values and null are none. -/
inductive Value.IsScalar : Value → Text → Prop
  | text (t : Text) : IsScalar (.text t) t
  | int (n : Int) : IsScalar (.int n) (Text.ofInt n)
  | float (x : Double) : IsScalar (.float x) x.text

theorem scalarText_eq_ok_iff (role : Role) {v : Value} (hv : v.IsData) {t : Text} :
    scalarText role v = .ok t ↔ v.IsScalar t := by
  constructor
  · intro h
    cases hv with
    | text t =>
      obtain rfl : t = _ := Except.ok.inj h
      exact .text t
    | int hfew =>
      rw [scalarText, integerText_of_not_tooManyDigits hfew] at h
      obtain rfl : Text.ofInt _ = _ := Except.ok.inj h
      exact .int _
    | float x =>
      obtain rfl : x.text = _ := Except.ok.inj h
      exact .float x
    | _ => cases h
  · intro h
    cases h with
    | text t => rfl
    | int n =>
      cases hv with
      | int hfew => rw [scalarText, integerText_of_not_tooManyDigits hfew, liftFault]
    | float x => rfl

/-! ### Fields -/

/-- A field and the text it is written as: one mark in front is its negation, and all behind that its token. -/
inductive FieldRef.Reads : FieldRef → Text → Prop
  | negated (token : Text) : Reads ⟨token, true⟩ (negationMark :: token)
  | plain {token : Text} (h : token.head? ≠ some negationMark) : Reads ⟨token, false⟩ token

theorem FieldRef.parse_eq_iff {raw : Text} {f : FieldRef} : FieldRef.parse raw = f ↔ f.Reads raw := by
  constructor
  · rintro rfl
    cases raw with
    | nil => exact .plain (by simp)
    | cons c rest =>
      by_cases hc : c = negationMark
      · rw [FieldRef.parse, if_pos hc, hc]
        exact .negated rest
      · rw [FieldRef.parse, if_neg hc]
        exact .plain (by simpa using hc)
  · intro h
    cases h with
    | negated token => rw [FieldRef.parse, if_pos rfl]
    | plain h =>
      cases raw with
      | nil => rfl
      | cons c rest => rw [FieldRef.parse, if_neg (by simpa using h)]

/-! ### Operators -/

/-- A name of an operator: in lower case it is the spelling, or "like" for the search. -/
inductive Operator.Names : Operator → Text → Prop
  | spelling {op : Operator} {name : Text} (h : Text.lower name = op.spelling) : Names op name
  | like {name : Text} (h : Text.lower name = "like") : Names .search name

theorem Operator.ofSpelling?_eq_some_iff {name : Text} {op : Operator} :
    Operator.ofSpelling? name = some op ↔ name = op.spelling := by
  constructor
  · intro h
    rw [Operator.ofSpelling?, List.find?_eq_some_iff_append] at h
    exact (Text.same_iff.1 h.1).symm
  · rintro rfl
    cases op <;> decide

theorem Operator.normalize_eq_spelling_iff {name : Text} {op : Operator} :
    Operator.normalize name = op.spelling ↔ op.Names name := by
  unfold Operator.normalize
  by_cases hlike : Text.lower name = "like"
  · have hsearch : ("=~" : Text) = op.spelling ↔ op = .search := by cases op <;> decide
    have hspelling : ¬("like" : Text) = op.spelling := by cases op <;> decide
    simp only [hlike, Text.same_self, if_pos, hsearch]
    constructor
    · rintro rfl
      exact .like hlike
    · intro h
      cases h with
      | spelling h => exact absurd (hlike.symm.trans h) hspelling
      | like => rfl
  · have hsame : ¬Text.same (Text.lower name) "like" = true := fun h => hlike (Text.same_iff.1 h)
    simp only [hsame, if_neg, Bool.false_eq_true, not_false_eq_true]
    constructor
    · exact .spelling
    · intro h
      cases h with
      | spelling h => exact h
      | like h => exact absurd h hlike

theorem parseOperator_eq_ok_iff {name : Text} {op : Operator} : parseOperator name = .ok op ↔ op.Names name := by
  rw [← Operator.normalize_eq_spelling_iff, ← Operator.ofSpelling?_eq_some_iff, parseOperator, Operator.parse]
  cases Operator.ofSpelling? (Operator.normalize name) <;> simp

/-! ### Comparands -/

theorem Text.hasPart_iff {part t : Text} : Text.hasPart part t = true ↔ part <:+: t := by
  induction t with
  | nil => simp [Text.hasPart]
  | cons c rest ih =>
    rw [Text.hasPart, List.infix_cons_iff, ← ih]
    by_cases h : part <+: c :: rest <;> simp [h]

/-- The elements of data that is a sequence of elements; texts and bytes are not. -/
inductive Value.Elements : Value → List Value → Prop
  | list (items : List Value) : Elements (.list items) items
  | tuple (items : List Value) : Elements (.tuple items) items
  | range (start stop step : Int) : Elements (.range start stop step) (Value.rangeItems start stop step)
  | byteArray (data : List Nat) : Elements (.byteArray data) (data.map fun (b : Nat) => .int (b : Int))

theorem asSequence?_eq_some_iff {v : Value} {items : List Value} : v.asSequence? = some items ↔ v.Elements items := by
  constructor
  · intro h
    cases v <;> cases h <;> constructor
  · intro h
    cases h <;> rfl

/-- The value is a collection other than a mapping. -/
inductive Value.Collects : Value → Prop
  | elements {v : Value} {items : List Value} (h : v.Elements items) : Collects v
  | set (items : List Value) : Collects (.set items)
  | frozenSet (items : List Value) : Collects (.frozenSet items)

theorem isCollection_iff {v : Value} : v.isCollection = true ↔ v.Collects := by
  constructor
  · intro h
    unfold Value.isCollection at h
    split at h
    · exact .set _
    · exact .frozenSet _
    · obtain ⟨items, hitems⟩ := Option.isSome_iff_exists.1 h
      exact .elements (asSequence?_eq_some_iff.1 hitems)
  · intro h
    cases h with
    | elements h => cases h <;> rfl
    | set items => rfl
    | frozenSet items => rfl

/-- A comparand and the comparison it denotes: a scalar alone, or a single entry of an operator's name and a scalar,
which is no pattern with inline code. -/
inductive Value.IsComparand : Value → Comparison → Prop
  | bare {v : Value} {t : Text} (h : v.IsScalar t) : IsComparand v (.bare t)
  | under {k v : Value} {name t : Text} {op : Operator} (hk : k.IsScalar name) (hop : op.Names name)
      (hv : v.IsScalar t) (hcode : op = .search → ¬inlineCodeMark <:+: t) :
      IsComparand (.mapping [(k, v)]) (.under op t)

theorem liftLogic_checkPattern_eq_ok_iff {pattern : Text} :
    liftLogic (checkPattern pattern) = .ok () ↔ ¬inlineCodeMark <:+: pattern := by
  rw [← Text.hasPart_iff, checkPattern]
  split
  · next h => simp [liftLogic, h]
  · next h => simp [liftLogic, h]

theorem Operator.isRegex_iff {op : Operator} : op.isRegex = true ↔ op = .search := by
  cases op <;> simp [Operator.isRegex]

/-- A name with a comparand behind it is read where both are scalars and the name is an operator's. -/
theorem parseComparison_entry_eq_ok_iff {k v : Value} (hk : k.IsData) (hv : v.IsData) {c : Comparison} :
    parseComparison (.mapping [(k, v)]) = .ok c ↔ (Value.mapping [(k, v)]).IsComparand c := by
  constructor
  · intro h
    obtain ⟨name, hname, h⟩ := bind_eq_ok_iff.1 h
    obtain ⟨op, hop, h⟩ := bind_eq_ok_iff.1 h
    obtain ⟨t, ht, h⟩ := bind_eq_ok_iff.1 h
    rw [scalarText_eq_ok_iff _ hk] at hname
    rw [parseOperator_eq_ok_iff] at hop
    rw [scalarText_eq_ok_iff _ hv] at ht
    split at h
    · obtain ⟨_, hcode, h⟩ := bind_eq_ok_iff.1 h
      cases h
      exact .under hname hop ht fun _ => liftLogic_checkPattern_eq_ok_iff.1 hcode
    · next hregex =>
      cases h
      exact .under hname hop ht fun hsearch => absurd (Operator.isRegex_iff.2 hsearch) hregex
  · intro h
    cases h with
    | bare h => cases h
    | under hname hop ht hcode =>
      rw [parseComparison, (scalarText_eq_ok_iff _ hk).2 hname, ok_bind, parseOperator_eq_ok_iff.2 hop, ok_bind,
        (scalarText_eq_ok_iff _ hv).2 ht, ok_bind]
      split
      · next hregex => rw [liftLogic_checkPattern_eq_ok_iff.2 (hcode (Operator.isRegex_iff.1 hregex))]; rfl
      · rfl

theorem parseComparison_eq_ok_iff {v : Value} (hv : v.IsData) {c : Comparison} :
    parseComparison v = .ok c ↔ v.IsComparand c := by
  unfold parseComparison
  split
  · next k comparand =>
    cases hv with
    | mapping hkeys hvalues =>
      exact parseComparison_entry_eq_ok_iff (hkeys _ List.mem_cons_self) (hvalues _ List.mem_cons_self)
  · next entries hsize =>
    constructor
    · intro h
      obtain ⟨_, -, h⟩ := bind_eq_ok_iff.1 h
      cases h
    · intro h
      cases h with
      | bare h => cases h
      | under => exact absurd rfl (hsize _ _)
  · next hsingle hmapping =>
    have hscalar : v.IsComparand c ↔ ∃ t, v.IsScalar t ∧ .bare t = c := by
      constructor
      · intro h
        cases h with
        | bare h => exact ⟨_, h, rfl⟩
        | under => exact absurd rfl (hmapping _)
      · rintro ⟨t, h, rfl⟩
        exact .bare h
    rw [hscalar]
    split
    · next hcollection =>
      refine ⟨nofun, fun ⟨t, h, _⟩ => ?_⟩
      cases h <;> cases hcollection
    · rw [bind_eq_ok_iff]
      simp only [scalarText_eq_ok_iff _ hv, pure_eq_ok, Except.ok.injEq]

/-! ### Rules -/

/-- A field and a comparand, and the condition they denote. -/
def Condition.Reads (c : Condition) (field comparand : Value) : Prop :=
  (∃ raw, field.IsScalar raw ∧ c.field.Reads raw) ∧ comparand.IsComparand c.comparison

theorem readPair_eq_ok_iff {field comparand : Value} (hfield : field.IsData) (hcomparand : comparand.IsData)
    {c : Condition} : readPair (field, comparand) = .ok c ↔ c.Reads field comparand := by
  obtain ⟨f, cmp⟩ := c
  simp only [readPair, bind_eq_ok_iff, scalarText_eq_ok_iff _ hfield, parseComparison_eq_ok_iff hcomparand, pure_eq_ok,
    Except.ok.injEq, Condition.mk.injEq, Condition.Reads, FieldRef.parse_eq_iff]
  constructor
  · rintro ⟨raw, hraw, cmp', hcmp, hf, rfl⟩
    exact ⟨⟨raw, hraw, hf⟩, hcmp⟩
  · rintro ⟨⟨raw, hraw, hf⟩, hcmp⟩
    exact ⟨raw, hraw, cmp, hcmp, hf, rfl⟩

/-- Elements and the rule they denote: two for each condition, which are its field and its comparand, in order. -/
def Rule.Reads (r : Rule) (items : List Value) : Prop :=
  items.length = 2 * r.conditions.length ∧
    ∀ i c, r.conditions[i]? = some c →
      ∃ field comparand, items[2 * i]? = some field ∧ items[2 * i + 1]? = some comparand ∧ c.Reads field comparand

/-- The element may stand at its place: scalars at even places, comparands at odd ones. -/
def Value.FitsAt (i : Nat) (v : Value) : Prop := if i % 2 = 0 then ∃ t, v.IsScalar t else ∃ c, v.IsComparand c

@[simp] theorem fitsAt_add_two {i : Nat} {v : Value} : v.FitsAt (i + 1 + 1) ↔ v.FitsAt i := by
  have hparity : (i + 1 + 1) % 2 = i % 2 := by omega
  simp only [Value.FitsAt, hparity]

theorem exists_condition_reads_iff {field comparand : Value} :
    (∃ c : Condition, c.Reads field comparand) ↔ field.FitsAt 0 ∧ comparand.FitsAt 1 := by
  constructor
  · rintro ⟨c, ⟨raw, hraw, -⟩, hcmp⟩
    exact ⟨⟨raw, hraw⟩, ⟨c.comparison, hcmp⟩⟩
  · rintro ⟨⟨raw, hraw⟩, ⟨cmp, hcmp⟩⟩
    exact ⟨⟨FieldRef.parse raw, cmp⟩, ⟨raw, hraw, FieldRef.parse_eq_iff.1 rfl⟩, hcmp⟩

variable {items : List Value}

theorem mapM_readPair_eq_ok_iff (hitems : ∀ v ∈ items, v.IsData) (heven : items.length % 2 = 0)
    {cs : List Condition} : (pairs items).mapM readPair = .ok cs ↔ Rule.Reads ⟨cs⟩ items := by
  have hlength : (pairs items).length = cs.length ↔ items.length = 2 * cs.length := by
    rw [length_pairs]
    omega
  rw [mapM_eq_ok_iff, forall₂_iff_getElem?, hlength, Rule.Reads]
  refine and_congr_right fun _ => forall₂_congr fun i c => imp_congr_right fun _ => ?_
  simp only [Prod.exists, getElem?_pairs_eq_some_iff, and_assoc]
  refine exists₂_congr fun field comparand => and_congr_right fun hfield => and_congr_right fun hcomparand => ?_
  exact readPair_eq_ok_iff (hitems _ (List.mem_of_getElem? hfield)) (hitems _ (List.mem_of_getElem? hcomparand))

/-- Elements that come in pairs denote a rule exactly if all of them fit. -/
theorem exists_mapM_readPair_eq_ok_iff (hitems : ∀ v ∈ items, v.IsData) (heven : items.length % 2 = 0) :
    (∃ cs, (pairs items).mapM readPair = .ok cs) ↔ ∀ i v, items[i]? = some v → Value.FitsAt i v := by
  induction items using pairs.induct with
  | case1 => simp
  | case2 a => simp at heven
  | case3 a b rest ih =>
    simp only [List.forall_mem_cons] at hitems
    obtain ⟨ha, hb, hrest⟩ := hitems
    simp only [List.length_cons] at heven
    simp only [forall_getElem?_cons_iff, Nat.zero_add, fitsAt_add_two, ← ih hrest (by omega), ← and_assoc,
      ← exists_condition_reads_iff, ← readPair_eq_ok_iff ha hb]
    simp only [pairs_cons, List.mapM_cons, bind_eq_ok_iff, pure_eq_ok, Except.ok.injEq]
    constructor
    · rintro ⟨_, c, hc, cs, hcs, -⟩
      exact ⟨⟨c, hc⟩, ⟨cs, hcs⟩⟩
    · rintro ⟨⟨c, hc⟩, ⟨cs, hcs⟩⟩
      exact ⟨_, c, hc, cs, hcs, rfl⟩

end Rulebook
