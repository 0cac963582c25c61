import Rulebook.Proofs.Rule.Grammar

/-!
# The first offence of rule data

Data outside the grammar is refused with the error of its first offence: its kind comes first, then the number of its
elements, then the elements in order. Within a comparand the number of entries comes first, then the name of the
operator, then the scalar behind it, then the code in a pattern.
-/

namespace Rulebook

/-! ### Scalars -/

/-- What a value that is no scalar is refused for: truth values and null by their text, the rest by their type. -/
inductive Value.ScalarOffence (role : Role) : Value → ShapeError → Prop
  | bool (b : Bool) : ScalarOffence role (.bool b) (.ambiguousScalar role (boolText b))
  | null : ScalarOffence role .null (.ambiguousScalar role "None")
  | type {v : Value} (hscalar : ∀ t, ¬v.IsScalar t) (hbool : ∀ b, v ≠ .bool b) (hnull : v ≠ .null) :
      ScalarOffence role v (.notAScalar role v.typeName)

theorem scalarText_eq_error_iff (role : Role) {v : Value} (hv : v.IsData) {e : Failure} :
    scalarText role v = .error e ↔ ∃ o, v.ScalarOffence role o ∧ e = .logic (.shape o) := by
  constructor
  · intro h
    have hscalar : ∀ t, ¬v.IsScalar t := by
      intro t ht
      rw [(scalarText_eq_ok_iff role hv).2 ht] at h
      cases h
    cases hv with
    | text t => exact absurd (.text t) (hscalar _)
    | int => exact absurd (.int _) (hscalar _)
    | float x => exact absurd (.float x) (hscalar _)
    | null => exact ⟨_, .null, (Except.error.inj h).symm⟩
    | bool b => exact ⟨_, .bool b, (Except.error.inj h).symm⟩
    | _ => exact ⟨_, .type hscalar (by simp) (by simp), (Except.error.inj h).symm⟩
  · rintro ⟨o, ho, rfl⟩
    cases ho with
    | bool b => rfl
    | null => rfl
    | type hscalar hbool hnull =>
      cases v with
      | text t => exact absurd (.text t) (hscalar _)
      | int => exact absurd (.int _) (hscalar _)
      | float x => exact absurd (.float x) (hscalar _)
      | null => exact absurd rfl hnull
      | bool b => exact absurd rfl (hbool b)
      | _ => rfl

/-! ### Comparands -/

theorem Operator.normalize_of_not_names {name : Text} (h : ¬Operator.search.Names name) :
    Operator.normalize name = Text.lower name := by
  have hlike : Text.same (Text.lower name) "like" = false :=
    Bool.eq_false_iff.2 fun hsame => h (.like (Text.same_iff.1 hsame))
  simp [Operator.normalize, hlike]

theorem parseOperator_eq_error_iff {name : Text} {e : Failure} :
    parseOperator name = .error e ↔
      (∀ op : Operator, ¬op.Names name) ∧ e = .logic (.unknownOperator (Text.lower name)) := by
  rw [parseOperator, Operator.parse]
  cases hfound : Operator.ofSpelling? (Operator.normalize name) with
  | none =>
    have hnames : ∀ op : Operator, ¬op.Names name := by
      intro op hop
      rw [Operator.ofSpelling?_eq_some_iff.2 (Operator.normalize_eq_spelling_iff.2 hop)] at hfound
      cases hfound
    simp [hnames, Operator.normalize_of_not_names (hnames .search), eq_comm]
  | some op =>
    have hop := Operator.normalize_eq_spelling_iff.1 (Operator.ofSpelling?_eq_some_iff.1 hfound)
    have hnames : ¬∀ op : Operator, ¬op.Names name := fun h => h op hop
    simp [hnames]

/-- What a comparand is refused for. -/
inductive Value.ComparandOffence : Value → LogicError → Prop
  | entries {entries : List (Value × Value)} {shown : Text} (hcount : entries.length ≠ 1)
      (hshown : (Value.mapping entries).display = .ok shown) :
      ComparandOffence (.mapping entries) (.shape (.entryCount entries.length shown))
  | name {k v : Value} {o : ShapeError} (hk : k.ScalarOffence .operator o) :
      ComparandOffence (.mapping [(k, v)]) (.shape o)
  | operator {k v : Value} {name : Text} (hk : k.IsScalar name) (hop : ∀ op : Operator, ¬op.Names name) :
      ComparandOffence (.mapping [(k, v)]) (.unknownOperator (Text.lower name))
  | value {k v : Value} {name : Text} {op : Operator} {o : ShapeError} (hk : k.IsScalar name) (hop : op.Names name)
      (hv : v.ScalarOffence .comparand o) : ComparandOffence (.mapping [(k, v)]) (.shape o)
  | code {k v : Value} {name t : Text} (hk : k.IsScalar name) (hop : Operator.search.Names name) (hv : v.IsScalar t)
      (hcode : inlineCodeMark <:+: t) : ComparandOffence (.mapping [(k, v)]) (.inlineCode t)
  | collection {v : Value} (h : v.Collects) : ComparandOffence v (.shape (.notAComparison v.typeName))
  | scalar {v : Value} {o : ShapeError} (hmapping : ∀ entries, v ≠ .mapping entries) (hcollection : ¬v.Collects)
      (h : v.ScalarOffence .comparand o) : ComparandOffence v (.shape o)

theorem liftLogic_checkPattern_eq_error_iff {pattern : Text} {e : Failure} :
    liftLogic (checkPattern pattern) = .error e ↔ inlineCodeMark <:+: pattern ∧ e = .logic (.inlineCode pattern) := by
  rw [← Text.hasPart_iff, checkPattern]
  split
  · next h => simp [liftLogic, h, eq_comm]
  · next h => simp [liftLogic, h]

theorem not_collects_mapping (entries : List (Value × Value)) : ¬(Value.mapping entries).Collects := by
  intro h
  cases h with
  | elements h => cases h

/-- A single entry is refused for its name, for the operator, for the scalar, or for the code in a pattern. -/
theorem parseComparison_entry_eq_error_iff {k v : Value} (hk : k.IsData) (hv : v.IsData) {e : Failure} :
    parseComparison (.mapping [(k, v)]) = .error e ↔
      ∃ o, (Value.mapping [(k, v)]).ComparandOffence o ∧ e = .logic o := by
  constructor
  · intro h
    rcases bind_eq_error_iff.1 h with h | ⟨name, hname, h⟩
    · obtain ⟨o, ho, rfl⟩ := (scalarText_eq_error_iff _ hk).1 h
      exact ⟨_, .name ho, rfl⟩
    rw [scalarText_eq_ok_iff _ hk] at hname
    rcases bind_eq_error_iff.1 h with h | ⟨op, hop, h⟩
    · obtain ⟨hnames, rfl⟩ := parseOperator_eq_error_iff.1 h
      exact ⟨_, .operator hname hnames, rfl⟩
    rw [parseOperator_eq_ok_iff] at hop
    rcases bind_eq_error_iff.1 h with h | ⟨t, ht, h⟩
    · obtain ⟨o, ho, rfl⟩ := (scalarText_eq_error_iff _ hv).1 h
      exact ⟨_, .value hname hop ho, rfl⟩
    rw [scalarText_eq_ok_iff _ hv] at ht
    split at h
    · next hregex =>
      obtain rfl := Operator.isRegex_iff.1 hregex
      rcases bind_eq_error_iff.1 h with h | ⟨_, -, h⟩
      · obtain ⟨hcode, rfl⟩ := liftLogic_checkPattern_eq_error_iff.1 h
        exact ⟨_, .code hname hop ht hcode, rfl⟩
      · cases h
    · cases h
  · rintro ⟨o, ho, rfl⟩
    cases ho with
    | entries hcount => exact absurd rfl hcount
    | name ho => rw [parseComparison, (scalarText_eq_error_iff _ hk).2 ⟨_, ho, rfl⟩, error_bind]
    | operator hname hnames =>
      rw [parseComparison, (scalarText_eq_ok_iff _ hk).2 hname, ok_bind,
        parseOperator_eq_error_iff.2 ⟨hnames, rfl⟩, error_bind]
    | value hname hop ho =>
      rw [parseComparison, (scalarText_eq_ok_iff _ hk).2 hname, ok_bind, parseOperator_eq_ok_iff.2 hop, ok_bind,
        (scalarText_eq_error_iff _ hv).2 ⟨_, ho, rfl⟩, error_bind]
    | code hname hop ht hcode =>
      rw [parseComparison, (scalarText_eq_ok_iff _ hk).2 hname, ok_bind, parseOperator_eq_ok_iff.2 hop, ok_bind,
        (scalarText_eq_ok_iff _ hv).2 ht, ok_bind, if_pos (Operator.isRegex_iff.2 rfl),
        liftLogic_checkPattern_eq_error_iff.2 ⟨hcode, rfl⟩, error_bind]
    | collection h => exact absurd h (not_collects_mapping _)
    | scalar hmapping => exact absurd rfl (hmapping _)

/-- A mapping of another size is refused for the number of its entries. -/
theorem entryCount_eq_error_iff {entries : List (Value × Value)} (hdata : (Value.mapping entries).IsData)
    (hcount : entries.length ≠ 1) {e : Failure} :
    (do throw (.logic (.shape (.entryCount entries.length (← liftFault (Value.mapping entries).display)))) :
      Except Failure Comparison) = .error e ↔ ∃ o, (Value.mapping entries).ComparandOffence o ∧ e = .logic o := by
  obtain ⟨shown, hshown⟩ := hdata.exists_display
  rw [hshown]
  constructor
  · intro h
    obtain rfl := Except.error.inj h
    exact ⟨_, .entries hcount hshown, rfl⟩
  · rintro ⟨o, ho, rfl⟩
    cases ho with
    | entries _ hshown' =>
      obtain rfl := Except.ok.inj (hshown.symm.trans hshown')
      rfl
    | collection h => exact absurd h (not_collects_mapping _)
    | scalar hmapping => exact absurd rfl (hmapping _)
    | _ => exact absurd rfl hcount

theorem parseComparison_eq_error_iff {v : Value} (hv : v.IsData) {e : Failure} :
    parseComparison v = .error e ↔ ∃ o, v.ComparandOffence o ∧ e = .logic o := by
  unfold parseComparison
  split
  · next k comparand =>
    cases hv with
    | mapping hkeys hvalues =>
      exact parseComparison_entry_eq_error_iff (hkeys _ List.mem_cons_self) (hvalues _ List.mem_cons_self)
  · next entries hsize =>
    refine entryCount_eq_error_iff hv fun hone => ?_
    obtain ⟨entry, rfl⟩ := List.length_eq_one_iff.1 hone
    exact hsize entry.1 entry.2 rfl
  · next hsingle hmapping =>
    by_cases hcollection : v.isCollection = true
    · rw [if_pos hcollection]
      have hcollects := isCollection_iff.1 hcollection
      constructor
      · intro h
        exact ⟨_, .collection hcollects, (Except.error.inj h).symm⟩
      · rintro ⟨o, ho, rfl⟩
        cases ho with
        | collection => rfl
        | scalar _ hnot => exact absurd hcollects hnot
        | _ => exact absurd rfl (hmapping _)
    · rw [if_neg hcollection, bind_pure_eq_error_iff, scalarText_eq_error_iff _ hv]
      have hcollects : ¬v.Collects := fun h => hcollection (isCollection_iff.2 h)
      constructor
      · rintro ⟨o, ho, rfl⟩
        exact ⟨_, .scalar hmapping hcollects ho, rfl⟩
      · rintro ⟨o, ho, rfl⟩
        cases ho with
        | collection h => exact absurd h hcollects
        | scalar _ _ ho => exact ⟨_, ho, rfl⟩
        | _ => exact absurd rfl (hmapping _)

/-! ### Rules -/

/-- What an element is refused for at its place: as a field at even places, as a comparand at odd ones. -/
def Value.OffendsAt (i : Nat) (v : Value) (o : LogicError) : Prop :=
  if i % 2 = 0 then ∃ s, v.ScalarOffence .field s ∧ o = .shape s else v.ComparandOffence o

@[simp] theorem offendsAt_add_two {i : Nat} {v : Value} {o : LogicError} :
    v.OffendsAt (i + 1 + 1) o ↔ v.OffendsAt i o := by
  have hparity : (i + 1 + 1) % 2 = i % 2 := by omega
  simp only [Value.OffendsAt, hparity]

/-- What rule data is refused for: it is no sequence, or its elements do not come in pairs, or an element offends
behind others that fit. -/
inductive Value.RuleOffence : Value → LogicError → Prop
  | kind {data : Value} {shown : Text} (hkind : ∀ items, ¬data.Elements items) (hshown : data.display = .ok shown) :
      RuleOffence data (.shape (.notASequence shown))
  | parity {data : Value} {items : List Value} (hitems : data.Elements items) (hodd : items.length % 2 = 1) :
      RuleOffence data (.shape (.oddLength items.length))
  | element {data : Value} {items : List Value} {i : Nat} {v : Value} {o : LogicError} (hitems : data.Elements items)
      (heven : items.length % 2 = 0) (hv : items[i]? = some v)
      (hbefore : ∀ j w, j < i → items[j]? = some w → w.FitsAt j) (ho : v.OffendsAt i o) : RuleOffence data o

/-- A pair is refused for its field, or else for its comparand. -/
theorem readPair_eq_error_iff {field comparand : Value} (hfield : field.IsData) (hcomparand : comparand.IsData)
    {e : Failure} :
    readPair (field, comparand) = .error e ↔
      (∃ o, field.OffendsAt 0 o ∧ e = .logic o) ∨ field.FitsAt 0 ∧ ∃ o, comparand.OffendsAt 1 o ∧ e = .logic o := by
  have hfirst : (∃ o, field.OffendsAt 0 o ∧ e = .logic o) ↔ scalarText .field field = .error e := by
    simp [Value.OffendsAt, scalarText_eq_error_iff _ hfield]
  have hsecond : (∃ o, comparand.OffendsAt 1 o ∧ e = .logic o) ↔ parseComparison comparand = .error e := by
    simp [Value.OffendsAt, parseComparison_eq_error_iff hcomparand]
  have hfits : field.FitsAt 0 ↔ ∃ raw, scalarText .field field = .ok raw := by
    simp [Value.FitsAt, scalarText_eq_ok_iff _ hfield]
  rw [hfirst, hsecond, hfits, readPair, bind_eq_error_iff]
  simp only [bind_pure_eq_error_iff, exists_and_right]

variable {items : List Value}

/-- Elements that come in pairs are refused for the first that offends. -/
theorem mapM_readPair_eq_error_iff (hitems : ∀ v ∈ items, v.IsData) (heven : items.length % 2 = 0) {e : Failure} :
    (pairs items).mapM readPair = .error e ↔
      ∃ i v, items[i]? = some v ∧ (∀ j w, j < i → items[j]? = some w → Value.FitsAt j w) ∧
        ∃ o, v.OffendsAt i o ∧ e = .logic o := by
  induction items using pairs.induct with
  | case1 => simp
  | case2 a => simp at heven
  | case3 a b rest ih =>
    simp only [List.forall_mem_cons] at hitems
    obtain ⟨ha, hb, hrest⟩ := hitems
    simp only [List.length_cons] at heven
    have hread : (∃ c, readPair (a, b) = .ok c) ↔ a.FitsAt 0 ∧ b.FitsAt 1 := by
      simp only [readPair_eq_ok_iff ha hb, exists_condition_reads_iff]
    rw [exists_first_getElem?_cons_iff (P := Value.FitsAt), exists_first_getElem?_cons_iff]
    simp only [offendsAt_add_two, fitsAt_add_two, ← ih hrest (by omega), Nat.zero_add]
    rw [pairs_cons, List.mapM_cons, bind_eq_error_iff]
    simp only [bind_pure_eq_error_iff, exists_and_right]
    rw [readPair_eq_error_iff ha hb, hread, or_assoc, and_assoc, ← and_or_left]

theorem not_elements_iff {data : Value} : (∀ items, ¬data.Elements items) ↔ data.asSequence? = none := by
  simp only [← asSequence?_eq_some_iff, Option.eq_none_iff_forall_ne_some, ne_eq]

/-- Data is refused for its kind, or else for the number of its elements, or else for the first that offends. -/
theorem ofData_eq_error_iff {data : Value} (hdata : data.IsData) {e : Failure} :
    Rule.ofData data = .error e ↔ ∃ o, data.RuleOffence o ∧ e = .logic o := by
  cases hsequence : data.asSequence? with
  | none =>
    obtain ⟨shown, hshown⟩ := hdata.exists_display
    have hkind := not_elements_iff.2 hsequence
    rw [ofData_of_no_sequence hdata.ne_rule hsequence, hshown]
    constructor
    · intro h
      exact ⟨_, .kind hkind hshown, (Except.error.inj h).symm⟩
    · rintro ⟨o, ho, rfl⟩
      cases ho with
      | kind _ hshown' =>
        obtain rfl := Except.ok.inj (hshown.symm.trans hshown')
        rfl
      | parity hitems => exact absurd hitems (hkind _)
      | element hitems => exact absurd hitems (hkind _)
  | some items =>
    have hitems := asSequence?_eq_some_iff.1 hsequence
    have hunique : ∀ {items'}, data.Elements items' → items' = items := fun h =>
      Option.some.inj ((asSequence?_eq_some_iff.2 h).symm.trans hsequence)
    by_cases hodd : items.length % 2 = 1
    · rw [ofData_of_odd hdata.ne_rule hsequence hodd]
      constructor
      · intro h
        exact ⟨_, .parity hitems hodd, (Except.error.inj h).symm⟩
      · rintro ⟨o, ho, rfl⟩
        cases ho with
        | kind hkind => exact absurd hitems (hkind _)
        | parity hitems' => rw [hunique hitems']
        | element hitems' heven =>
          rw [hunique hitems'] at heven
          omega
    · have heven : items.length % 2 = 0 := by omega
      rw [ofData_of_even hdata.ne_rule hsequence heven, bind_pure_eq_error_iff,
        mapM_readPair_eq_error_iff (fun v hv => hdata.element hsequence hv) heven]
      constructor
      · rintro ⟨i, v, hv, hbefore, o, ho, rfl⟩
        exact ⟨o, .element hitems heven hv hbefore ho, rfl⟩
      · rintro ⟨o, ho, rfl⟩
        cases ho with
        | kind hkind => exact absurd hitems (hkind _)
        | parity hitems' hodd' =>
          rw [hunique hitems'] at hodd'
          exact absurd hodd' hodd
        | element hitems' _ hv hbefore ho =>
          obtain rfl := hunique hitems'
          exact ⟨_, _, hv, hbefore, o, ho, rfl⟩

/-- Data is read as the rule that its elements denote. -/
theorem ofData_eq_ok_iff_reads {data : Value} (hdata : data.IsData) {r : Rule} :
    Rule.ofData data = .ok r ↔ ∃ items, data.Elements items ∧ r.Reads items := by
  simp only [ofData_eq_ok_iff hdata.ne_rule, asSequence?_eq_some_iff]
  refine exists_congr fun items => and_congr_right fun hitems => ?_
  have hmembers : ∀ v ∈ items, v.IsData := fun v hv => hdata.element (asSequence?_eq_some_iff.2 hitems) hv
  constructor
  · rintro ⟨heven, h⟩
    exact (mapM_readPair_eq_ok_iff hmembers heven).1 h
  · intro h
    have heven : items.length % 2 = 0 := by
      rw [h.1]
      exact Nat.mul_mod_right 2 _
    exact ⟨heven, (mapM_readPair_eq_ok_iff hmembers heven).2 h⟩

/-- Rule data is read exactly if it is a sequence of pairs whose elements fit, the rule it is read as is the one its
elements denote, and data that is refused is refused for its first offence. -/
theorem ofData_grammar {data : Value} (hdata : data.IsData) :
    ((∃ r, Rule.ofData data = .ok r) ↔
        ∃ items, data.Elements items ∧ items.length % 2 = 0 ∧ ∀ i v, items[i]? = some v → Value.FitsAt i v) ∧
      (∀ r, Rule.ofData data = .ok r ↔ ∃ items, data.Elements items ∧ r.Reads items) ∧
      ∀ e, Rule.ofData data = .error e ↔ ∃ o, data.RuleOffence o ∧ e = .logic o := by
  refine ⟨?_, fun r => ofData_eq_ok_iff_reads hdata, fun e => ofData_eq_error_iff hdata⟩
  simp only [ofData_eq_ok_iff hdata.ne_rule, asSequence?_eq_some_iff]
  constructor
  · rintro ⟨r, items, hitems, heven, h⟩
    have hmembers : ∀ v ∈ items, v.IsData := fun v hv => hdata.element (asSequence?_eq_some_iff.2 hitems) hv
    exact ⟨items, hitems, heven, (exists_mapM_readPair_eq_ok_iff hmembers heven).1 ⟨_, h⟩⟩
  · rintro ⟨items, hitems, heven, hfits⟩
    have hmembers : ∀ v ∈ items, v.IsData := fun v hv => hdata.element (asSequence?_eq_some_iff.2 hitems) hv
    obtain ⟨cs, hcs⟩ := (exists_mapM_readPair_eq_ok_iff hmembers heven).2 hfits
    exact ⟨⟨cs⟩, items, hitems, heven, hcs⟩

/-- A negated field with a search under its other name is read, and a truth value as the second field is refused before
the comparand behind it. -/
theorem ofData_grammar_like :
    Rule.ofData (.list [.text "!x", .mapping [(.text "LIKE", .text "a")]]) = .ok ⟨[⟨⟨"x", true⟩, .under .search "a"⟩]⟩ ∧
      Rule.ofData (.list [.text "x", .text "y", .bool true, .null]) =
        .error (.logic (.shape (.ambiguousScalar .field "True"))) := by
  constructor
  · have hdata : (Value.list [.text "!x", .mapping [(.text "LIKE", .text "a")]]).IsData := by
      have hentry : (Value.mapping [(.text "LIKE", .text "a")]).IsData :=
        .mapping (List.forall_mem_singleton.2 (.text _)) (List.forall_mem_singleton.2 (.text _))
      exact .list (List.forall_mem_cons.2 ⟨.text _, List.forall_mem_singleton.2 hentry⟩)
    refine ((ofData_grammar hdata).2.1 _).2 ⟨_, .list _, rfl, fun i c hc => ?_⟩
    cases i with
    | zero =>
      obtain rfl := Option.some.inj hc
      have hlike : Text.lower "LIKE" = "like" := (Text.lower_of_ascii (by decide)).trans (by decide)
      exact ⟨_, _, rfl, rfl, ⟨_, .text _, .negated "x"⟩, .under (.text _) (.like hlike) (.text _) fun _ => by decide⟩
    | succ i => cases hc
  · have hdata : (Value.list [.text "x", .text "y", .bool true, .null]).IsData :=
      .list (by simp [Value.IsData.text, Value.IsData.bool, Value.IsData.null])
    refine ((ofData_grammar hdata).2.2 _).2
      ⟨_, .element (i := 2) (.list _) rfl rfl (fun j w hj hw => ?_) ⟨_, .bool true, rfl⟩, rfl⟩
    match j, hj with
    | 0, _ =>
      obtain rfl := Option.some.inj hw
      exact ⟨_, .text _⟩
    | 1, _ =>
      obtain rfl := Option.some.inj hw
      exact ⟨_, .bare (.text _)⟩

end Rulebook
