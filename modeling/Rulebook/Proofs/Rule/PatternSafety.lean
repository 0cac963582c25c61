import Rulebook.Proofs.Rule.Grammar
import Rulebook.Proofs.Rule.Reached

/-!
# Patterns that are refused

A pattern with inline code in it, or one beyond the limit on lengths, is refused before it is compiled, with an error that
carries the pattern. Patterns come to the search as literals of a rule, through variables, and in single comparisons;
none of these ways is around the refusal. Literals with inline code are refused already where the rule is read.
-/

namespace Rulebook

/-- The pattern may be compiled: it holds no inline code and is not beyond the limit. -/
def SafePattern (limit : Int) (pattern : Text) : Prop := ¬inlineCodeMark <:+: pattern ∧ pattern.length ≤ limit

/-- The error that a pattern is refused with; inline code counts before the length. -/
inductive LogicError.RefusesPattern (limit : Int) (pattern : Text) : LogicError → Prop
  | inlineCode (h : inlineCodeMark <:+: pattern) : RefusesPattern limit pattern (.inlineCode pattern)
  | tooLong (hcode : ¬inlineCodeMark <:+: pattern) (h : limit < pattern.length) :
      RefusesPattern limit pattern (.patternTooLong limit pattern)

/-- The computation ends in the refusal of a pattern. -/
def Traced.RefusesPattern (x : Traced Bool) (limit : Int) (pattern : Text) : Prop :=
  ∃ e : LogicError, e.RefusesPattern limit pattern ∧ e.errorClass = .security ∧ x.result = .error (.logic e)

variable {limit : Int} {pattern : Text}

theorem checkPattern_eq_ok_iff : checkPattern pattern = .ok () ↔ ¬inlineCodeMark <:+: pattern := by
  rw [← Text.hasPart_iff, checkPattern]
  split
  · next h => simp [h]
  · next h => simp [h]

/-- A search refuses every pattern that is not safe, whatever the text is and whether the pattern is well formed. -/
theorem refusesPattern_searchPattern (h : ¬SafePattern limit pattern) (field : Text) :
    (searchPattern limit field pattern).RefusesPattern limit pattern := by
  unfold searchPattern
  by_cases hcode : inlineCodeMark <:+: pattern
  · have hcheck : checkPattern pattern = .error (.inlineCode pattern) := by
      rw [checkPattern, if_pos (Text.hasPart_iff.2 hcode)]
    rw [hcheck]
    exact ⟨_, .inlineCode hcode, rfl, rfl⟩
  · have hlong : limit < pattern.length := by
      rw [SafePattern, not_and, not_le] at h
      exact h hcode
    rw [checkPattern_eq_ok_iff.2 hcode]
    dsimp only
    rw [if_pos hlong]
    exact ⟨_, .tooLong hcode hlong, rfl, rfl⟩

/-- A negation does not change a refusal. -/
theorem refusesPattern_compareTexts (h : ¬SafePattern limit pattern) (field : Text) (negate : Bool) :
    (compareTexts limit field pattern .search negate).RefusesPattern limit pattern := by
  obtain ⟨e, he, hclass, hresult⟩ := refusesPattern_searchPattern h field
  exact ⟨e, he, hclass, Traced.result_bind_error hresult⟩

/-- A search that ends in a truth value has a safe pattern. -/
theorem safePattern_of_compareTexts {field : Text} {negate b : Bool}
    (h : (compareTexts limit field pattern .search negate).result = .ok b) : SafePattern limit pattern := by
  by_contra hsafe
  obtain ⟨e, -, -, he⟩ := refusesPattern_compareTexts hsafe field negate
  rw [he] at h
  cases h

/-- A single comparison under a name of the search is the search. -/
theorem result_evaluateSingle_search {name : Text} (hname : Operator.search.Names name) (field : Text) :
    (evaluateSingle limit field pattern name).result =
      (compareTexts limit (FieldRef.parse field).token pattern .search (FieldRef.parse field).negated).result := by
  rw [evaluateSingle, Traced.result_bind_ok (by rw [Traced.result_lift, parseOperator_eq_ok_iff.2 hname])]

/-! ### Literals with inline code -/

/-- The element is read at its place: as a field at even places, as a comparand at odd ones. -/
def Value.IsReadAt (i : Nat) (v : Value) : Prop :=
  if i % 2 = 0 then ∃ t, scalarText .field v = .ok t else ∃ c, parseComparison v = .ok c

/-- A literal pattern with inline code, under a name of the search. -/
inductive Value.HoldsInlineCode (pattern : Text) : Value → Prop
  | mk {k v : Value} {name : Text} (hk : scalarText .operator k = .ok name) (hname : Operator.search.Names name)
      (hv : scalarText .comparand v = .ok pattern) (hcode : inlineCodeMark <:+: pattern) :
      HoldsInlineCode pattern (.mapping [(k, v)])

theorem Value.HoldsInlineCode.hasInfix {v : Value} (h : v.HoldsInlineCode pattern) : inlineCodeMark <:+: pattern := by
  cases h with
  | mk _ _ _ hcode => exact hcode

theorem parseComparison_of_holdsInlineCode {v : Value} (h : v.HoldsInlineCode pattern) :
    parseComparison v = .error (.logic (.inlineCode pattern)) := by
  cases h with
  | mk hk hname hv hcode =>
    have hcheck : liftLogic (checkPattern pattern) = .error (.logic (.inlineCode pattern)) := by
      rw [checkPattern, if_pos (Text.hasPart_iff.2 hcode), liftLogic]
    rw [parseComparison, hk, ok_bind, parseOperator_eq_ok_iff.2 hname, ok_bind, hv, ok_bind,
      if_pos (Operator.isRegex_iff.2 rfl), hcheck, error_bind]

/-- Elements behind pairs that are read are read as far as the first pattern with inline code. -/
theorem mapM_readPair_of_holdsInlineCode {items : List Value} {i : Nat} {v : Value}
    (hv : items[2 * i + 1]? = some v) (hcode : v.HoldsInlineCode pattern)
    (hbefore : ∀ j w, j < 2 * i + 1 → items[j]? = some w → w.IsReadAt j) :
    (pairs items).mapM readPair = .error (.logic (.inlineCode pattern)) := by
  have hlt : 2 * i + 1 < items.length := (List.getElem?_eq_some_iff.1 hv).1
  have hread : ∀ {j w}, 2 * j < 2 * i + 1 → items[2 * j]? = some w → ∃ t, scalarText .field w = .ok t := by
    intro j w hj hw
    have h := hbefore (2 * j) w hj hw
    rwa [Value.IsReadAt, if_pos (Nat.mul_mod_right 2 j)] at h
  obtain ⟨field, hfield⟩ : ∃ field, items[2 * i]? = some field := ⟨_, List.getElem?_eq_getElem (by omega)⟩
  have hpair : (pairs items)[i]? = some (field, v) := getElem?_pairs_eq_some_iff.2 ⟨hfield, hv⟩
  obtain ⟨hi, hget⟩ := List.getElem?_eq_some_iff.1 hpair
  refine mapM_eq_error_iff.2 ⟨(pairs items).take i, (field, v), (pairs items).drop (i + 1), ?_, ?_, ?_⟩
  · rw [← hget, ← List.drop_eq_getElem_cons, List.take_append_drop]
  · rintro ⟨f, w⟩ hp
    obtain ⟨j, hj⟩ := List.mem_iff_getElem?.1 hp
    rw [List.getElem?_take] at hj
    split at hj
    · next hji =>
      obtain ⟨hf, hw⟩ := getElem?_pairs_eq_some_iff.1 hj
      obtain ⟨t, ht⟩ := hread (by omega) hf
      have hcomparand := hbefore (2 * j + 1) w (by omega) hw
      rw [Value.IsReadAt, if_neg (by omega)] at hcomparand
      obtain ⟨c, hc⟩ := hcomparand
      exact ⟨⟨FieldRef.parse t, c⟩, by rw [readPair, ht, ok_bind, hc, ok_bind, pure_eq_ok]⟩
    · cases hj
  · obtain ⟨t, ht⟩ := hread (by omega) hfield
    rw [readPair, ht, ok_bind, parseComparison_of_holdsInlineCode hcode, error_bind]

/-- Rule data with a literal pattern that holds inline code is refused for it, if nothing before it offends. -/
theorem ofData_of_holdsInlineCode {data : Value} {items : List Value} (hitems : data.Elements items)
    (heven : items.length % 2 = 0) {i : Nat} {v : Value} (hv : items[2 * i + 1]? = some v)
    (hcode : v.HoldsInlineCode pattern) (hbefore : ∀ j w, j < 2 * i + 1 → items[j]? = some w → w.IsReadAt j) :
    Rule.ofData data = .error (.logic (.inlineCode pattern)) := by
  have hdata : ∀ r, data ≠ .rule r := by
    rintro r rfl
    cases hitems
  rw [ofData_of_even hdata (asSequence?_eq_some_iff.2 hitems) heven, bind_pure_eq_error_iff]
  exact mapM_readPair_of_holdsInlineCode hv hcode hbefore

/-! ### Every way to the search -/

/-- In an evaluation that ends in a truth value every pattern that is searched for is safe, and one that is not safe ends
the evaluation that comes to it. The same holds of single comparisons. A literal with inline code ends every evaluation
of its rule, unless an element before it offends. -/
theorem patterns_are_safe (config : LogicConfig) :
    (∀ data bindings r c, Rule.ofData data = .ok r → r.Reaches config (variablesOrNone bindings) c →
      c.comparison.operator = .search →
        (∀ b, (evaluateRule config data bindings).result = .ok b →
          ∃ field pattern, c.Resolves config (variablesOrNone bindings) field pattern ∧
            SafePattern config.maxPatternLength pattern) ∧
        ∀ field pattern, c.Resolves config (variablesOrNone bindings) field pattern →
          ¬SafePattern config.maxPatternLength pattern →
            (evaluateRule config data bindings).RefusesPattern config.maxPatternLength pattern) ∧
    (∀ field pattern name, Operator.search.Names name →
      ((∃ b, (evaluateSingle config.maxPatternLength field pattern name).result = .ok b) →
        SafePattern config.maxPatternLength pattern) ∧
      (¬SafePattern config.maxPatternLength pattern →
        (evaluateSingle config.maxPatternLength field pattern name).RefusesPattern config.maxPatternLength pattern)) ∧
    (∀ field pattern negate,
      ((∃ b, (compareTexts config.maxPatternLength field pattern .search negate).result = .ok b) →
        SafePattern config.maxPatternLength pattern) ∧
      (¬SafePattern config.maxPatternLength pattern →
        (compareTexts config.maxPatternLength field pattern .search negate).RefusesPattern
          config.maxPatternLength pattern)) ∧
    ∀ data bindings items i v pattern, data.Elements items → items.length % 2 = 0 → items[2 * i + 1]? = some v →
      v.HoldsInlineCode pattern → (∀ j w, j < 2 * i + 1 → items[j]? = some w → w.IsReadAt j) →
        (evaluateRule config data bindings).RefusesPattern config.maxPatternLength pattern := by
  refine ⟨fun data bindings r c hdata hreach hop => ⟨fun b hb => ?_, fun field pattern hresolves hsafe => ?_⟩,
    fun field pattern name hname => ?_, fun field pattern negate => ⟨fun ⟨b, hb⟩ => safePattern_of_compareTexts hb,
      fun hsafe => refusesPattern_compareTexts hsafe field negate⟩,
    fun data bindings items i v pattern hitems heven hv hcode hbefore => ?_⟩
  · obtain ⟨b', hb'⟩ := hreach.exists_result_holds hdata hb
    obtain ⟨field, pattern, hresolves⟩ := exists_resolves_of_holds hb'
    rw [hresolves.result_holds, hop] at hb'
    exact ⟨field, pattern, hresolves, safePattern_of_compareTexts hb'⟩
  · obtain ⟨e, he, hclass, hresult⟩ := refusesPattern_compareTexts hsafe field c.field.negated
    refine ⟨e, he, hclass, hreach.result_evaluateRule hdata ?_ (by simp)⟩
    rw [hresolves.result_holds, hop, hresult]
  · rw [Traced.RefusesPattern, result_evaluateSingle_search hname]
    exact ⟨fun ⟨b, hb⟩ => safePattern_of_compareTexts hb, fun hsafe => refusesPattern_compareTexts hsafe _ _⟩
  · refine ⟨_, .inlineCode hcode.hasInfix, rfl, ?_⟩
    rw [result_evaluateRule, ofData_of_holdsInlineCode hitems heven hv hcode hbefore]
    rfl

/-- A pattern with inline code that comes through a variable, and a literal one behind a pair that does not hold. -/
theorem patterns_are_safe_inlineCode :
    (evaluateRule .standard (.list [.text "a", .mapping [(.text "LIKE", .text "$p")]])
        (.mapping [(.text "p", .text "(?\x7bx\x7d)")])).RefusesPattern 1000 "(?\x7bx\x7d)" ∧
      (evaluateRule .standard (.list [.text "a", .text "b", .text "a", .mapping [(.text "=~", .text "(?\x7bx\x7d)")]])
        (.mapping [])).RefusesPattern 1000 "(?\x7bx\x7d)" := by
  have hcode : inlineCodeMark <:+: ("(?\x7bx\x7d)" : Text) := by decide
  constructor
  · refine ((patterns_are_safe .standard).1 _ _ _ ⟨⟨"a", false⟩, .under .search "$p"⟩ ?_ ⟨[], [], rfl, nofun⟩ rfl).2
      "a" _ ?_ fun hsafe => hsafe.1 hcode
    · decide +kernel
    · constructor <;> decide +kernel
  · refine (patterns_are_safe .standard).2.2.2 _ _ _ 1 _ _ (.list _) rfl rfl
      (.mk rfl (.spelling ((Text.lower_of_ascii (by decide)).trans (by decide))) rfl hcode) fun j w hj hw => ?_
    match j, hj with
    | 0, _ | 2, _ =>
      obtain rfl := Option.some.inj hw
      exact ⟨_, rfl⟩
    | 1, _ =>
      obtain rfl := Option.some.inj hw
      exact ⟨_, rfl⟩

end Rulebook
