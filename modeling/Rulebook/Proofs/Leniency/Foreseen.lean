import Rulebook.Proofs.Leniency.Constant
import Rulebook.Template.Prepared

/-!
# Foreseen values

Where the value of an impartial expression is known beforehand under the lenient policy, rendering cannot find more
under the strict one: if the expression has a value then, that value was known beforehand too.
-/

namespace Rulebook.Template
open Value (Eases)

/-- Wherever the step succeeds, its result satisfies the predicate. -/
def Yields {α : Type} (P : α → Prop) (x : Render α) : Prop :=
  ∀ scene a scene', x.run scene = .ok (a, scene') → P a

namespace Yields
variable {α β : Type} {P : α → Prop} {Q : β → Prop}

theorem pure {a : α} (h : P a) : Yields P (Pure.pure a) := by
  rintro scene _ scene' ⟨⟩
  exact h

theorem throw (f : Fault) : Yields P (throw f : Render α) := nofun

theorem lift {x : Except Fault α} (h : ∀ a, x = .ok a → P a) : Yields P (liftM x : Render α) := by
  intro scene a scene' hrun
  obtain ⟨b, hb, hpair⟩ := bind_eq_ok_iff.1 hrun
  cases hpair
  exact h a hb

theorem bind {x : Render α} {f : α → Render β} (hx : Yields P x) (hf : ∀ a, P a → Yields Q (f a)) :
    Yields Q (x >>= f) := by
  intro scene b scene' hrun
  rw [StateT.run_bind] at hrun
  obtain ⟨⟨a, scene₁⟩, ha, hb⟩ := bind_eq_ok_iff.1 hrun
  exact hf a (hx _ _ _ ha) _ _ _ hb

theorem mapM {γ : Type} {R : γ → α → Prop} {f : γ → Render α} {l : List γ} (h : ∀ c ∈ l, Yields (R c) (f c)) :
    Yields (List.Forall₂ R l) (l.mapM f) := by
  induction l with
  | nil => exact .pure .nil
  | cons c l ih =>
    obtain ⟨hc, hl⟩ := List.forall_mem_cons.1 h
    rw [List.mapM_cons]
    exact hc.bind fun _ ha => (ih hl).bind fun _ has => .pure (.cons ha has)

end Yields

/-- Where the expression has a value under the strict policy, that value is known beforehand. -/
def Expr.Foreseen (e : Expr) : Prop :=
  ∀ s : Surroundings, s.strict = true → ∀ fuel, Yields (fun v => e.constant? true = .ok (some v)) (evaluate s fuel e)

/-- Where a chain of relations from a value on is decided under the strict policy, that is known beforehand. -/
def ChainForeseen (v : Value) (es : List (Relation × Expr)) : Prop :=
  ∀ s : Surroundings, s.strict = true → ∀ fuel,
    Yields (fun c => constantChain? true v es = .ok (some (.bool c))) (chainHolds s fuel v es)

/-- Arguments by name that a mapping adds to are the same where they are known beforehand. -/
theorem withConstantRest_of_withNamedRest {replaces : Bool} {named more : Scope} {v : Value}
    (h : withNamedRest replaces named v = .ok more) : withConstantRest named v = .ok more := by
  simp only [withNamedRest, bind_eq_ok_iff] at h
  obtain ⟨entries, hentries, added, hadded, h⟩ := h
  have hfrom : entriesFrom v = .ok entries := by
    cases v with
    | mapping => exact hentries
    | _ => cases hentries
  split at h
  · cases h
  · simp only [withConstantRest, hfrom, ok_bind, hadded]
    exact h

theorem constants?_eq_some {es : List Expr} {vs : List Value}
    (h : List.Forall₂ (fun e v => e.constant? true = .ok (some v)) es vs) : constants? true es = .ok (some vs) := by
  induction h with
  | nil => rfl
  | cons h _ ih => simp [constants?, h, ih]

theorem constantPairs?_eq_some {es : List (Expr × Expr)} {vs : List (Value × Value)}
    (h : List.Forall₂ (fun e v => e.1.constant? true = .ok (some v.1) ∧ e.2.constant? true = .ok (some v.2)) es vs) :
    constantPairs? true es = .ok (some vs) := by
  induction h with
  | nil => rfl
  | cons h _ ih => simp [constantPairs?, h.1, h.2, ih]

theorem constantNamed?_eq_some {es : List (Text × Expr)} {vs : List (Text × Value)}
    (h : List.Forall₂ (fun e v => e.1 = v.1 ∧ e.2.constant? true = .ok (some v.2)) es vs) :
    constantNamed? true es = .ok (some vs) := by
  induction h with
  | nil => rfl
  | cons h _ ih => simp [constantNamed?, h.1, h.2, ih]

theorem constantTexts?_eq_some {es : List Expr} {vs : List Value} {ts : List Text}
    (h : List.Forall₂ (fun e v => e.constant? true = .ok (some v)) es vs) (hts : vs.mapM printed = .ok ts) :
    constantTexts? true es = .ok (some ts) := by
  induction h generalizing ts with
  | nil =>
    cases hts
    rfl
  | cons h _ ih =>
    simp only [List.mapM_cons, bind_eq_ok_iff, pure_eq_ok, Except.ok.injEq] at hts
    obtain ⟨t, ht, ts, hts, rfl⟩ := hts
    simp [constantTexts?, h, ht, ih hts]

theorem evaluate_item {s : Surroundings} {fuel : Nat} {e i : Expr} (h : i.form ≠ .slice) :
    evaluate s (fuel + 1) (.item e i) =
      (evaluate s fuel e >>= fun v => evaluate s fuel i >>= fun w => liftM (getItem s.strict v w)) := by
  cases i with
  | slice => exact absurd rfl h
  | _ => simp only [evaluate]

namespace Expr.Foreseen

/-- Nothing is evaluated without fuel. -/
theorem of_succ {e : Expr}
    (h : ∀ s : Surroundings, s.strict = true → ∀ fuel,
      Yields (fun v => e.constant? true = .ok (some v)) (evaluate s (fuel + 1) e)) : e.Foreseen := by
  intro s hs fuel
  cases fuel with
  | zero => exact .throw _
  | succ fuel => exact h s hs fuel

theorem const (v : Value) : (Expr.const v).Foreseen := by
  refine .of_succ fun s _ fuel => ?_
  rw [evaluate_const]
  refine .lift fun a ha => ?_
  unfold constantValue at ha
  split at ha
  · cases ha
  · cases ha
    rfl

theorem settle {e e' : Expr} (h : Template.settle true e = .ok e') (he : e.Foreseen) : e'.Foreseen := by
  rcases settle_eq_ok_iff.1 h with ⟨v, -, -, rfl⟩ | ⟨rfl, -⟩
  · exact .const v
  · exact he

variable {s : Surroundings} {fuel : Nat}

theorem mapM {es : List Expr} (h : ∀ e ∈ es, e.Foreseen) (hs : s.strict = true) (fuel : Nat) :
    Yields (List.Forall₂ (fun e v => e.constant? true = .ok (some v)) es) (es.mapM (evaluate s fuel)) :=
  .mapM fun e he => h e he s hs fuel

theorem tuple {es : List Expr} (h : ∀ e ∈ es, e.Foreseen) : (Expr.tuple es).Foreseen := by
  refine .of_succ fun s hs fuel => ?_
  simp only [evaluate, Expr.constant?]
  exact (mapM h hs fuel).bind fun vs hvs => .pure (by simp [constants?_eq_some hvs])

theorem list {es : List Expr} (h : ∀ e ∈ es, e.Foreseen) : (Expr.list es).Foreseen := by
  refine .of_succ fun s hs fuel => ?_
  simp only [evaluate, Expr.constant?]
  exact (mapM h hs fuel).bind fun vs hvs => .pure (by simp [constants?_eq_some hvs])

theorem concat {es : List Expr} (h : ∀ e ∈ es, e.Foreseen) : (Expr.concat es).Foreseen := by
  refine .of_succ fun s hs fuel => ?_
  simp only [evaluate, Expr.constant?]
  refine (mapM h hs fuel).bind fun vs hvs => (Yields.lift fun ts hts => hts).bind fun ts hts => .pure ?_
  simp [constantTexts?_eq_some hvs hts]

theorem mapping {es : List (Expr × Expr)} (h : ∀ e ∈ es, e.1.Foreseen ∧ e.2.Foreseen) :
    (Expr.mapping es).Foreseen := by
  refine .of_succ fun s hs fuel => ?_
  simp only [evaluate, Expr.constant?]
  refine Yields.bind (.mapM (R := fun e v => e.1.constant? true = .ok (some v.1) ∧ e.2.constant? true = .ok (some v.2))
    fun e he => ?_) fun vs hvs => .lift fun v hv => ?_
  · exact ((h e he).1 s hs fuel).bind fun k hk => ((h e he).2 s hs fuel).bind fun v hv => .pure ⟨hk, hv⟩
  · simp [constantPairs?_eq_some hvs, hv]

theorem unary {e : Expr} (op : Unary) (h : e.Foreseen) : (Expr.unary op e).Foreseen := by
  refine .of_succ fun s hs fuel => ?_
  simp only [evaluate, Expr.constant?]
  exact (h s hs fuel).bind fun v hv => .lift fun w hw => by simp [hv, hw]

theorem arith {a b : Expr} (op : Arith) (ha : a.Foreseen) (hb : b.Foreseen) : (Expr.arith op a b).Foreseen := by
  refine .of_succ fun s hs fuel => ?_
  simp only [evaluate, Expr.constant?]
  exact (ha s hs fuel).bind fun v hv => (hb s hs fuel).bind fun w hw => .lift fun u hu => by simp [hv, hw, hu]

/-- A second operand matters only if the first one holds. -/
theorem both {a b : Expr} (ha : a.Foreseen)
    (hb : ∀ v, a.constant? true = .ok (some v) → truth v = .ok true → b.Foreseen) : (Expr.both a b).Foreseen := by
  refine .of_succ fun s hs fuel => ?_
  simp only [evaluate, Expr.constant?]
  refine (ha s hs fuel).bind fun v hv => (Yields.lift fun c hc => hc).bind fun c hc => ?_
  cases c with
  | false => exact .pure (by simp [hv, hc])
  | true => simpa [hv, hc] using hb v hv hc s hs fuel

/-- A second operand matters only if the first one does not hold. -/
theorem either {a b : Expr} (ha : a.Foreseen)
    (hb : ∀ v, a.constant? true = .ok (some v) → truth v = .ok false → b.Foreseen) : (Expr.either a b).Foreseen := by
  refine .of_succ fun s hs fuel => ?_
  simp only [evaluate, Expr.constant?]
  refine (ha s hs fuel).bind fun v hv => (Yields.lift fun c hc => hc).bind fun c hc => ?_
  cases c with
  | false => simpa [hv, hc] using hb v hv hc s hs fuel
  | true => exact .pure (by simp [hv, hc])

/-- Of a choice, only what the condition selects matters. -/
theorem choice {line : Nat} {condition value : Expr} {otherwise : Option Expr} (hcondition : condition.Foreseen)
    (hvalue : ∀ v, condition.constant? true = .ok (some v) → truth v = .ok true → value.Foreseen)
    (hotherwise : ∀ v, condition.constant? true = .ok (some v) → truth v = .ok false →
      ∃ e, otherwise = some e ∧ e.Foreseen) :
    (Expr.choice line condition value otherwise).Foreseen := by
  refine .of_succ fun s hs fuel => ?_
  simp only [evaluate]
  refine (hcondition s hs fuel).bind fun v hv => (Yields.lift fun c hc => hc).bind fun c hc => ?_
  cases c with
  | false =>
    obtain ⟨e, rfl, he⟩ := hotherwise v hv hc
    simpa [Expr.constant?, hv, hc] using he s hs fuel
  | true => cases otherwise <;> simpa [Expr.constant?, hv, hc] using hvalue v hv hc s hs fuel

theorem property {e : Expr} (h : e.Foreseen) (n : Text) : (Expr.property e n).Foreseen := by
  refine .of_succ fun s hs fuel => ?_
  simp only [evaluate, Expr.constant?, hs]
  exact (h s hs fuel).bind fun v hv => .lift fun w hw => by simp [hv, hw]

theorem item {e i : Expr} (he : e.Foreseen) (hi : i.Foreseen) (hslice : i.form ≠ .slice) :
    (Expr.item e i).Foreseen := by
  refine .of_succ fun s hs fuel => ?_
  rw [evaluate_item hslice, constant?_item hslice, hs]
  exact (he s hs fuel).bind fun v hv => (hi s hs fuel).bind fun w hw => .lift fun u hu => by simp [hv, hw, hu]

theorem option {e : Option Expr} (h : ∀ a ∈ e, a.Foreseen) (hs : s.strict = true) (fuel : Nat) :
    Yields (fun v => constantOption? true e = .ok (some v)) (evaluateOption s fuel e) := by
  cases fuel with
  | zero => exact .throw _
  | succ fuel =>
    cases e with
    | none =>
      simp only [evaluateOption]
      exact .pure rfl
    | some e =>
      simp only [evaluateOption]
      exact h e rfl s hs fuel

/-- A slice that the value offers is the one that is taken beforehand. -/
theorem slice {e : Expr} {a b c : Option Expr} (he : e.Foreseen) (ha : ∀ e ∈ a, e.Foreseen) (hb : ∀ e ∈ b, e.Foreseen)
    (hc : ∀ e ∈ c, e.Foreseen) : (Expr.item e (.slice a b c)).Foreseen := by
  refine .of_succ fun s hs fuel => ?_
  simp only [evaluate, Expr.constant?]
  refine (he s hs fuel).bind fun v hv => (option ha hs fuel).bind fun a ha => ?_
  refine (option hb hs fuel).bind fun b hb => (option hc hs fuel).bind fun c hc => .lift fun w hw => ?_
  simp [hv, ha, hb, hc, constantSlice, hw]

theorem chain {first : Expr} {rest : List (Relation × Expr)} (hfirst : first.Foreseen)
    (hrest : ∀ v, first.constant? true = .ok (some v) → ChainForeseen v rest) : (Expr.chain first rest).Foreseen := by
  refine .of_succ fun s hs fuel => ?_
  simp only [evaluate, Expr.constant?]
  refine (hfirst s hs fuel).bind fun v hv => (hrest v hv s hs fuel).bind fun c hc => .pure ?_
  simp [hv, hc]

/-- The arguments that a call has under the strict policy are known beforehand. -/
theorem arguments {args : List Expr} {named : List (Text × Expr)} {rest namedRest : Option Expr}
    (hargs : ∀ e ∈ args, e.Foreseen) (hnamed : ∀ e ∈ named, e.2.Foreseen) (hrest : ∀ e ∈ rest, e.Foreseen)
    (hnamedRest : ∀ e ∈ namedRest, e.Foreseen) (hs : s.strict = true) (fuel : Nat) :
    Yields (fun p => ∃ vs ns, constants? true args = .ok (some vs) ∧ constantNamed? true named = .ok (some ns) ∧
        constantRest? true rest vs = .ok (some p.1) ∧ constantNamedRest? true namedRest (bindAll ns []) = .ok (some p.2))
      (evaluateArguments s fuel args named rest namedRest) := by
  cases fuel with
  | zero => exact .throw _
  | succ fuel =>
    simp only [evaluateArguments]
    refine (mapM hargs hs fuel).bind fun vs hvs => ?_
    have hvs := constants?_eq_some hvs
    cases rest
    case' none =>
      refine Yields.bind (P := fun ws => constantRest? true none vs = .ok (some ws)) (.pure rfl) fun ws hws => ?_
    case' some e =>
      refine (hrest e rfl s hs fuel).bind fun v hv => ?_
      refine Yields.bind (P := fun ws => constantRest? true (some e) vs = .ok (some ws)) (.lift fun ws hws => ?_)
        fun ws hws => ?_
      · simp [constantRest?, hv, hws]
    all_goals
      refine Yields.bind (.mapM (R := fun e v => e.1 = v.1 ∧ e.2.constant? true = .ok (some v.2)) fun e he => ?_)
        fun ns hns => ?_
      · exact (hnamed e he s hs fuel).bind fun v hv => .pure ⟨rfl, hv⟩
      have hns := constantNamed?_eq_some hns
      cases namedRest with
      | none =>
        refine Yields.bind (P := (bindAll ns [] = ·)) (.pure rfl) fun ms hms => .pure ⟨vs, ns, hvs, hns, hws, ?_⟩
        simp [constantNamedRest?, hms]
      | some e =>
        refine (hnamedRest e rfl s hs fuel).bind fun v hv => ?_
        refine (Yields.lift fun ms hms => hms).bind fun ms hms => .pure ⟨vs, ns, hvs, hns, hws, ?_⟩
        simp [constantNamedRest?, hv, withConstantRest_of_withNamedRest hms]

/-- Filters and tests are asked with the arguments that are known beforehand. -/
theorem ask {asked : Asked} {target : Expr} {name : Text} {args : List Expr} {named : List (Text × Expr)}
    {rest namedRest : Option Expr} (htarget : target.Foreseen) (hargs : ∀ e ∈ args, e.Foreseen)
    (hnamed : ∀ e ∈ named, e.2.Foreseen) (hrest : ∀ e ∈ rest, e.Foreseen) (hnamedRest : ∀ e ∈ namedRest, e.Foreseen) :
    (Expr.ask asked (some target) name args named rest namedRest).Foreseen := by
  refine .of_succ fun s hs fuel => ?_
  simp only [evaluate, hs]
  refine (option (by simpa using htarget) hs fuel).bind fun v hv => ?_
  refine (arguments hargs hnamed hrest hnamedRest hs fuel).bind fun p hp => ?_
  split
  · next hhas =>
    refine .lift fun w hw => ?_
    obtain ⟨vs, ns, hvs, hns, hvs', hns'⟩ := hp
    simp only [constantOption?] at hv
    simp [Expr.constant?, hhas, hvs, hns, hvs', hns', hv, hw]
  · exact .throw _

end Expr.Foreseen

theorem ChainForeseen.nil (v : Value) : ChainForeseen v [] := by
  intro s _ fuel
  cases fuel with
  | zero => exact .throw _
  | succ fuel =>
    simp only [chainHolds]
    exact .pure rfl

/-- The rest of a chain matters only if its first relation holds. -/
theorem ChainForeseen.cons {v : Value} {r : Relation} {e : Expr} {es : List (Relation × Expr)} (he : e.Foreseen)
    (hes : ∀ w, e.constant? true = .ok (some w) → relate r v w = .ok true → ChainForeseen w es) :
    ChainForeseen v ((r, e) :: es) := by
  intro s hs fuel
  cases fuel with
  | zero => exact .throw _
  | succ fuel =>
    simp only [chainHolds, constantChain?]
    refine (he s hs fuel).bind fun w hw => (Yields.lift fun c hc => hc).bind fun c hc => ?_
    cases c with
    | false => exact .pure (by simp [hw, hc])
    | true => simpa [hw, hc] using hes w hw hc s hs fuel

/-! ### What is known leniently is foreseen strictly -/

/-- The value of the expression is known beforehand under the lenient policy. -/
def Expr.IsKnown (e : Expr) : Prop := ∃ w, e.constant? false = .ok (some w)

theorem isKnown_of_constants? {es : List Expr} {ws : List Value} (h : constants? false es = .ok (some ws)) :
    ∀ e ∈ es, e.IsKnown := by
  induction es generalizing ws with
  | nil => nofun
  | cons e es ih =>
    simp only [constants?, Known.andThen_eq_some] at h
    obtain ⟨w, hw, ws, hws, -⟩ := h
    exact List.forall_mem_cons.2 ⟨⟨w, hw⟩, ih hws⟩

theorem isKnown_of_constantTexts? {es : List Expr} {ts : List Text} (h : constantTexts? false es = .ok (some ts)) :
    ∀ e ∈ es, e.IsKnown := by
  induction es generalizing ts with
  | nil => nofun
  | cons e es ih =>
    simp only [constantTexts?, Known.andThen_eq_some] at h
    obtain ⟨w, hw, t, -, ts, hts, -⟩ := h
    exact List.forall_mem_cons.2 ⟨⟨w, hw⟩, ih hts⟩

theorem isKnown_of_constantPairs? {es : List (Expr × Expr)} {ws : List (Value × Value)}
    (h : constantPairs? false es = .ok (some ws)) : ∀ e ∈ es, e.1.IsKnown ∧ e.2.IsKnown := by
  induction es generalizing ws with
  | nil => nofun
  | cons e es ih =>
    obtain ⟨a, b⟩ := e
    simp only [constantPairs?, Known.andThen_eq_some] at h
    obtain ⟨v, hv, w, hw, ws, hws, -⟩ := h
    exact List.forall_mem_cons.2 ⟨⟨⟨v, hv⟩, ⟨w, hw⟩⟩, ih hws⟩

theorem isKnown_of_constantNamed? {es : List (Text × Expr)} {ws : List (Text × Value)}
    (h : constantNamed? false es = .ok (some ws)) : ∀ e ∈ es, e.2.IsKnown := by
  induction es generalizing ws with
  | nil => nofun
  | cons e es ih =>
    obtain ⟨k, e⟩ := e
    simp only [constantNamed?, Known.andThen_eq_some] at h
    obtain ⟨w, hw, ws, hws, -⟩ := h
    exact List.forall_mem_cons.2 ⟨⟨w, hw⟩, ih hws⟩

theorem isKnown_of_constantOption? {e : Option Expr} {w : Value} (h : constantOption? false e = .ok (some w)) :
    ∀ a ∈ e, a.IsKnown := by
  rintro a rfl
  exact ⟨w, h⟩

theorem isKnown_of_constantRest? {e : Option Expr} {vs ws : List Value}
    (h : constantRest? false e vs = .ok (some ws)) : ∀ a ∈ e, a.IsKnown := by
  rintro a rfl
  simp only [constantRest?, Known.orLater_eq_some, Known.andThen_eq_some] at h
  obtain ⟨v, hv, -⟩ := h
  exact ⟨v, hv⟩

theorem isKnown_of_constantNamedRest? {e : Option Expr} {ns ms : List (Text × Value)}
    (h : constantNamedRest? false e ns = .ok (some ms)) : ∀ a ∈ e, a.IsKnown := by
  rintro a rfl
  simp only [constantNamedRest?, Known.orLater_eq_some, Known.andThen_eq_some] at h
  obtain ⟨v, hv, -⟩ := h
  exact ⟨v, hv⟩

/-- What is known of a folded expression under the strict policy eases to what is known under the lenient one. -/
theorem eases_of_fold {e e' : Expr} (himpartial : Impartial e.uses) (h : e.fold true = .ok e') {v w : Value}
    (hv : e'.constant? true = .ok (some v)) (hw : e.constant? false = .ok (some w)) : Eases v w := by
  rw [constant?_fold h] at hv
  obtain ⟨w', hw', hvw⟩ := constant?_leads himpartial v hv
  rw [hw] at hw'
  cases hw'
  exact hvw

/-- Of a choice that is known leniently, what its condition selects is known. -/
theorem isKnown_of_choice {line : Nat} {condition value : Expr} {otherwise : Option Expr} {w : Value}
    (hw : (Expr.choice line condition value otherwise).constant? false = .ok (some w)) :
    ∃ v, condition.constant? false = .ok (some v) ∧ ∃ c, truth v = .ok c ∧ (c = true → value.IsKnown) ∧
      (c = false → ∃ e, otherwise = some e ∧ e.IsKnown) := by
  cases otherwise
  all_goals
    simp only [Expr.constant?, Known.andThen_eq_some, Known.insist_eq_some] at hw
    obtain ⟨v, hv, c, hc, hw⟩ := hw
    refine ⟨v, hv, c, hc, ?_⟩
    cases c
  case none.false => simp at hw
  case some.false => exact ⟨(by cases ·), fun _ => ⟨_, rfl, w, by simpa using hw⟩⟩
  all_goals exact ⟨fun _ => ⟨w, by simpa using hw⟩, (by cases ·)⟩

theorem foldOption_some {strict : Bool} {e : Expr} {o : Option Expr} (h : foldOption strict (some e) = .ok o) :
    ∃ e', e.fold strict = .ok e' ∧ o = some e' := by
  simp only [foldOption, bind_eq_ok_iff, pure_eq_ok, Except.ok.injEq] at h
  obtain ⟨e', he, rfl⟩ := h
  exact ⟨e', he, rfl⟩

theorem truth_eq_of_eases {v w : Value} (h : Eases v w) {c d : Bool} (hc : truth v = .ok c) (hd : truth w = .ok d) :
    c = d := by
  obtain ⟨_, hd', rfl⟩ := follows_truth h c hc
  exact Except.ok.inj (hd'.symm.trans hd)

mutual

/-- An impartial expression that is known under the lenient policy is foreseen when it is folded under the strict one. -/
theorem foreseen_fold {e e' : Expr} (himpartial : Impartial e.uses) (hknown : e.IsKnown)
    (h : e.fold true = .ok e') : e'.Foreseen := by
  obtain ⟨w, hw⟩ := hknown
  cases e with
  | const v =>
    simp only [Expr.fold, Except.ok.injEq] at h
    exact h ▸ .const v
  | name | namespaceRef | slice | call => simp [Expr.constant?] at hw
  | tuple items =>
    simp only [Expr.fold, bind_eq_ok_iff] at h
    obtain ⟨items', hitems, h⟩ := h
    simp only [Expr.constant?, Known.andThen_eq_some] at hw
    obtain ⟨ws, hws, -⟩ := hw
    exact .settle h (.tuple (foreseen_foldAll himpartial.tail (isKnown_of_constants? hws) hitems))
  | list items =>
    simp only [Expr.fold, bind_eq_ok_iff] at h
    obtain ⟨items', hitems, h⟩ := h
    simp only [Expr.constant?, Known.andThen_eq_some] at hw
    obtain ⟨ws, hws, -⟩ := hw
    exact .settle h (.list (foreseen_foldAll himpartial (isKnown_of_constants? hws) hitems))
  | mapping pairs =>
    simp only [Expr.fold, bind_eq_ok_iff] at h
    obtain ⟨pairs', hpairs, h⟩ := h
    simp only [Expr.constant?, Known.andThen_eq_some] at hw
    obtain ⟨ws, hws, -⟩ := hw
    exact .settle h (.mapping (foreseen_foldPairs himpartial (isKnown_of_constantPairs? hws) hpairs))
  | concat items =>
    simp only [Expr.fold, bind_eq_ok_iff] at h
    obtain ⟨items', hitems, h⟩ := h
    simp only [Expr.constant?, Known.andThen_eq_some] at hw
    obtain ⟨ws, hws, -⟩ := hw
    exact .settle h (.concat (foreseen_foldAll himpartial (isKnown_of_constantTexts? hws) hitems))
  | unary op e =>
    simp only [Expr.uses] at himpartial
    simp only [Expr.fold, bind_eq_ok_iff] at h
    obtain ⟨e', he, h⟩ := h
    simp only [Expr.constant?, Known.andThen_eq_some, Known.orLater_eq_some] at hw
    obtain ⟨v, hv, -⟩ := hw
    exact .settle h (.unary op (foreseen_fold himpartial ⟨v, hv⟩ he))
  | arith op a b =>
    simp only [Expr.uses, impartial_append] at himpartial
    simp only [Expr.fold, bind_eq_ok_iff] at h
    obtain ⟨a', ha, b', hb, h⟩ := h
    simp only [Expr.constant?, Known.andThen_eq_some, Known.orLater_eq_some] at hw
    obtain ⟨v, hv, w, hw, -⟩ := hw
    exact .settle h (.arith op (foreseen_fold himpartial.1 ⟨v, hv⟩ ha) (foreseen_fold himpartial.2 ⟨w, hw⟩ hb))
  | both a b =>
    simp only [Expr.uses, impartial_append] at himpartial
    simp only [Expr.fold, bind_eq_ok_iff] at h
    obtain ⟨a', ha, b', hb, h⟩ := h
    simp only [Expr.constant?, Known.andThen_eq_some, Known.insist_eq_some] at hw
    obtain ⟨v, hv, c, hc, hw⟩ := hw
    refine .settle h (.both (foreseen_fold himpartial.1 ⟨v, hv⟩ ha) fun u hu hu' => ?_)
    obtain rfl := truth_eq_of_eases (eases_of_fold himpartial.1 ha hu hv) hu' hc
    exact foreseen_fold himpartial.2 ⟨w, by simpa using hw⟩ hb
  | either a b =>
    simp only [Expr.uses, impartial_append] at himpartial
    simp only [Expr.fold, bind_eq_ok_iff] at h
    obtain ⟨a', ha, b', hb, h⟩ := h
    simp only [Expr.constant?, Known.andThen_eq_some, Known.insist_eq_some] at hw
    obtain ⟨v, hv, c, hc, hw⟩ := hw
    refine .settle h (.either (foreseen_fold himpartial.1 ⟨v, hv⟩ ha) fun u hu hu' => ?_)
    obtain rfl := truth_eq_of_eases (eases_of_fold himpartial.1 ha hu hv) hu' hc
    exact foreseen_fold himpartial.2 ⟨w, by simpa using hw⟩ hb
  | chain first rest =>
    simp only [Expr.uses, impartial_append] at himpartial
    simp only [Expr.fold, bind_eq_ok_iff] at h
    obtain ⟨first', hfirst, rest', hrest, h⟩ := h
    simp only [Expr.constant?, Known.andThen_eq_some, Known.orLater_eq_some] at hw
    obtain ⟨v, hv, hw⟩ := hw
    refine .settle h (.chain (foreseen_fold himpartial.1 ⟨v, hv⟩ hfirst) fun u hu => ?_)
    exact foreseen_foldRelated himpartial.2 (eases_of_fold himpartial.1 hfirst hu hv) hw hrest
  | choice line condition value otherwise =>
    simp only [Expr.uses, impartial_append] at himpartial
    simp only [Expr.fold, bind_eq_ok_iff] at h
    obtain ⟨condition', hcondition, value', hvalue, otherwise', hotherwise, h⟩ := h
    obtain ⟨v, hv, c, hc, hvalue_known, hotherwise_known⟩ := isKnown_of_choice hw
    have hforeseen := fun hknown => foreseen_foldOption himpartial.2 hknown hotherwise
    refine .settle h (.choice (foreseen_fold himpartial.1.1 ⟨v, hv⟩ hcondition) (fun u hu hu' => ?_) fun u hu hu' => ?_)
    · obtain rfl := truth_eq_of_eases (eases_of_fold himpartial.1.1 hcondition hu hv) hu' hc
      exact foreseen_fold himpartial.1.2 (hvalue_known rfl) hvalue
    · obtain rfl := truth_eq_of_eases (eases_of_fold himpartial.1.1 hcondition hu hv) hu' hc
      obtain ⟨e, rfl, he⟩ := hotherwise_known rfl
      obtain ⟨e', he', rfl⟩ := foldOption_some hotherwise
      exact ⟨e', rfl, hforeseen (by simpa using he) e' rfl⟩
  | property e n =>
    simp only [Expr.fold, bind_eq_ok_iff] at h
    obtain ⟨e', he, h⟩ := h
    simp only [Expr.constant?, Known.andThen_eq_some, Known.orLater_eq_some] at hw
    obtain ⟨v, hv, -⟩ := hw
    exact .settle h (.property (foreseen_fold himpartial.tail ⟨v, hv⟩ he) n)
  | item e i =>
    simp only [Expr.uses, impartial_append] at himpartial
    simp only [Expr.fold, bind_eq_ok_iff] at h
    obtain ⟨e', he, i', hi, h⟩ := h
    by_cases hslice : i.form = .slice
    · cases i with
      | slice a b c =>
        simp only [Expr.uses, impartial_append] at himpartial
        simp only [Expr.fold, bind_eq_ok_iff, pure_eq_ok, Except.ok.injEq] at hi
        obtain ⟨a', ha, b', hb, c', hc, rfl⟩ := hi
        simp only [Expr.constant?, Known.andThen_eq_some, Known.orLater_eq_some] at hw
        obtain ⟨v, hv, x, hx, y, hy, z, hz, -⟩ := hw
        refine .settle h (.slice (foreseen_fold himpartial.1 ⟨v, hv⟩ he) ?_ ?_ ?_)
        · exact foreseen_foldOption himpartial.2.1.1 (isKnown_of_constantOption? hx) ha
        · exact foreseen_foldOption himpartial.2.1.2 (isKnown_of_constantOption? hy) hb
        · exact foreseen_foldOption himpartial.2.2 (isKnown_of_constantOption? hz) hc
      | _ => cases hslice
    · rw [constant?_item hslice] at hw
      simp only [Known.andThen_eq_some, Known.orLater_eq_some] at hw
      obtain ⟨v, hv, w, hw, -⟩ := hw
      refine .settle h (.item (foreseen_fold himpartial.1 ⟨v, hv⟩ he) ?_ (form_ne_of_fold hi hslice nofun))
      exact foreseen_fold himpartial.2 ⟨w, hw⟩ hi
  | ask asked target name args named rest namedRest =>
    simp only [Expr.uses, impartial_cons, impartial_append] at himpartial
    obtain ⟨-, -, ⟨⟨⟨htarget, hargs⟩, hnamed⟩, hrest⟩, hnamedRest⟩ := himpartial
    simp only [Expr.fold, bind_eq_ok_iff] at h
    obtain ⟨target', ftarget, args', fargs, named', fnamed, rest', frest, namedRest', fnamedRest, h⟩ := h
    have hforeseen := fun hknown => foreseen_foldOption htarget hknown ftarget
    cases target with
    | none => simp [Expr.constant?] at hw
    | some e =>
      obtain ⟨e', he', rfl⟩ := foldOption_some ftarget
      simp only [Expr.constant?] at hw
      split at hw
      · cases hw
      simp only [Known.andThen_eq_some] at hw
      obtain ⟨vs, hvs, ns, hns, ws, hws, ms, hms, v, hv, -⟩ := hw
      refine .settle h (.ask (hforeseen (by simpa using ⟨v, hv⟩) e' rfl) ?_ ?_ ?_ ?_)
      · exact foreseen_foldAll hargs (isKnown_of_constants? hvs) fargs
      · exact foreseen_foldNamed hnamed (isKnown_of_constantNamed? hns) fnamed
      · exact foreseen_foldOption hrest (isKnown_of_constantRest? hws) frest
      · exact foreseen_foldOption hnamedRest (isKnown_of_constantNamedRest? hms) fnamedRest
termination_by structural e

theorem foreseen_foldAll {es es' : List Expr} (himpartial : Impartial (usesAll es)) (hknown : ∀ e ∈ es, e.IsKnown)
    (h : foldAll true es = .ok es') : ∀ e ∈ es', e.Foreseen := by
  cases es with
  | nil =>
    simp only [foldAll, Except.ok.injEq] at h
    subst h
    nofun
  | cons e es =>
    simp only [usesAll, impartial_append] at himpartial
    simp only [foldAll, bind_eq_ok_iff, pure_eq_ok, Except.ok.injEq] at h
    obtain ⟨e', he, es', hes, rfl⟩ := h
    obtain ⟨hknown_e, hknown_es⟩ := List.forall_mem_cons.1 hknown
    exact List.forall_mem_cons.2
      ⟨foreseen_fold himpartial.1 hknown_e he, foreseen_foldAll himpartial.2 hknown_es hes⟩
termination_by structural es

theorem foreseen_foldPairs {es es' : List (Expr × Expr)} (himpartial : Impartial (usesPairs es))
    (hknown : ∀ e ∈ es, e.1.IsKnown ∧ e.2.IsKnown) (h : foldPairs true es = .ok es') :
    ∀ e ∈ es', e.1.Foreseen ∧ e.2.Foreseen := by
  cases es with
  | nil =>
    simp only [foldPairs, Except.ok.injEq] at h
    subst h
    nofun
  | cons e es =>
    obtain ⟨a, b⟩ := e
    simp only [usesPairs, impartial_append] at himpartial
    simp only [foldPairs, bind_eq_ok_iff, pure_eq_ok, Except.ok.injEq] at h
    obtain ⟨a', ha, b', hb, es', hes, rfl⟩ := h
    obtain ⟨⟨hknown_a, hknown_b⟩, hknown_es⟩ := List.forall_mem_cons.1 hknown
    refine List.forall_mem_cons.2 ⟨⟨?_, ?_⟩, foreseen_foldPairs himpartial.2 hknown_es hes⟩
    · exact foreseen_fold himpartial.1.1 hknown_a ha
    · exact foreseen_fold himpartial.1.2 hknown_b hb
termination_by structural es

theorem foreseen_foldNamed {es es' : List (Text × Expr)} (himpartial : Impartial (usesNamed es))
    (hknown : ∀ e ∈ es, e.2.IsKnown) (h : foldNamed true es = .ok es') : ∀ e ∈ es', e.2.Foreseen := by
  cases es with
  | nil =>
    simp only [foldNamed, Except.ok.injEq] at h
    subst h
    nofun
  | cons e es =>
    obtain ⟨k, e⟩ := e
    simp only [usesNamed, impartial_append] at himpartial
    simp only [foldNamed, bind_eq_ok_iff, pure_eq_ok, Except.ok.injEq] at h
    obtain ⟨e', he, es', hes, rfl⟩ := h
    obtain ⟨hknown_e, hknown_es⟩ := List.forall_mem_cons.1 hknown
    exact List.forall_mem_cons.2
      ⟨foreseen_fold himpartial.1 hknown_e he, foreseen_foldNamed himpartial.2 hknown_es hes⟩
termination_by structural es

theorem foreseen_foldOption {e e' : Option Expr} (himpartial : Impartial (usesOption e))
    (hknown : ∀ a ∈ e, a.IsKnown) (h : foldOption true e = .ok e') : ∀ a ∈ e', a.Foreseen := by
  cases e with
  | none =>
    simp only [foldOption, Except.ok.injEq] at h
    subst h
    nofun
  | some e =>
    obtain ⟨e', he, rfl⟩ := foldOption_some h
    rintro _ ⟨⟩
    exact foreseen_fold himpartial (hknown e rfl) he
termination_by structural e

theorem foreseen_foldRelated {es es' : List (Relation × Expr)} (himpartial : Impartial (usesRelated es))
    {v w : Value} (hvw : Eases v w) {u : Value} (hu : constantChain? false w es = .ok (some u))
    (h : foldRelated true es = .ok es') : ChainForeseen v es' := by
  cases es with
  | nil =>
    simp only [foldRelated, Except.ok.injEq] at h
    exact h ▸ .nil v
  | cons e es =>
    obtain ⟨r, e⟩ := e
    simp only [usesRelated, impartial_append] at himpartial
    simp only [foldRelated, bind_eq_ok_iff, pure_eq_ok, Except.ok.injEq] at h
    obtain ⟨e', he, es', hes, rfl⟩ := h
    simp only [constantChain?, Known.andThen_eq_some, Known.attempt_eq_some] at hu
    obtain ⟨x, hx, c, hc, hu⟩ := hu
    refine .cons (foreseen_fold himpartial.1 ⟨x, hx⟩ he) fun y hy hholds => ?_
    have hyx := eases_of_fold himpartial.1 he hy hx
    obtain ⟨_, hc', rfl⟩ := follows_relate r hvw hyx true hholds
    rw [hc] at hc'
    cases hc'
    exact foreseen_foldRelated himpartial.2 hyx (by simpa using hu) hes
termination_by structural es

end

/-! ### Expressions that are ready for rendering -/

section
variable {strict soft : Bool}

mutual

/-- Getting an expression ready changes nothing in what is known of it. -/
theorem constant?_prepare {e e' : Expr} (h : e.prepare strict soft = .ok e') :
    e'.constant? strict = e.constant? strict := by
  cases e with
  | tuple items | list items =>
    simp only [Expr.prepare, bind_eq_ok_iff, pure_eq_ok, Except.ok.injEq] at h
    obtain ⟨items', hitems, rfl⟩ := h
    simp only [Expr.constant?, constants?_prepare hitems]
  | mapping pairs =>
    simp only [Expr.prepare, bind_eq_ok_iff, pure_eq_ok, Except.ok.injEq] at h
    obtain ⟨pairs', hpairs, rfl⟩ := h
    simp only [Expr.constant?, constantPairs?_prepare hpairs]
  | _ =>
    simp only [Expr.prepare, bind_eq_ok_iff, pure_eq_ok, Except.ok.injEq] at h
    obtain ⟨e', he, _, -, rfl⟩ := h
    exact constant?_fold he
termination_by structural e

theorem constants?_prepare {es es' : List Expr} (h : prepareExprs strict soft es = .ok es') :
    constants? strict es' = constants? strict es := by
  cases es with
  | nil =>
    simp only [prepareExprs, Except.ok.injEq] at h
    rw [h]
  | cons e es =>
    simp only [prepareExprs, bind_eq_ok_iff, pure_eq_ok, Except.ok.injEq] at h
    obtain ⟨e', he, es', hes, rfl⟩ := h
    simp only [constants?, constant?_prepare he, constants?_prepare hes]
termination_by structural es

theorem constantPairs?_prepare {es es' : List (Expr × Expr)} (h : preparePairs strict soft es = .ok es') :
    constantPairs? strict es' = constantPairs? strict es := by
  cases es with
  | nil =>
    simp only [preparePairs, Except.ok.injEq] at h
    rw [h]
  | cons e es =>
    obtain ⟨a, b⟩ := e
    simp only [preparePairs, bind_eq_ok_iff, pure_eq_ok, Except.ok.injEq] at h
    obtain ⟨a', ha, b', hb, es', hes, rfl⟩ := h
    simp only [constantPairs?, constant?_prepare ha, constant?_prepare hb, constantPairs?_prepare hes]
termination_by structural es

end

mutual

/-- An impartial expression that is known under the lenient policy is foreseen when it is ready under the strict one. -/
theorem foreseen_prepare {e e' : Expr} (himpartial : Impartial e.uses) (hknown : e.IsKnown)
    (h : e.prepare true soft = .ok e') : e'.Foreseen := by
  cases e with
  | tuple items =>
    simp only [Expr.prepare, bind_eq_ok_iff, pure_eq_ok, Except.ok.injEq] at h
    obtain ⟨items', hitems, rfl⟩ := h
    obtain ⟨w, hw⟩ := hknown
    simp only [Expr.constant?, Known.andThen_eq_some] at hw
    obtain ⟨ws, hws, -⟩ := hw
    exact .tuple (foreseen_prepareExprs himpartial.tail (isKnown_of_constants? hws) hitems)
  | list items =>
    simp only [Expr.prepare, bind_eq_ok_iff, pure_eq_ok, Except.ok.injEq] at h
    obtain ⟨items', hitems, rfl⟩ := h
    obtain ⟨w, hw⟩ := hknown
    simp only [Expr.constant?, Known.andThen_eq_some] at hw
    obtain ⟨ws, hws, -⟩ := hw
    exact .list (foreseen_prepareExprs himpartial (isKnown_of_constants? hws) hitems)
  | mapping pairs =>
    simp only [Expr.prepare, bind_eq_ok_iff, pure_eq_ok, Except.ok.injEq] at h
    obtain ⟨pairs', hpairs, rfl⟩ := h
    obtain ⟨w, hw⟩ := hknown
    simp only [Expr.constant?, Known.andThen_eq_some] at hw
    obtain ⟨ws, hws, -⟩ := hw
    exact .mapping (foreseen_preparePairs himpartial (isKnown_of_constantPairs? hws) hpairs)
  | _ =>
    simp only [Expr.prepare, bind_eq_ok_iff, pure_eq_ok, Except.ok.injEq] at h
    obtain ⟨e', he, _, -, rfl⟩ := h
    exact foreseen_fold himpartial hknown he
termination_by structural e

theorem foreseen_prepareExprs {es es' : List Expr} (himpartial : Impartial (usesAll es))
    (hknown : ∀ e ∈ es, e.IsKnown) (h : prepareExprs true soft es = .ok es') : ∀ e ∈ es', e.Foreseen := by
  cases es with
  | nil =>
    simp only [prepareExprs, Except.ok.injEq] at h
    subst h
    nofun
  | cons e es =>
    simp only [usesAll, impartial_append] at himpartial
    simp only [prepareExprs, bind_eq_ok_iff, pure_eq_ok, Except.ok.injEq] at h
    obtain ⟨e', he, es', hes, rfl⟩ := h
    obtain ⟨hknown_e, hknown_es⟩ := List.forall_mem_cons.1 hknown
    exact List.forall_mem_cons.2
      ⟨foreseen_prepare himpartial.1 hknown_e he, foreseen_prepareExprs himpartial.2 hknown_es hes⟩
termination_by structural es

theorem foreseen_preparePairs {es es' : List (Expr × Expr)} (himpartial : Impartial (usesPairs es))
    (hknown : ∀ e ∈ es, e.1.IsKnown ∧ e.2.IsKnown) (h : preparePairs true soft es = .ok es') :
    ∀ e ∈ es', e.1.Foreseen ∧ e.2.Foreseen := by
  cases es with
  | nil =>
    simp only [preparePairs, Except.ok.injEq] at h
    subst h
    nofun
  | cons e es =>
    obtain ⟨a, b⟩ := e
    simp only [usesPairs, impartial_append] at himpartial
    simp only [preparePairs, bind_eq_ok_iff, pure_eq_ok, Except.ok.injEq] at h
    obtain ⟨a', ha, b', hb, es', hes, rfl⟩ := h
    obtain ⟨⟨hknown_a, hknown_b⟩, hknown_es⟩ := List.forall_mem_cons.1 hknown
    refine List.forall_mem_cons.2 ⟨⟨?_, ?_⟩, foreseen_preparePairs himpartial.2 hknown_es hes⟩
    · exact foreseen_prepare himpartial.1.1 hknown_a ha
    · exact foreseen_prepare himpartial.1.2 hknown_b hb
termination_by structural es

end

end

end Rulebook.Template
