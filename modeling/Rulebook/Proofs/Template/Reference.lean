import Rulebook.Proofs.Outcome
import Rulebook.Proofs.Template.PlainName
import Rulebook.Proofs.Text.Order
import Rulebook.Template.Reader

/-!
# Reading a reference

The placeholder of a plain name is read as that name, and that of a path as the properties of that name one after the
other: at each level of binding strength the reader finds the end of the placeholder ahead and goes no further.
-/

namespace Rulebook.Template

/-! ### The token ahead -/

section ahead
variable {s : ReadState} {p : Placed} {rest : List Placed} (h : s.tokens = p :: rest)
include h

theorem run_peek : peek.run s = .ok (p.token, s) := by
  simp [peek, h]

theorem run_peekLine : peekLine.run s = .ok (p.line, s) := by
  simp [peekLine, h]

theorem run_aheadSymbol (sym : Symbol) : (aheadSymbol sym).run s = .ok (p.token == .symbol sym, s) := by
  simp [aheadSymbol, run_peek h]

theorem run_acceptSymbol (sym : Symbol) (hp : p.token ≠ .symbol sym) : (acceptSymbol sym).run s = .ok (false, s) := by
  simp [acceptSymbol, run_aheadSymbol h, hp]

theorem run_acceptName (n : String) (hp : p.token.isName n = false) : (acceptName n).run s = .ok (false, s) := by
  simp [acceptName, aheadName, run_peek h, hp]

end ahead

theorem run_advance {s : ReadState} {p q : Placed} {rest : List Placed} (h : s.tokens = p :: q :: rest) :
    advance.run s = .ok ((), { s with tokens := q :: rest }) := by
  simp [advance, h]

/-! ### In front of the end of a placeholder nothing more is read -/

section closing
variable {s : ReadState} {l fuel : Nat} {rest : List Placed} (h : s.tokens = ⟨.variableEnd, l⟩ :: rest)
  (hfuel : 0 < fuel)
include h hfuel

theorem run_readPostfix (e : Expr) : (readPostfix fuel e).run s = .ok (e, s) := by
  obtain ⟨k, rfl⟩ := Nat.exists_eq_add_one.2 hfuel
  simp [readPostfix, run_peek h]

theorem run_readAsked (e : Expr) : (readAsked fuel e).run s = .ok (e, s) := by
  obtain ⟨k, rfl⟩ := Nat.exists_eq_add_one.2 hfuel
  simp [readAsked, run_peek h, Token.isName]

theorem run_readRelations : (readRelations fuel []).run s = .ok ([], s) := by
  obtain ⟨k, rfl⟩ := Nat.exists_eq_add_one.2 hfuel
  simp [readRelations, run_peek h, Token.isName, relationOf]

theorem run_readJoined (done : List Expr) : (readJoined fuel done).run s = .ok (done.reverse, s) := by
  obtain ⟨k, rfl⟩ := Nat.exists_eq_add_one.2 hfuel
  simp [readJoined, run_acceptSymbol h]

theorem run_readLeft (level : Nat) (e : Expr) : (readLeft fuel level e).run s = .ok (e, s) := by
  obtain ⟨k, rfl⟩ := Nat.exists_eq_add_one.2 hfuel
  simp [readLeft, run_peek h, Token.isName, arithAt]

theorem run_readChoices (line : Nat) (e : Expr) : (readChoices fuel line e).run s = .ok (e, s) := by
  obtain ⟨k, rfl⟩ := Nat.exists_eq_add_one.2 hfuel
  simp [readChoices, run_acceptName h "if" rfl]

end closing

/-! ### From the tightest level to the loosest -/

section levels
variable {s s' : ReadState} {p : Placed} {e : Expr} {l fuel : Nat} {ahead rest : List Placed}

theorem run_readLevel_left {level : Nat} (hlevel : level ∈ [1, 2, 5, 7, 8]) (hfuel : 0 < fuel)
    (hs' : s'.tokens = ⟨.variableEnd, l⟩ :: rest) (h : (readLevel fuel (level + 1)).run s = .ok (e, s')) :
    (readLevel (fuel + 1) level).run s = .ok (e, s') := by
  simp only [List.mem_cons, List.not_mem_nil, or_false] at hlevel
  rcases hlevel with rfl | rfl | rfl | rfl | rfl <;> simp [readLevel, h, run_readLeft hs' hfuel]

theorem run_readLevel_joined (hfuel : 0 < fuel) (hs' : s'.tokens = ⟨.variableEnd, l⟩ :: rest)
    (h : (readLevel fuel 7).run s = .ok (e, s')) : (readLevel (fuel + 1) 6).run s = .ok (e, s') := by
  simp [readLevel, h, run_readJoined hs' hfuel]

theorem run_readLevel_related (hfuel : 0 < fuel) (hs' : s'.tokens = ⟨.variableEnd, l⟩ :: rest)
    (h : (readLevel fuel 5).run s = .ok (e, s')) : (readLevel (fuel + 1) 4).run s = .ok (e, s') := by
  simp [readLevel, h, run_readRelations hs' hfuel]

theorem run_readLevel_not (hs : s.tokens = p :: ahead) (hp : p.token.isName "not" = false)
    (h : (readLevel fuel 4).run s = .ok (e, s')) : (readLevel (fuel + 1) 3).run s = .ok (e, s') := by
  simp [readLevel, run_acceptName hs _ hp, h]

theorem run_readLevel_choice (hs : s.tokens = p :: ahead) (hfuel : 0 < fuel)
    (hs' : s'.tokens = ⟨.variableEnd, l⟩ :: rest) (h : (readLevel fuel 1).run s = .ok (e, s')) :
    (readLevel (fuel + 1) 0).run s = .ok (e, s') := by
  simp [readLevel, run_peekLine hs, h, run_readChoices hs' hfuel]

/-- An expression that binds tightest and stands alone in its placeholder is one at every level. -/
theorem run_readLevel (hs : s.tokens = p :: ahead) (hp : p.token.isName "not" = false) (hfuel : 0 < fuel)
    (hs' : s'.tokens = ⟨.variableEnd, l⟩ :: rest) (h : (readLevel fuel 9).run s = .ok (e, s')) :
    (readLevel (fuel + 9) 0).run s = .ok (e, s') := by
  have h8 := run_readLevel_left (by decide) hfuel hs' h
  have h7 := run_readLevel_left (by decide) (by omega) hs' h8
  have h6 := run_readLevel_joined (by omega) hs' h7
  have h5 := run_readLevel_left (by decide) (by omega) hs' h6
  have h4 := run_readLevel_related (by omega) hs' h5
  have h3 := run_readLevel_not hs hp h4
  have h2 := run_readLevel_left (by decide) (by omega) hs' h3
  have h1 := run_readLevel_left (by decide) (by omega) hs' h2
  exact run_readLevel_choice hs (by omega) hs' h1

end levels

/-- An expression that binds tightest and stands alone in its placeholder is no tuple. -/
theorem run_readTuple {s s' : ReadState} {p : Placed} {e : Expr} {l fuel : Nat} {ahead rest : List Placed}
    (hs : s.tokens = p :: ahead) (hp : p.token.isName "not" = false) (hends : endsTuple p.token = false)
    (hfuel : 0 < fuel) (hs' : s'.tokens = ⟨.variableEnd, l⟩ :: rest) (h : (readLevel fuel 9).run s = .ok (e, s')) :
    (readTuple (fuel + 11) .full false []).run s = .ok (e, s') := by
  have h0 := run_readLevel hs hp hfuel hs' h
  have hitems : (readTupleItems (fuel + 10) .full [] [] false).run s = .ok (([e], false), s') := by
    simp [readTupleItems, run_peek hs, hends, h0, run_aheadSymbol hs']
  simp [readTuple, hitems]

/-! ### A path -/

/-- A name, and properties by further names one after the other. -/
def dottedExpr (n : Text) (ns : List Text) : Expr := ns.foldl .property (.name n)

@[simp] theorem dottedExpr_nil (n : Text) : dottedExpr n [] = .name n := rfl

theorem dottedExpr_append (n : Text) (ns : List Text) (m : Text) :
    dottedExpr n (ns ++ [m]) = .property (dottedExpr n ns) m := by
  rw [dottedExpr, List.foldl_append]
  rfl

section name
variable {n : Text} (hn : PlainName n)
include hn

theorem PlainName.same_reserved {w : Text} (hw : w ∈ reservedWords) : Text.same n w = false := by
  rw [Bool.eq_false_iff, ne_eq, Text.same_iff]
  rintro rfl
  exact hn.free hw

theorem PlainName.constantName?_eq_none : constantName? n = none := by
  have hne : ∀ w ∈ reservedWords, Text.same n w = false := fun w hw => hn.same_reserved hw
  simp only [reservedWords, List.forall_mem_cons] at hne
  simp [constantName?, hne]

theorem run_readPrimary_name {s : ReadState} {l : Nat} {q : Placed} {rest : List Placed}
    (hs : s.tokens = ⟨.name n, l⟩ :: q :: rest) (fuel : Nat) :
    (readPrimary (fuel + 1) false).run s = .ok (.name n, { s with tokens := q :: rest }) := by
  have hend : ({ s with tokens := q :: rest } : ReadState).tokens = q :: rest := rfl
  simp [readPrimary, run_peek hs, run_advance hs, hn.constantName?_eq_none, run_aheadSymbol hend]

end name

/-- Names with dots before them are properties of what they stand behind. -/
theorem run_readPostfix_dotted {s : ReadState} {l : Nat} {ns : List Text} {rest : List Placed}
    (hs : s.tokens = dotTokens l ns ++ ⟨.variableEnd, l⟩ :: rest) {fuel : Nat} (hfuel : ns.length < fuel) (e : Expr) :
    (readPostfix fuel e).run s = .ok (ns.foldl .property e, { s with tokens := ⟨.variableEnd, l⟩ :: rest }) := by
  induction ns generalizing s fuel e with
  | nil =>
    obtain ⟨tokens, offence, lastLine, tags, ends⟩ := s
    obtain rfl : tokens = ⟨.variableEnd, l⟩ :: rest := hs
    exact run_readPostfix rfl hfuel e
  | cons m ns ih =>
    obtain ⟨k, rfl⟩ := Nat.exists_eq_add_one.2 (Nat.zero_lt_of_lt hfuel)
    have hlength : ns.length < k := by simpa using hfuel
    rw [dotTokens_cons, List.cons_append, List.cons_append] at hs
    have hname : ({ s with tokens := ⟨.name m, l⟩ :: (dotTokens l ns ++ ⟨.variableEnd, l⟩ :: rest) } : ReadState).tokens =
      ⟨.name m, l⟩ :: (dotTokens l ns ++ ⟨.variableEnd, l⟩ :: rest) := rfl
    have hbehind : advance.run { s with tokens := ⟨.name m, l⟩ :: (dotTokens l ns ++ ⟨.variableEnd, l⟩ :: rest) } =
        .ok ((), { s with tokens := dotTokens l ns ++ ⟨.variableEnd, l⟩ :: rest }) := by
      cases ns with
      | nil => exact run_advance hname
      | cons m' ns => exact run_advance hname
    have hrest := ih (s := { s with tokens := dotTokens l ns ++ ⟨.variableEnd, l⟩ :: rest }) rfl hlength (.property e m)
    simp [readPostfix, run_peek hs, run_advance hs, run_peek hname, hbehind, hrest]

section path
variable {n : Text} (hn : PlainName n) {s : ReadState} {l : Nat} {ns : List Text} {rest : List Placed}
  (hs : s.tokens = ⟨.name n, l⟩ :: (dotTokens l ns ++ ⟨.variableEnd, l⟩ :: rest))
include hn hs

theorem run_readLevel_path {fuel : Nat} (hfuel : ns.length + 3 ≤ fuel) :
    (readLevel fuel 9).run s = .ok (dottedExpr n ns, { s with tokens := ⟨.variableEnd, l⟩ :: rest }) := by
  obtain ⟨k, rfl⟩ := Nat.exists_eq_add_of_le' (Nat.le_trans (Nat.le_add_left 3 ns.length) hfuel)
  have hend : ({ s with tokens := ⟨.variableEnd, l⟩ :: rest } : ReadState).tokens = ⟨.variableEnd, l⟩ :: rest := rfl
  have hprimary : (readPrimary (k + 1) false).run s =
      .ok (.name n, { s with tokens := dotTokens l ns ++ ⟨.variableEnd, l⟩ :: rest }) := by
    cases ns with
    | nil => exact run_readPrimary_name hn hs k
    | cons m ns => exact run_readPrimary_name hn hs k
  have hpostfix := run_readPostfix_dotted (s := { s with tokens := dotTokens l ns ++ ⟨.variableEnd, l⟩ :: rest }) rfl
    (show ns.length < k + 1 by omega) (.name n)
  simp [readLevel, readSigned, run_acceptSymbol hs, hprimary, hpostfix, run_readAsked hend, dottedExpr]

/-- A path that stands alone in its placeholder is read as itself. -/
theorem run_readTupleExpr_path :
    (readTupleExpr .full []).run s = .ok (dottedExpr n ns, { s with tokens := ⟨.variableEnd, l⟩ :: rest }) := by
  have hallowance : allowance.run s = .ok (24 * s.tokens.length + 48, s) := by simp [allowance]
  have hlength : ns.length ≤ s.tokens.length := by
    rw [hs, List.length_cons, List.length_append, length_dotTokens]
    omega
  have hfuel : 24 * s.tokens.length + 48 = 24 * s.tokens.length + 37 + 11 := by omega
  have h9 := run_readLevel_path hn hs (show ns.length + 3 ≤ 24 * s.tokens.length + 37 by omega)
  rw [readTupleExpr, StateT.run_bind, hallowance, hfuel]
  exact run_readTuple hs (hn.same_reserved (by simp [reservedWords])) rfl (by omega) rfl h9

end path

/-! ### Pieces of output -/

theorem run_readBody_placeholder {n : Text} (hn : PlainName n) (ns : List Text) (rest : List Placed) {s : ReadState} {l : Nat}
    (hs : s.tokens = ⟨.variableBegin, l⟩ :: ⟨.name n, l⟩ :: (dotTokens l ns ++ ⟨.variableEnd, l⟩ :: rest))
    (hoffence : s.offence = none) (fuel : Nat) (ends : Option (List Text)) (pieces : List Piece) (body : List Stmt) :
    (readBody (fuel + 1) ends pieces body).run s =
      (readBody fuel ends (.expr (dottedExpr n ns) :: pieces) body).run { s with tokens := rest } := by
  have hpath : ({ s with tokens := ⟨.name n, l⟩ :: (dotTokens l ns ++ ⟨.variableEnd, l⟩ :: rest) } : ReadState).tokens =
    ⟨.name n, l⟩ :: (dotTokens l ns ++ ⟨.variableEnd, l⟩ :: rest) := rfl
  have hend : ({ s with tokens := ⟨.variableEnd, l⟩ :: rest } : ReadState).tokens = ⟨.variableEnd, l⟩ :: rest := rfl
  have hclose : (expectEnd .variableEnd).run { s with tokens := ⟨.variableEnd, l⟩ :: rest } =
      .ok ((), { s with tokens := rest }) := by
    rw [expectEnd, StateT.run_bind, run_peek hend]
    cases rest <;> simp [advance, hoffence]
  simp [readBody, run_peek hs, run_advance hs, run_readTupleExpr_path hn hpath, hclose]

theorem run_readBody_data {d : Text} {s : ReadState} {l : Nat} {rest : List Placed}
    (hs : s.tokens = ⟨.data d, l⟩ :: rest) (hoffence : s.offence = none) (fuel : Nat) (ends : Option (List Text))
    (pieces : List Piece) (body : List Stmt) :
    (readBody (fuel + 1) ends pieces body).run s =
      (readBody fuel ends (.data d :: pieces) body).run { s with tokens := rest } := by
  have hadvance : advance.run s = .ok ((), { s with tokens := rest }) := by
    cases rest <;> simp [advance, hs, hoffence]
  simp [readBody, run_peek hs, hadvance]

theorem run_readBody_stop {s : ReadState} (hs : s.tokens = []) (fuel : Nat) (ends : Option (List Text))
    (pieces : List Piece) (body : List Stmt) :
    (readBody (fuel + 1) ends pieces body).run s = .ok ((flush pieces body).reverse, s) := by
  simp [readBody, peek, hs]

end Rulebook.Template
