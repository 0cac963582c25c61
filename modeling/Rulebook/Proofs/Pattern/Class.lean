import Rulebook.Pattern.Search
import Rulebook.Proofs.Outcome

/-!
# Classes of given characters

A text is taken literally in a pattern when each of its special characters stands behind a backslash. Between brackets such
a text is a class, and the class matches its own code points and no others: no member opens a range, closes the class or
negates it.
-/

namespace Rulebook.Pattern

/-- The characters that may mean something else than themselves in a pattern. -/
def specialSigns : Text := "()[]\x7b\x7d?*+-|^$\\.&~# \t\n\r\x0b\x0c"

/-- A code point as a pattern that stands for it. -/
def literalItem (c : CodePoint) : Text := if c ∈ specialSigns then [0x5c, c] else [c]

/-- A text as a pattern that stands for it. -/
def literal (t : Text) : Text := t.flatMap literalItem

/-- The class of the code points of a text, as a group. -/
def classOf (members : Text) : Text := "([" ++ literal members ++ "])"

/-! ### Items ahead -/

/-- What the reader takes at once: a character or a backslash with the character behind it. -/
def IsItem (item : Text) : Prop := (∃ c, c ≠ 0x5c ∧ item = [c]) ∨ ∃ c, item = [0x5c, c]

/-- The place between the items that the reader has passed and those ahead. -/
def placeBetween (passed ahead : List Text) : Cursor :=
  ⟨(passed ++ ahead).flatten.toArray, (passed.flatten ++ ahead.head?.getD []).length, ahead.head?⟩

theorem isItem_literalItem (c : CodePoint) : IsItem (literalItem c) := by
  unfold literalItem
  split
  · exact .inr ⟨c, rfl⟩
  · next h =>
    refine .inl ⟨c, ?_, rfl⟩
    rintro rfl
    exact h (by decide)

theorem load_placeBetween {c : Cursor} {passed ahead : List Text} (hitems : ∀ item ∈ ahead, IsItem item)
    (hchars : c.chars = (passed ++ ahead).flatten.toArray) (hposition : c.position = passed.flatten.length) :
    c.load = .ok (placeBetween passed ahead) := by
  obtain ⟨chars, position, next⟩ := c
  obtain rfl : chars = _ := hchars
  obtain rfl : position = _ := hposition
  unfold Cursor.load placeBetween
  cases ahead with
  | nil => simp
  | cons item ahead =>
    rcases hitems item List.mem_cons_self with ⟨d, hd, rfl⟩ | ⟨d, rfl⟩
    · simp
    · simp

section Run

variable {s : ReadState} {passed ahead : List Text} {item : Text}

/-- The state with the reader at a place between items. -/
def ReadState.between (s : ReadState) (passed ahead : List Text) : ReadState :=
  { s with cursor := placeBetween passed ahead }

theorem run_here_between : here.run (s.between passed ahead) = .ok (passed.flatten.length, s.between passed ahead) := by
  have hhere : (placeBetween passed ahead).here = passed.flatten.length := by
    rw [Cursor.here, placeBetween, List.length_append, Nat.add_sub_cancel]
  rw [← hhere]
  rfl

theorem run_allowance_between :
    allowance.run (s.between passed ahead) = .ok ((passed ++ ahead).flatten.length + 2, s.between passed ahead) := rfl

theorem run_peek_between : peek.run (s.between passed ahead) = .ok (ahead.head?, s.between passed ahead) := rfl

theorem run_advance_between (h : ∀ i ∈ ahead, IsItem i) :
    advance.run (s.between passed (item :: ahead)) = .ok ((), s.between (passed ++ [item]) ahead) := by
  have hload : (placeBetween passed (item :: ahead)).load = .ok (placeBetween (passed ++ [item]) ahead) :=
    load_placeBetween h (by simp [placeBetween]) (by simp [placeBetween])
  unfold advance
  simp [StateT.run_bind, ReadState.between, hload]

theorem run_take_between (h : ∀ i ∈ ahead, IsItem i) :
    take.run (s.between passed (item :: ahead)) = .ok (some item, s.between (passed ++ [item]) ahead) := by
  unfold take
  rw [StateT.run_bind, run_peek_between, ok_bind, StateT.run_bind, run_advance_between h]
  rfl

theorem run_accept_self {c : CodePoint} (h : ∀ i ∈ ahead, IsItem i) :
    (accept c).run (s.between passed ([c] :: ahead)) = .ok (true, s.between (passed ++ [[c]]) ahead) := by
  unfold accept
  rw [StateT.run_bind, run_peek_between, ok_bind, List.head?_cons, if_pos (beq_self_eq_true _), StateT.run_bind,
    run_advance_between h]
  rfl

theorem run_accept_of_ne {c : CodePoint} (h : ahead.head? ≠ some [c]) :
    (accept c).run (s.between passed ahead) = .ok (false, s.between passed ahead) := by
  have hne : (ahead.head? == some [c]) = false := beq_eq_false_iff_ne.2 h
  unfold accept
  rw [StateT.run_bind, run_peek_between, ok_bind, hne]
  rfl

end Run

/-! ### The members of a class -/

section Members

variable {s : ReadState} {passed : List Text} {members : Text}

theorem forall_isItem_literal (members : Text) (more : List Text) (hmore : ∀ item ∈ more, IsItem item) :
    ∀ item ∈ members.map literalItem ++ more, IsItem item := by
  intro item h
  rcases List.mem_append.1 h with h | h
  · obtain ⟨c, -, rfl⟩ := List.mem_map.1 h
    exact isItem_literalItem c
  · exact hmore item h

theorem literalItem_ne {c d : CodePoint} (hd : d ∈ specialSigns) : literalItem c ≠ [d] := by
  unfold literalItem
  split
  · simp
  · next h =>
    rintro ⟨⟩
    exact h hd

theorem head?_literal_ne {d : CodePoint} (hd : d ∈ specialSigns) {more : List Text} (hmore : more.head? ≠ some [d]) :
    (members.map literalItem ++ more).head? ≠ some [d] := by
  cases members with
  | nil => exact hmore
  | cons c members => simpa using literalItem_ne hd

/-- A special character is no letter or digit, and no escape but of itself. -/
theorem special_cases : ∀ c ∈ specialSigns,
    (plainEscape? c = some c ∨ plainEscape? c = none) ∧ categoryEscape? c = none ∧
      (c ≠ Text.cp 'x' ∧ c ≠ Text.cp 'u' ∧ c ≠ Text.cp 'U' ∧ c ≠ Text.cp 'N') ∧
        Text.isOctalDigit c = false ∧ (Text.isAsciiDigit c || Text.isAsciiLetter c) = false := by
  decide

theorem run_readSetEscape_special {c : CodePoint} (h : c ∈ specialSigns) :
    (readSetEscape [0x5c, c] c).run s = .ok (.one c, s) := by
  obtain ⟨hplain, hcategory, ⟨hx, hu, hU, hN⟩, hoctal, hletter⟩ := special_cases c h
  unfold readSetEscape
  rcases hplain with hplain | hplain
  · rw [hplain]
    rfl
  · rw [hplain, hcategory]
    have hnumeric : (readNumericEscape? [0x5c, c] c).run s = .ok (none, s) := by
      unfold readNumericEscape?
      rw [if_neg hx, if_neg hu, if_neg hU, if_neg hN]
      rfl
    rw [StateT.run_bind, hnumeric, ok_bind, hoctal, hletter]
    rfl

theorem run_readSetItem_literal (c : CodePoint) : (readSetItem (literalItem c)).run s = .ok (.one c, s) := by
  unfold literalItem
  split
  · next h => exact run_readSetEscape_special h
  · unfold readSetItem
    split
    · next heq => cases heq
    · next heq =>
      cases heq
      rfl
    · next heq => cases heq

theorem run_readSetItems_literal {opening fuel : Nat} {done : List SetItem} {more : List Text}
    (hfuel : members.length < fuel) (hdone : done ≠ [] ∨ members ≠ []) (hmore : ∀ item ∈ more, IsItem item) :
    (readSetItems opening fuel done).run (s.between passed (members.map literalItem ++ [0x5d] :: more)) =
      .ok (done.reverse ++ members.map .one, s.between (passed ++ members.map literalItem ++ [[0x5d]]) more) := by
  -- a bracket or a hyphen of the text comes with its backslash, so the first bare bracket is the closing one
  have hclose : IsItem [0x5d] := .inl ⟨0x5d, by decide, rfl⟩
  induction members generalizing fuel done passed with
  | nil =>
    obtain ⟨fuel, rfl⟩ := Nat.exists_eq_succ_of_ne_zero (Nat.ne_of_gt hfuel)
    have hdone : done.isEmpty = false := by simpa using hdone
    rw [readSetItems, StateT.run_bind, List.map_nil, List.nil_append, run_take_between hmore, ok_bind]
    simp [hdone, pure_eq_ok]
  | cons c members ih =>
    obtain ⟨fuel, rfl⟩ := Nat.exists_eq_succ_of_ne_zero (Nat.ne_of_gt (Nat.zero_lt_of_lt hfuel))
    have hitems := forall_isItem_literal members ([0x5d] :: more) (List.forall_mem_cons.2 ⟨hclose, hmore⟩)
    have hbracket : (literalItem c == [0x5d]) = false := beq_eq_false_iff_ne.2 (literalItem_ne (by decide))
    have hrange : (members.map literalItem ++ [0x5d] :: more).head? ≠ some [0x2d] :=
      head?_literal_ne (by decide) (by simp)
    rw [readSetItems, StateT.run_bind, List.map_cons, List.cons_append, run_take_between hitems, ok_bind]
    simp only [hbracket, Bool.false_and, Bool.false_eq_true, ↓reduceIte]
    rw [StateT.run_bind, run_readSetItem_literal, ok_bind, StateT.run_bind, run_accept_of_ne hrange, ok_bind]
    simp only [Bool.false_eq_true, ↓reduceIte]
    rw [ih (by simpa using hfuel) (.inl (List.cons_ne_nil _ _))]
    simp

theorem mem_distinctItems {item : SetItem} {items : List SetItem} : item ∈ distinctItems items ↔ item ∈ items := by
  have hfold : ∀ seen : List SetItem,
      item ∈ items.foldl (fun seen i => if seen.contains i then seen else i :: seen) seen ↔
        item ∈ seen ∨ item ∈ items := by
    induction items with
    | nil => simp
    | cons i items ih =>
      intro seen
      rw [List.foldl_cons, ih]
      split
      · next h =>
        have hi : i ∈ seen := by simpa using h
        grind
      · grind
  rw [distinctItems, List.mem_reverse, hfold]
  simp

/-- The part of a pattern that a class of given characters is: a character for a class of one, else a set. -/
def classNode (members : Text) : Node :=
  match distinctItems (members.map .one) with
  | [.one c] => .one c
  | items => .set false items

theorem length_le_length_literal (members : Text) : members.length ≤ (literal members).length := by
  induction members with
  | nil => simp
  | cons c members ih =>
    have hc : 1 ≤ (literalItem c).length := by
      unfold literalItem
      split <;> simp
    rw [literal, List.flatMap_cons, List.length_append, List.length_cons]
    rw [literal] at ih
    omega

theorem classNode_cases (members : Text) :
    (∃ c, distinctItems (members.map .one) = [.one c] ∧ classNode members = .one c) ∨
      classNode members = .set false (distinctItems (members.map .one)) := by
  unfold classNode
  split
  · next c heq => exact .inl ⟨c, heq, rfl⟩
  · exact .inr rfl

theorem unpack_classNode (members : Text) : unpack [classNode members] = [classNode members] := by
  rcases classNode_cases members with ⟨c, -, h⟩ | h
  · rw [h]
    rfl
  · rw [h]
    rfl

theorem run_readSet_literal {more : List Text} (hmembers : members ≠ []) (hmore : ∀ item ∈ more, IsItem item) :
    readSet.run (s.between passed (members.map literalItem ++ [0x5d] :: more)) =
      .ok (classNode members, s.between (passed ++ members.map literalItem ++ [[0x5d]]) more) := by
  have hnegation : (members.map literalItem ++ [0x5d] :: more).head? ≠ some [0x5e] :=
    head?_literal_ne (by decide) (by simp)
  have hlength : members.length < (passed ++ (members.map literalItem ++ [0x5d] :: more)).flatten.length + 2 := by
    have hliteral := length_le_length_literal members
    rw [literal, List.flatMap_def] at hliteral
    rw [List.flatten_append, List.flatten_append, List.length_append, List.length_append]
    omega
  unfold readSet
  rw [StateT.run_bind, run_here_between, ok_bind, StateT.run_bind, run_accept_of_ne hnegation, ok_bind,
    StateT.run_bind, run_allowance_between, ok_bind, StateT.run_bind,
    run_readSetItems_literal hlength (.inr hmembers) hmore, ok_bind]
  unfold classNode
  dsimp only [List.reverse_nil, List.nil_append]
  generalize distinctItems (members.map SetItem.one) = items
  rcases items with _ | ⟨item, _ | ⟨_, _⟩⟩
  · rfl
  · cases item <;> rfl
  · cases item <;> rfl

end Members

/-! ### The class as a group -/

section Group

variable {s : ReadState} {passed ahead : List Text} {fuel : Nat} {verbose first : Bool} {done : List Node}

theorem run_readSequence_end (h : ahead.head? = none ∨ ahead.head? = some [0x29]) :
    (readSequence (fuel + 1) verbose first done).run (s.between passed ahead) =
      .ok (unpack done.reverse, s.between passed ahead) := by
  rw [readSequence, StateT.run_bind, run_peek_between, ok_bind]
  rcases h with h | h
  · rw [h]
    rfl
  · rw [h]
    rfl

theorem run_readAlternatives_one {top : Bool} {body : List Node} (h : ahead.head? ≠ some [0x7c]) :
    (readAlternatives (fuel + 1) verbose top [body]).run (s.between passed ahead) =
      .ok (body, s.between passed ahead) := by
  rw [readAlternatives, StateT.run_bind, run_accept_of_ne h, ok_bind]
  rfl

theorem run_closeAt {opening : Nat} (h : ∀ item ∈ ahead, IsItem item) :
    (closeAt opening).run (s.between passed ([0x29] :: ahead)) = .ok ((), s.between (passed ++ [[0x29]]) ahead) := by
  unfold closeAt
  rw [StateT.run_bind, run_accept_self h, ok_bind]
  rfl

variable {members : Text}

/-- The class between its brackets, up to the parenthesis behind it. -/
theorem run_readChoice_class (hmembers : members ≠ []) :
    (readChoice (fuel + 3) false false).run
        (s.between passed ([0x5b] :: (members.map literalItem ++ [0x5d] :: [[0x29]]))) =
      .ok ([classNode members], s.between (passed ++ [[0x5b]] ++ members.map literalItem ++ [[0x5d]]) [[0x29]]) := by
  have hmore : ∀ item ∈ [[0x29]], IsItem item := by simp [IsItem]
  have hitems := forall_isItem_literal members ([0x5d] :: [[0x29]]) (by simp [IsItem])
  have hsequence : (readSequence (fuel + 2) false false []).run
      (s.between passed ([0x5b] :: (members.map literalItem ++ [0x5d] :: [[0x29]]))) =
        .ok ([classNode members], s.between (passed ++ [[0x5b]] ++ members.map literalItem ++ [[0x5d]]) [[0x29]]) := by
    rw [readSequence, StateT.run_bind, run_peek_between, ok_bind]
    show (advance >>= fun _ => readSet >>= fun node => readSequence (fuel + 1) false false [node]).run _ = _
    rw [StateT.run_bind, run_advance_between hitems, ok_bind, StateT.run_bind, run_readSet_literal hmembers hmore,
      ok_bind, run_readSequence_end (.inr rfl), List.reverse_singleton, unpack_classNode]
  rw [readChoice, StateT.run_bind, hsequence, ok_bind, run_readAlternatives_one (by simp)]

theorem classOf_eq_flatten (members : Text) :
    classOf members = ([0x28] :: [0x5b] :: (members.map literalItem ++ [0x5d] :: [[0x29]])).flatten := by
  simp [classOf, literal, List.flatMap_def, Text.ofString]

/-- What is known behind the class: its group has a width. -/
def ReadState.withClass (s : ReadState) (members : Text) : ReadState :=
  { s with groups := #[none, some (bodyWidth #[none, none] [classNode members]).capped] }

/-- The class in the first group, up to the end of the pattern. -/
theorem run_readSequence_classOf (hmembers : members ≠ []) (hgroups : s.groups = #[none]) :
    (readSequence (fuel + 4) false true []).run
        (s.between [] ([0x28] :: [0x5b] :: (members.map literalItem ++ [0x5d] :: [[0x29]]))) =
      .ok ([.group (some 1) Flags.none Flags.none [classNode members]],
        (s.withClass members).between ([[0x28], [0x5b]] ++ members.map literalItem ++ [[0x5d], [0x29]]) []) := by
  have hitems := forall_isItem_literal members ([0x5d] :: [[0x29]]) (by simp [IsItem])
  have hitems' : ∀ item ∈ [0x5b] :: (members.map literalItem ++ [0x5d] :: [[0x29]]), IsItem item :=
    List.forall_mem_cons.2 ⟨.inl ⟨0x5b, by decide, rfl⟩, hitems⟩
  have hopen : (openGroup none).run (s.between [[0x28]] ([0x5b] :: (members.map literalItem ++ [0x5d] :: [[0x29]]))) =
      .ok (1, ReadState.between { s with groups := #[none, none] } [[0x28]]
        ([0x5b] :: (members.map literalItem ++ [0x5d] :: [[0x29]]))) := by
    obtain ⟨cursor, flags, _, names, behind, conditions⟩ := s
    obtain rfl := hgroups
    rfl
  have hclose : ∀ passed ahead, (closeGroup 1 [classNode members]).run
      (ReadState.between { s with groups := #[none, none] } passed ahead) =
        .ok ((), (s.withClass members).between passed ahead) := fun _ _ => rfl
  rw [readSequence, StateT.run_bind, run_peek_between, ok_bind]
  show (advance >>= fun _ => here >>= fun n => accept 0x3f >>= fun b => _).run _ = _
  rw [StateT.run_bind, run_advance_between hitems', ok_bind, StateT.run_bind, run_here_between, ok_bind,
    StateT.run_bind, run_accept_of_ne (by simp), ok_bind]
  show (openGroup none >>= fun group => readChoice (fuel + 3) false false >>= fun body =>
    closeAt 0 >>= fun _ => closeGroup group body >>= fun _ =>
      readSequence (fuel + 3) false true [.group (some group) Flags.none Flags.none body]).run _ = _
  rw [StateT.run_bind, List.nil_append, hopen, ok_bind, StateT.run_bind, run_readChoice_class hmembers, ok_bind,
    StateT.run_bind, run_closeAt (by simp), ok_bind, StateT.run_bind, hclose, ok_bind, run_readSequence_end (.inl rfl)]
  simp [unpack]

theorem read_classOf (hmembers : members ≠ []) :
    ∃ groups : Array (Option Width), groups.size = 2 ∧
      read (classOf members) = .ok ⟨[.group (some 1) Flags.none Flags.none [classNode members]], Flags.none, groups⟩ := by
  let start : ReadState := ⟨⟨(classOf members).toArray, 0, none⟩, Flags.none, #[none], [], none, []⟩
  let items : List Text := [0x28] :: [0x5b] :: (members.map literalItem ++ [0x5d] :: [[0x29]])
  have hitems : ∀ item ∈ items, IsItem item := by
    have hmembers := forall_isItem_literal members ([0x5d] :: [[0x29]]) (by simp [IsItem])
    exact List.forall_mem_cons.2 ⟨by simp [IsItem], List.forall_mem_cons.2 ⟨by simp [IsItem], hmembers⟩⟩
  have hload : start.cursor.load = .ok (placeBetween [] items) :=
    load_placeBetween hitems (congrArg List.toArray (classOf_eq_flatten members)) rfl
  have hadvance : advance.run start = .ok ((), start.between [] items) := by
    unfold advance
    simp [StateT.run_bind, hload, ReadState.between]
  have hchoice : ∀ fuel, (readChoice (fuel + 5) false true).run (start.between [] items) =
      .ok ([.group (some 1) Flags.none Flags.none [classNode members]],
        (start.withClass members).between ([[0x28], [0x5b]] ++ members.map literalItem ++ [[0x5d], [0x29]]) []) := by
    intro fuel
    rw [readChoice, StateT.run_bind, run_readSequence_classOf hmembers rfl, ok_bind, run_readAlternatives_one (by simp)]
  have hread : read (classOf members) = (readTree.run start).map (·.1) := rfl
  unfold readTree at hread
  rw [StateT.run_bind, hadvance, ok_bind, StateT.run_bind, run_allowance_between, ok_bind, StateT.run_bind, hchoice,
    ok_bind] at hread
  exact ⟨_, rfl, hread⟩

end Group

/-! ### Where a class matches -/

section Match

variable {members : Text}

theorem mem_distinct_members {c : CodePoint} :
    SetItem.one c ∈ distinctItems (members.map .one) ↔ c ∈ members := by
  rw [mem_distinctItems, List.mem_map]
  simp

theorem holds_setTest {items : List SetItem} (hitems : ∀ item ∈ items, ∃ c, item = .one c) (d : CodePoint) :
    (setTest Flags.none false items).holds d = true ↔ SetItem.one d ∈ items := by
  have htests : ∀ item ∈ items, (item.tests .exact false).1.any (fun t => t.holds d) = true ↔ item = .one d := by
    intro item hitem
    obtain ⟨c, rfl⟩ := hitems item hitem
    simp only [SetItem.tests, SetTest.holds, List.any_cons, List.any_nil, Bool.or_false, beq_iff_eq, SetItem.one.injEq]
    exact eq_comm
  have hset : (setTest Flags.none false items).holds d =
      (items.flatMap fun item => (item.tests .exact false).1).any fun t => t.holds d := by
    have hexact : Folding.ofFlags Flags.none = .exact := rfl
    simp only [setTest, CharTest.holds, hexact, ite_self, Bool.bne_false, List.flatMap_map]
    rfl
  rw [hset, List.any_flatMap, List.any_eq_true]
  constructor
  · rintro ⟨item, hitem, hany⟩
    rwa [← (htests item hitem).1 hany]
  · intro hmem
    exact ⟨_, hmem, (htests _ hmem).2 rfl⟩

theorem steps_classNode (groups : Array (Option Width)) :
    ∃ test, (classNode members).steps groups Flags.none = .ok [.char test] ∧
      ∀ c, test.holds c = true ↔ c ∈ members := by
  rcases classNode_cases members with ⟨c, hitems, h⟩ | h
  · refine ⟨.is c, by rw [h]; rfl, fun d => ?_⟩
    rw [← mem_distinct_members, hitems]
    simp [CharTest.holds]
  · refine ⟨_, by rw [h, Node.steps], fun d => ?_⟩
    rw [← mem_distinct_members]
    have hone : ∀ item ∈ distinctItems (members.map .one), ∃ c, item = .one c := by
      intro item hitem
      obtain ⟨c, -, rfl⟩ := List.mem_map.1 (mem_distinctItems.1 hitem)
      exact ⟨c, rfl⟩
    exact holds_setTest hone d

theorem matchesAt_capture_char (test : CharTest) (groups : Nat) (s : Array CodePoint) (i : Nat) :
    (Program.mk [.capture 1 [.char test]] groups).matchesAt s i = testAt s test i := by
  obtain ⟨fuel, hfuel⟩ : ∃ fuel, moveLimit = fuel + 4 := ⟨moveLimit - 4, rfl⟩
  rw [Program.matchesAt, hfuel]
  cases htest : testAt s test i with
  | true => simp [runConfig, Config.next, Step.run, htest]
  | false => simp [runConfig, Config.next, Step.run, htest, resume]

/-- The class of the code points of a text is a pattern, which matches exactly where one of them stands. -/
theorem compile_classOf (hmembers : members ≠ []) :
    ∃ program, compile (classOf members) = .ok program ∧
      ∀ s i, program.matchesAt s i = true ↔ ∃ c ∈ members, s[i]? = some c := by
  obtain ⟨groups, -, hread⟩ := read_classOf hmembers
  obtain ⟨test, hsteps, htest⟩ := @steps_classNode members groups
  have hbody : bodySteps groups Flags.none [.group (some 1) Flags.none Flags.none [classNode members]] =
      .ok [.capture 1 [.char test]] := by
    have hinside : Flags.none.inside Flags.none Flags.none = Flags.none := rfl
    simp only [bodySteps, Node.steps, hinside, hsteps]
    rfl
  refine ⟨⟨[.capture 1 [.char test]], groups.size⟩, ?_, fun s i => ?_⟩
  · rw [compile, hread, ok_bind, hbody]
    rfl
  · rw [matchesAt_capture_char, testAt]
    cases hc : s[i]? with
    | none => simp
    | some c => simp [htest]

/-- The class of the backslash and the quote. -/
example : classOf "\\\"" = "([\\\\\"])" := by decide

end Match

end Rulebook.Pattern
