import Rulebook.Proofs.Template.Placeholder
import Rulebook.Proofs.Template.Rendering
import Rulebook.Proofs.Value.Entries
import Rulebook.Template.Interpolation

/-!
# Interpolating references

A token of references and words with spaces between them is interpolated word by word: a reference to a name that is
bound to a text stands for that text, sign by sign, and all else stands for itself. The texts themselves are never
read as templates.
-/

namespace Rulebook
namespace Template
open Text

/-! ### Words -/

/-- A reference to a name, or a text that stands for itself. -/
inductive Word where
  | reference (name : Text)
  | plain (text : Text)

/-- The text of a word; `g` gives what stands for a name. -/
def Word.text (g : Text → Text) : Word → Text
  | reference n => g n
  | plain t => t

/-- The name is plain, or the text has no mark, no brace and no white space. -/
def Word.Fits : Word → Prop
  | reference n => PlainName n
  | plain t => ∀ c ∈ t, c ≠ variableMark ∧ c ≠ 0x7b ∧ isSpace c = false

/-- Words, each behind a space. -/
def spaced (g : Text → Text) (words : List Word) : Text := words.flatMap fun w => 0x20 :: w.text g

/-- A reference, and words behind it. -/
def phrase (g : Text → Text) (n : Text) (words : List Word) : Text := g n ++ spaced g words

theorem spaced_cons (g : Text → Text) (w : Word) (words : List Word) :
    spaced g (w :: words) = 0x20 :: (w.text g ++ spaced g words) := by
  simp [spaced]

@[simp] theorem phrase_nil (g : Text → Text) (n : Text) : phrase g n [] = g n := List.append_nil (g n)

/-- The names of references in a list of words. -/
def wordNames (words : List Word) : List Text := words.flatMap fun w => match w with | .reference n => [n] | .plain _ => []

/-! ### Placeholders for references -/

theorem endsWord_spaced (g : Text → Text) (words : List Word) : EndsWord (spaced g words) := by
  cases words with
  | nil => exact endsWord_nil
  | cons w words =>
    rw [spaced_cons]
    exact endsWord_cons.2 (by decide)

theorem toTemplate_spaced {words : List Word} (h : ∀ w ∈ words, w.Fits) :
    toTemplate (spaced variableToken words) = spaced placeholder words := by
  induction words with
  | nil => rfl
  | cons w words ih =>
    rw [List.forall_mem_cons] at h
    have htext : toTemplate (w.text variableToken) = w.text placeholder := by
      cases w with
      | reference n =>
        have hn : PlainName n := h.1
        exact toTemplate_variableToken hn.toAsciiName.ne_nil hn.toAsciiName.not_isSpace
      | plain t => exact toTemplate_of_noReference (noReference_of_notMem fun hmem => (h.1 _ hmem).1 rfl)
    rw [spaced_cons, toTemplate_space (by decide), toTemplate_append _ (endsWord_spaced variableToken words), htext, ih h.2,
      spaced_cons]

/-- Each reference becomes a placeholder, and all else is unchanged. The first may be any text without white space. -/
theorem toTemplate_phrase {n : Text} (hn : n ≠ []) (hspace : ∀ c ∈ n, isSpace c = false) {words : List Word}
    (h : ∀ w ∈ words, w.Fits) : toTemplate (phrase variableToken n words) = phrase placeholder n words := by
  rw [phrase, toTemplate_reference hn hspace (endsWord_spaced variableToken words), toTemplate_spaced h, phrase]

theorem fits_nil : ∀ w ∈ ([] : List Word), w.Fits := by simp

/-! ### The outline of a phrase -/

/-- The references of words with the text before each, of which `d` is the beginning, and the text behind the last. -/
def outline (d : Text) : List Word → List (Text × Text) × Text
  | [] => ([], d)
  | .reference n :: words => ((d ++ [0x20], n) :: (outline [] words).1, (outline [] words).2)
  | .plain t :: words => outline (d ++ 0x20 :: t) words

theorem assemble_outline (g : Text → Text) (d : Text) (words : List Word) :
    assemble g (outline d words).1 (outline d words).2 = d ++ spaced g words := by
  induction words generalizing d with
  | nil => simp [outline, assemble, spaced]
  | cons w words ih =>
    cases w with
    | reference n => simp [outline, assemble_cons, ih, spaced_cons, Word.text]
    | plain t => simp [outline, ih, spaced_cons, Word.text]

theorem map_outline (d : Text) (words : List Word) : (outline d words).1.map (·.2) = wordNames words := by
  induction words generalizing d with
  | nil => rfl
  | cons w words ih =>
    cases w with
    | reference n => simp [outline, ih, wordNames]
    | plain t => simp [outline, ih, wordNames]

theorem verbatim_append {d t : Text} (hd : Verbatim d) (ht : Verbatim t) : Verbatim (d ++ t) := by
  intro c hc
  exact (List.mem_append.1 hc).elim (hd c) (ht c)

theorem outlines_outline {d : Text} (hd : Verbatim d) {words : List Word} (h : ∀ w ∈ words, w.Fits) :
    Outlines (outline d words).1 (outline d words).2 := by
  have hspace : Verbatim [0x20] := by simp [Verbatim]
  induction words generalizing d with
  | nil => exact outlines_nil.2 hd
  | cons w words ih =>
    rw [List.forall_mem_cons] at h
    cases w with
    | reference n => exact outlines_cons.2 ⟨verbatim_append hd hspace, h.1, ih (d := []) nofun h.2⟩
    | plain t =>
      have ht : Verbatim t := by
        intro c hc
        obtain ⟨-, hbrace, hwhite⟩ := h.1 c hc
        refine ⟨hbrace, ?_, ?_⟩ <;> rintro rfl <;> exact absurd hwhite (by decide)
      have hword : Verbatim (d ++ 0x20 :: t) := verbatim_append hd (verbatim_append hspace ht)
      exact ih hword h.2

/-- The outline of a phrase: a reference with nothing before it, and the outline of the words behind it. -/
theorem phrase_eq_assemble (g : Text → Text) (n : Text) (words : List Word) :
    phrase g n words = assemble g (([], n) :: (outline [] words).1) (outline [] words).2 := by
  rw [assemble_cons, assemble_outline]
  rfl

end Template

open Template

/-! ### Values of names -/

/-- The variables are what they are given as, unless one of them is `self`. -/
theorem renderVariables_eq_of_keyedByTexts {entries : List (Value × Value)} (h : KeyedByTexts entries) :
    renderVariables (.mapping entries) =
      if (Value.lookupText "self" entries).isSome then
        .error (Fault.wrongType "Template.render() got multiple values for argument 'self'")
      else .ok entries := by
  unfold renderVariables
  dsimp only
  rw [if_neg]
  rw [List.any_eq_true]
  rintro ⟨p, hp, hkey⟩
  obtain ⟨u, hu⟩ := h p hp
  simp [hu] at hkey

theorem renderVariables_of_keyedByTexts {entries : List (Value × Value)} (h : KeyedByTexts entries)
    (hself : Value.lookupText "self" entries = none) : renderVariables (.mapping entries) = .ok entries := by
  rw [renderVariables_eq_of_keyedByTexts h, hself]
  rfl

namespace Template
open Text

/-- A text of whole code points is a string. -/
theorem ofString_toStringLossy {t : Text} (h : ∀ c ∈ t, c < 128) : ofString t.toStringLossy = t := by
  have hchar : ∀ c ∈ t, (charOf c).toNat = c := by
    intro c hc
    have hvalid : Nat.isValidChar c := .inl (Nat.lt_trans (h c hc) (by decide))
    rw [charOf, if_pos hvalid, Char.ofNat, dif_pos hvalid]
    rfl
  rw [ofString, toStringLossy, String.toList_ofList, List.map_map]
  exact (List.map_congr_left hchar).trans (List.map_id t)

variable {n : Text}

theorem globalValue?_eq_none (hn : PlainName n) (h : n ∉ globalNames) : globalValue? n = none := by
  have hstring : ∀ w : String, n.toStringLossy = w → n = ofString w := fun w hw => by
    rw [← hw, ofString_toStringLossy fun c hc => lt_of_isNameSign (hn.sign c hc)]
  unfold globalValue?
  split
  all_goals first
    | rfl
    | next heq => exact absurd (hstring _ heq ▸ by simp [globalNames]) h

/-- A name that every template knows has a text. -/
theorem exists_printed_globalValue? (h : n ∈ globalNames) : ∃ v t, globalValue? n = some v ∧ printed v = .ok t := by
  simp only [globalNames, List.mem_cons, List.not_mem_nil, or_false] at h
  rcases h with rfl | rfl | rfl | rfl | rfl | rfl <;> exact ⟨_, _, rfl, rfl⟩

variable {s : Surroundings}

theorem nameText_of_lookup {v : Value} (h : Value.lookupText n s.bindings = some v) : s.nameText n = printed v := by
  simp [Surroundings.nameText, Surroundings.value?, h]

theorem nameText_of_known (h : Value.lookupText n s.bindings = none) (hknown : n ∈ globalNames) :
    ∃ t, s.nameText n = .ok t := by
  obtain ⟨v, t, hv, ht⟩ := exists_printed_globalValue? hknown
  exact ⟨t, by simp [Surroundings.nameText, Surroundings.value?, h, hv, ht]⟩

theorem nameText_of_unknown (hn : PlainName n) (h : Value.lookupText n s.bindings = none) (hknown : n ∉ globalNames) :
    s.nameText n = if s.strict then .error ⟨.undefinedValue, display n ++ " is undefined"⟩ else .ok [] := by
  have hvalue : s.value? n = none := by rw [Surroundings.value?, h, globalValue?_eq_none hn hknown]; rfl
  simp [Surroundings.nameText, hvalue, undefinedOf, printed, showsAddress, Value.plain, Undefined.fault]

end Template

/-! ### Interpolation -/

section render
variable {r : Text × Text} {references : List (Text × Text)} {tail : Text} (h : Outlines (r :: references) tail)
  {bindings : Value} {entries : List (Value × Value)} (hentries : renderVariables bindings = .ok entries)
  (policy : UndefinedPolicy)
include h hentries

/-- A template of references is rendered piece by piece. -/
theorem renderTemplate_assemble :
    ∃ (scene : Scene) (fuel : Nat),
      (∀ q ∈ r :: references, scene.find? q.2 = (⟨policy == .strict, entries, []⟩ : Surroundings).value? q.2) ∧
      renderTemplate policy (assemble placeholder (r :: references) tail) bindings =
        (((pieces (r :: references) tail).mapM
          (pieceText ⟨policy == .strict, entries, []⟩ (fuel + 1))).run scene).map fun p => p.1.flatten := by
  obtain ⟨outside, hcompile, houtside⟩ := compile_pieces (policy == .strict) h
  rw [← pieceNames_pieces _ tail] at houtside
  obtain ⟨scene, hscene, hrender⟩ := render_output (policy == .strict)
    (3997 + 4 * (assemble placeholder (r :: references) tail).length) houtside entries
  refine ⟨scene, 3997 + 4 * (assemble placeholder (r :: references) tail).length, fun q hq => hscene _ ?_, ?_⟩
  · rw [pieceNames_pieces]
    exact List.mem_map_of_mem hq
  rw [← hrender]
  simp only [renderTemplate, read_assemble h, hcompile, hentries, ok_bind]
  congr 1
  omega

/-- A template of references is rendered with what stands for each name. -/
theorem renderTemplate_assemble_ok {f : Text → Text}
    (hf : ∀ q ∈ r :: references, (⟨policy == .strict, entries, []⟩ : Surroundings).nameText q.2 = .ok (f q.2)) :
    renderTemplate policy (assemble placeholder (r :: references) tail) bindings =
      .ok (assemble f (r :: references) tail) := by
  obtain ⟨scene, fuel, hscene, hrender⟩ := renderTemplate_assemble h hentries policy
  obtain ⟨ts, hts, hflatten⟩ := run_mapM_pieces hscene hf fuel tail
  rw [hrender, hts, ← hflatten]
  rfl

/-- Where nothing stands for a name, rendering ends in the fault of such a name. -/
theorem renderTemplate_assemble_error
    (he : ∃ q ∈ r :: references, ∃ e, (⟨policy == .strict, entries, []⟩ : Surroundings).nameText q.2 = .error e) :
    ∃ q ∈ r :: references, ∃ e, (⟨policy == .strict, entries, []⟩ : Surroundings).nameText q.2 = .error e ∧
      renderTemplate policy (assemble placeholder (r :: references) tail) bindings = .error e := by
  obtain ⟨scene, fuel, hscene, hrender⟩ := renderTemplate_assemble h hentries policy
  obtain ⟨q, hq, e, hqe, hrun⟩ := run_mapM_pieces_of_error hscene he fuel tail
  refine ⟨q, hq, e, hqe, ?_⟩
  rw [hrender, hrun]
  rfl

end render

section outcome
variable {policy : UndefinedPolicy} {token : Text} (href : isReference token = true) {bindings : Value}
include href

theorem interpolate_of_renderTemplate_ok {t : Text} (h : renderTemplate policy (toTemplate token) bindings = .ok t) :
    interpolate policy token bindings = pure t := by
  rw [interpolate, if_pos href, h]

/-- A reference is refused with the fault of something undefined in it. -/
theorem result_interpolate_of_renderTemplate_error {f : Fault}
    (h : renderTemplate policy (toTemplate token) bindings = .error f) (hkind : f.kind = .undefinedValue) :
    (interpolate policy token bindings).result = .error (.logic (.reference token f)) := by
  rw [interpolate, if_pos href, h]
  simp only [hkind]
  rfl

end outcome

section phrase
variable {n : Text} {words : List Word}

theorem outlines_phrase (hn : PlainName n) (hwords : ∀ w ∈ words, w.Fits) :
    Outlines (([], n) :: (outline [] words).1) (outline [] words).2 :=
  outlines_cons.2 ⟨nofun, hn, outlines_outline (d := []) nofun hwords⟩

theorem isReference_phrase : isReference (phrase variableToken n words) = true := rfl

/-- The references of a phrase are its names. -/
theorem mem_names_iff {m : Text} :
    m ∈ n :: wordNames words ↔ ∃ q ∈ ([], n) :: (outline [] words).1, q.2 = m := by
  rw [← map_outline [], ← List.mem_map (f := fun q : Text × Text => q.2), List.map_cons]

theorem plainName_of_mem_names (hn : PlainName n) (hwords : ∀ w ∈ words, w.Fits) {m : Text}
    (hm : m ∈ n :: wordNames words) : PlainName m := by
  obtain ⟨q, hq, rfl⟩ := mem_names_iff.1 hm
  exact (outlines_phrase hn hwords).name q hq

variable (hn : PlainName n) (hwords : ∀ w ∈ words, w.Fits) {bindings : Value} {entries : List (Value × Value)}
  (hentries : renderVariables bindings = .ok entries) (policy : UndefinedPolicy)
include hn hwords hentries

/-- A phrase is interpolated with what stands for each name. -/
theorem interpolate_phrase_ok {f : Text → Text}
    (hf : ∀ m ∈ n :: wordNames words, (⟨policy == .strict, entries, []⟩ : Surroundings).nameText m = .ok (f m)) :
    interpolate policy (phrase variableToken n words) bindings = pure (phrase f n words) := by
  have hrender := renderTemplate_assemble_ok (outlines_phrase hn hwords) hentries policy
    fun q hq => hf q.2 (mem_names_iff.2 ⟨q, hq, rfl⟩)
  rw [← phrase_eq_assemble, ← phrase_eq_assemble,
    ← toTemplate_phrase hn.toAsciiName.ne_nil hn.toAsciiName.not_isSpace hwords] at hrender
  exact interpolate_of_renderTemplate_ok isReference_phrase hrender

/-- Where nothing stands for a name of a phrase, the phrase is refused with the fault of such a name. -/
theorem interpolate_phrase_error
    (he : ∃ m ∈ n :: wordNames words, ∃ e, (⟨policy == .strict, entries, []⟩ : Surroundings).nameText m = .error e) :
    ∃ m ∈ n :: wordNames words, ∃ e, (⟨policy == .strict, entries, []⟩ : Surroundings).nameText m = .error e ∧
      (e.kind = .undefinedValue →
        (interpolate policy (phrase variableToken n words) bindings).result =
          .error (.logic (.reference (phrase variableToken n words) e))) := by
  obtain ⟨m, hm, e, hme⟩ := he
  obtain ⟨q, hq, rfl⟩ := mem_names_iff.1 hm
  obtain ⟨q', hq', e', hqe', hrender⟩ := renderTemplate_assemble_error (outlines_phrase hn hwords) hentries policy
    ⟨q, hq, e, hme⟩
  rw [← phrase_eq_assemble, ← toTemplate_phrase hn.toAsciiName.ne_nil hn.toAsciiName.not_isSpace hwords] at hrender
  exact ⟨q'.2, mem_names_iff.2 ⟨q', hq', rfl⟩, e', hqe',
    result_interpolate_of_renderTemplate_error isReference_phrase hrender⟩

end phrase

/-- A reference to a plain name stands for the text of the value that the name is bound to. -/
theorem interpolate_variable (policy : UndefinedPolicy) {n t : Text} (hn : PlainName n) {bindings v : Value}
    {entries : List (Value × Value)} (hentries : renderVariables bindings = .ok entries)
    (h : Value.lookupText n entries = some v) (ht : printed v = .ok t) :
    interpolate policy (variableMark :: n) bindings = pure t := by
  have hphrase := interpolate_phrase_ok hn fits_nil hentries policy (f := fun _ => t) fun m hm => by
    rw [List.mem_singleton.1 hm, nameText_of_lookup h, ht]
  simpa [variableToken] using hphrase

/-- A token that is no reference stands for itself. -/
theorem interpolate_of_not_isReference (policy : UndefinedPolicy) {token : Text} (h : isReference token = false)
    (bindings : Value) : interpolate policy token bindings = pure token := by
  simp [interpolate, h]

/-- A phrase whose names are bound to texts is interpolated word by word: each reference stands for the text that its
name is bound to, sign by sign, and all else is unchanged. Where a name is neither bound nor known to every template,
it stands for the empty text under the empty policy, and under the strict one the phrase is refused. -/
theorem interpolate_phrase {n : Text} (hn : PlainName n) {words : List Word} (hwords : ∀ w ∈ words, w.Fits)
    (entries : List (Value × Value)) (hkeys : KeyedByTexts entries) (hself : Value.lookupText "self" entries = none) :
    (∀ (policy : UndefinedPolicy) (f : Text → Text),
      (∀ m ∈ n :: wordNames words, Value.lookupText m entries = some (.text (f m))) →
        interpolate policy (phrase variableToken n words) (.mapping entries) = pure (phrase f n words)) ∧
    ((∀ m ∈ n :: wordNames words,
        Value.lookupText m entries = none ∨ ∃ t, Value.lookupText m entries = some (.text t)) →
      (∃ f : Text → Text,
        (∀ m ∈ n :: wordNames words, ∀ t, Value.lookupText m entries = some (.text t) → f m = t) ∧
        (∀ m ∈ n :: wordNames words, Value.lookupText m entries = none → m ∉ globalNames → f m = []) ∧
        interpolate .empty (phrase variableToken n words) (.mapping entries) = pure (phrase f n words)) ∧
      ((∃ m ∈ n :: wordNames words, Value.lookupText m entries = none ∧ m ∉ globalNames) →
        ∃ m ∈ n :: wordNames words, Value.lookupText m entries = none ∧ m ∉ globalNames ∧
          (interpolate .strict (phrase variableToken n words) (.mapping entries)).result =
            .error (.logic (.reference (phrase variableToken n words)
              ⟨.undefinedValue, Text.display m ++ " is undefined"⟩)))) := by
  have hentries : renderVariables (.mapping entries) = .ok entries := by
    rw [renderVariables_eq_of_keyedByTexts hkeys, hself]
    rfl
  refine ⟨fun policy f hf => interpolate_phrase_ok hn hwords hentries policy fun m hm => ?_, fun htexts => ⟨?_, ?_⟩⟩
  · rw [nameText_of_lookup (hf m hm)]
    rfl
  · -- What stands for a name under the empty policy never fails.
    have hok : ∀ m ∈ n :: wordNames words, ∃ t, (⟨false, entries, []⟩ : Surroundings).nameText m = .ok t := by
      intro m hm
      rcases htexts m hm with hm' | ⟨t, hm'⟩
      · by_cases hknown : m ∈ globalNames
        · exact nameText_of_known hm' hknown
        · exact ⟨[], nameText_of_unknown (plainName_of_mem_names hn hwords hm) hm' hknown⟩
      · exact ⟨t, (nameText_of_lookup hm').trans rfl⟩
    have hresult : ∀ m ∈ n :: wordNames words, (⟨false, entries, []⟩ : Surroundings).nameText m =
        .ok (((⟨false, entries, []⟩ : Surroundings).nameText m).toOption.getD []) := by
      intro m hm
      obtain ⟨t, ht⟩ := hok m hm
      rw [ht]
      rfl
    refine ⟨_, fun m hm t ht => ?_, fun m hm hnone hknown => ?_, interpolate_phrase_ok hn hwords hentries .empty hresult⟩
    · rw [nameText_of_lookup ht]
      rfl
    · rw [nameText_of_unknown (plainName_of_mem_names hn hwords hm) hnone hknown]
      rfl
  · rintro ⟨m, hm, hnone, hknown⟩
    have hm' := nameText_of_unknown (s := ⟨true, entries, []⟩) (plainName_of_mem_names hn hwords hm) hnone hknown
    obtain ⟨q, hq, e, hqe, hrun⟩ := interpolate_phrase_error hn hwords hentries .strict ⟨m, hm, _, hm'⟩
    rcases htexts q hq with hq' | ⟨t, hq'⟩
    · by_cases hqknown : q ∈ globalNames
      · obtain ⟨t, ht⟩ := nameText_of_known (s := ⟨true, entries, []⟩) hq' hqknown
        exact absurd (hqe.symm.trans ht) (by simp)
      · have he := nameText_of_unknown (s := ⟨true, entries, []⟩) (plainName_of_mem_names hn hwords hq) hq' hqknown
        obtain rfl : ⟨.undefinedValue, Text.display q ++ " is undefined"⟩ = e := by
          simpa using he.symm.trans hqe
        exact ⟨q, hq, hq', hqknown, hrun rfl⟩
    · have ht := nameText_of_lookup (s := ⟨true, entries, []⟩) hq'
      exact absurd (hqe.symm.trans ht) (by simp [printed, showsAddress, Value.plain])

/-- A phrase with two spaces in a row, under values that look like templates and with a name that nothing binds. -/
theorem interpolate_phrase_marks :
    ("$x and  $y" : Text) = phrase variableToken "x" [.plain "and", .plain [], .reference "y"] ∧
    (∀ policy, interpolate policy "$x and  $y"
        (.mapping [(.text "x", .text "$y \x7b\x7b y \x7d\x7d"), (.text "y", .text "\x7b% a\n\"")]) =
      pure ("$y \x7b\x7b y \x7d\x7d and  \x7b% a\n\"" : Text)) ∧
    interpolate .empty "$x and  $y" (.mapping [(.text "x", .text "1")]) = pure ("1 and  " : Text) ∧
    (interpolate .strict "$x and  $y" (.mapping [(.text "x", .text "1")])).result =
      .error (.logic (.reference "$x and  $y" ⟨.undefinedValue, "'y' is undefined"⟩)) := by
  have htoken : ("$x and  $y" : Text) = phrase variableToken "x" [.plain "and", .plain [], .reference "y"] := by
    decide
  have hwords : ∀ w ∈ ([.plain "and", .plain [], .reference "y"] : List Word), w.Fits := by
    simp only [List.forall_mem_cons, Word.Fits]
    exact ⟨by decide, nofun, plainName_y, nofun⟩
  have hself : ∀ n : Text, n ∈ (["x", "y"] : List Text) → Text.same n "self" = false := by decide
  have hxy : Text.same "x" "y" = false ∧ Text.same "y" "x" = false := by decide
  have hnames : ("x" : Text) :: wordNames [.plain "and", .plain [], .reference "y"] = (["x", "y"] : List Text) := rfl
  have hboth := (interpolate_phrase plainName_x hwords
    [(.text "x", .text "$y \x7b\x7b y \x7d\x7d"), (.text "y", .text "\x7b% a\n\"")]
    (by simp [KeyedByTexts]) (by simp [Value.lookupText, Value.lookup, Value.equal, hself])).1
  have hone := (interpolate_phrase plainName_x hwords [(.text "x", .text "1")]
    (by simp [KeyedByTexts]) (by simp [Value.lookupText, Value.lookup, Value.equal, hself])).2
  rw [hnames] at hboth hone
  have hx : Value.lookupText "x" [(.text "x", .text "1")] = some (.text "1") := by
    simp [Value.lookupText, Value.lookup, Value.equal]
  have hy : Value.lookupText "y" [(.text "x", .text "1")] = none := by
    simp [Value.lookupText, Value.lookup, Value.equal, hxy]
  have hunknown : ("y" : Text) ∉ globalNames := by decide
  obtain ⟨⟨f, hbound, hunbound, hempty⟩, hstrict⟩ := hone (by simp [hx, hy])
  have hphrase : phrase f "x" [.plain "and", .plain [], .reference "y"] = "1 and  " := by
    have hfx : f "x" = "1" := hbound "x" (by simp) _ hx
    have hfy : f "y" = [] := hunbound "y" (by simp) hy hunknown
    simp only [phrase, spaced, List.flatMap_cons, List.flatMap_nil, Word.text, hfx, hfy]
    decide
  refine ⟨htoken, fun policy => ?_, ?_, ?_⟩
  · rw [htoken, hboth policy fun m => if Text.same m "x" then "$y \x7b\x7b y \x7d\x7d" else "\x7b% a\n\""]
    · rfl
    · simp [Value.lookupText, Value.lookup, Value.equal, hxy]
  · rw [htoken, hempty, hphrase]
  · obtain ⟨m, hm, hnone, -, hresult⟩ := hstrict ⟨"y", by simp, hy, hunknown⟩
    have hm' : m = "y" := by
      rcases List.mem_cons.1 hm with rfl | hm
      · rw [hx] at hnone
        cases hnone
      · exact List.mem_singleton.1 hm
    have hmessage : Text.display "y" ++ (" is undefined" : Text) = "'y' is undefined" := by decide +kernel
    rw [htoken, hresult, hm', hmessage]

end Rulebook
