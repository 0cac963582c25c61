import Rulebook.Proofs.Leniency.Follows
import Rulebook.Proofs.Log.Masking
import Rulebook.Proofs.Value.Display

/-!
# Calls that fail by redaction

What a logger can write it can write with its secrets masked, as data and for a terminal alike: a mask is a text, and what is
left in its place is less to write. Redaction itself is stricter than both writers. It asks each key that it meets for its
letters, so a call whose event holds a mapping with another key is written without redaction and fails with it.
-/

namespace Rulebook

open Value (lookupText)

/-- The second computation succeeds wherever the first does. -/
abbrev Outlasts {ε α β : Type} (x : Except ε α) (y : Except ε β) : Prop := Follows (fun _ _ => True) x y

section Outlast

variable {ε α β γ δ : Type}

theorem outlasts_refl (x : Except ε α) : Outlasts x x := .refl (fun _ => trivial) x

theorem outlasts_ok (x : Except ε α) (b : β) : Outlasts x (.ok b : Except ε β) := fun _ _ => ⟨b, rfl, trivial⟩

theorem outlasts_pure {x : Except ε α} {y : Except ε β} (h : Outlasts x y) (f : α → γ) (g : β → δ) :
    Outlasts (x >>= fun a => pure (f a)) (y >>= fun b => pure (g b)) :=
  h.bind fun a b _ => outlasts_ok (pure (f a)) (g b)

end Outlast

section Writing

variable {v w : Value} {es rs : List (Value × Value)}

/-! ### Data -/

theorem writeEntries_cons (k v : Value) (es : List (Value × Value)) (done : List Text) :
    Json.writeEntries ((k, v) :: es) done =
      Json.memberName k >>= fun name => Json.write v >>= fun t =>
        Json.writeEntries es ((Json.string name ++ ": " ++ t) :: done) := by
  rw [Json.writeEntries]
  cases Json.memberName k with
  | error e => rfl
  | ok name => cases Json.write v <;> rfl

mutual

theorem outlasts_write {v w : Value} (h : redactValue v = .ok w) : Outlasts (Json.write v) (Json.write w) := by
  cases v with
  | mapping es =>
    obtain ⟨rs, rfl, hrs⟩ := redactValue_mapping_ok h
    rw [Json.write, Json.write]
    exact outlasts_pure (outlasts_writeEntries hrs [] []) _ _
  | _ =>
    have hw : _ = w := Except.ok.inj (by simpa only [redactValue] using h)
    rw [← hw]
    exact outlasts_refl _

theorem outlasts_writeEntries {es rs : List (Value × Value)} (h : redactEntries es = .ok rs) (done done' : List Text) :
    Outlasts (Json.writeEntries es done) (Json.writeEntries rs done') := by
  cases es with
  | nil =>
    obtain rfl := eq_nil_of_redactEntries h
    exact outlasts_ok _ _
  | cons e es =>
    obtain ⟨k, v⟩ := e
    obtain ⟨w, rs, rfl, hrs, hw⟩ := redactEntries_cons_ok h
    -- keys are written as before, so only the values matter
    have hvalue : Outlasts (Json.write v) (Json.write w) := by
      rcases hw with ⟨-, rfl⟩ | ⟨-, hw⟩
      · exact fun _ _ => ⟨_, by rw [mask, Json.write], trivial⟩
      · exact outlasts_write hw
    rw [writeEntries_cons, writeEntries_cons]
    refine .bind_eq (.eq _) fun name => hvalue.bind fun _ _ _ => ?_
    exact outlasts_writeEntries hrs _ _

end

/-! ### Texts -/

/-- An integer that is too long to be shown stays among what is shown only if it stood there before. -/
theorem showsTooMany_of_redactValue (hw : Value.ShowsTooMany w) (h : redactValue v = .ok w) : Value.ShowsTooMany v := by
  induction hw generalizing v with
  | int hn =>
    obtain rfl := eq_of_redactValue_ne_mapping h (by simp)
    exact .int hn
  | @part w u hmem hu ih =>
    rcases redactValue_cases h with ⟨-, rfl⟩ | ⟨es, rs, rfl, rfl, hrs⟩
    · exact .part hmem hu
    · obtain ⟨f, hf, hpart⟩ := List.mem_flatMap.1 hmem
      obtain ⟨e, he, hkey, hvalue⟩ := exists_mem_of_redactEntries hrs hf
      have hparts : ∀ x ∈ [e.1, e.2], x ∈ (Value.mapping es).parts := fun x hx => List.mem_flatMap.2 ⟨e, he, hx⟩
      rcases List.mem_pair.1 hpart with rfl | rfl
      · exact .part (hparts _ (by simp [hkey])) hu
      · rcases hvalue with hmask | hvalue
        · rw [hmask, Value.showsTooMany_iff_parts (by simp [mask])] at hu
          obtain ⟨x, hx, -⟩ := hu
          cases hx
        · exact .part (hparts e.2 (by simp)) (ih hvalue)

/-- What may stand in the place of a value after redaction: the mask, or the value redacted. -/
def InPlaceOf (v w : Value) : Prop := w = mask ∨ redactValue v = .ok w

theorem outlasts_display (h : InPlaceOf v w) : Outlasts v.display w.display := by
  rcases h with rfl | h
  · exact outlasts_ok _ _
  · intro t ht
    cases hw : w.display with
    | ok u => exact ⟨u, rfl, trivial⟩
    | error f =>
      have hmany := showsTooMany_of_redactValue ((Value.display_eq_error_iff w).1 hw).2 h
      rw [(Value.display_eq_error_iff v).2 ⟨rfl, hmany⟩] at ht
      cases ht

theorem outlasts_plain (h : InPlaceOf v w) : Outlasts v.plain w.plain := by
  have hdisplay := outlasts_display h
  rcases h with rfl | h
  · exact outlasts_ok _ _
  rcases redactValue_cases h with ⟨-, rfl⟩ | ⟨es, rs, rfl, rfl, -⟩
  · exact outlasts_refl _
  · exact hdisplay

theorem outlasts_valueText (h : InPlaceOf v w) : Outlasts (Console.valueText v) (Console.valueText w) := by
  have hdisplay := outlasts_display h
  rcases h with rfl | h
  · exact outlasts_ok _ _
  rcases redactValue_cases h with ⟨-, rfl⟩ | ⟨es, rs, rfl, rfl, -⟩
  · exact outlasts_refl _
  · exact hdisplay

/-! ### Lines -/

section Line

variable (h : redactEntries es = .ok rs)
include h

theorem lookupText_inPlaceOf (t : Text) : Option.Rel InPlaceOf (lookupText t es) (lookupText t rs) := by
  cases ht : isSensitiveKey t with
  | true =>
    rw [lookupText_redactEntries_sensitive h ht]
    cases lookupText t es with
    | none => exact .none
    | some v => exact .some (.inl rfl)
  | false => exact optionRel_mono (lookupText_redactEntries_harmless h ht) fun _ _ hab => .inr hab

theorem outlasts_column (key : Text) {write : Value → Except Fault Text}
    (hwrite : ∀ v w, InPlaceOf v w → Outlasts (write v) (write w)) :
    Outlasts (Console.column es key write) (Console.column rs key write) := by
  unfold Console.column
  rcases optionRel_cases (lookupText_inPlaceOf h key) with ⟨hv, hw⟩ | ⟨a, b, hv, hw, hab⟩
  · rw [hv, hw]
    exact outlasts_ok _ _
  · rw [hv, hw]
    exact outlasts_pure (hwrite a b hab) _ _

theorem outlasts_appended (key : Text) : Outlasts (Console.appended es key) (Console.appended rs key) := by
  unfold Console.appended
  rcases optionRel_cases (lookupText_inPlaceOf h key) with ⟨hv, hw⟩ | ⟨a, b, hv, hw, rfl | hab⟩
  · rw [hv, hw]
    exact outlasts_ok _ _
  · rw [hw]
    exact outlasts_ok _ _
  · rw [hv, hw]
    rcases redactValue_cases hab with ⟨-, rfl⟩ | ⟨fs, gs, rfl, rfl, -⟩
    · exact outlasts_refl _
    · exact follows_error _ _

theorem filterMap_redactEntries {g : Value × Value → Option Text} (hg : ∀ k v w, g (k, v) = g (k, w)) :
    rs.filterMap g = es.filterMap g := by
  have hkey : g = (fun k => g (k, .null)) ∘ Prod.fst := funext fun e => hg e.1 e.2 .null
  rw [hkey, ← List.filterMap_map, ← List.filterMap_map, keys_redactEntries h]

/-- A line for a terminal can be written of what is left if it can be written of the whole. -/
theorem outlasts_line (level : Level) : Outlasts (Console.line level es) (Console.line level rs) := by
  have hplain : ∀ style width v w, InPlaceOf v w →
      Outlasts (v.plain >>= fun t => pure (Console.styled style width t))
        (w.plain >>= fun t => pure (Console.styled style width t) : Except Fault Text) :=
    fun _ _ _ _ hvw => outlasts_pure (outlasts_plain hvw) _ _
  have hname : ∀ v w, InPlaceOf v w → Outlasts (Console.loggerName v) (Console.loggerName w) :=
    fun _ _ hvw => outlasts_pure (outlasts_plain hvw) _ _
  have hfield : ∀ k, Outlasts (Console.keyed k ((lookupText k es).getD .null)) (Console.keyed k ((lookupText k rs).getD .null)) := by
    intro k
    have hnull : InPlaceOf .null .null := .inr (by simp only [redactValue])
    exact outlasts_pure (outlasts_valueText (optionRel_getD (lookupText_inPlaceOf h k) hnull)) _ _
  unfold Console.line
  refine (outlasts_column h _ (hplain _ _)).bind fun _ _ _ => (outlasts_column h _ (hplain _ _)).bind fun _ _ _ => ?_
  refine (outlasts_column h _ hname).bind fun _ _ _ => (outlasts_column h _ hname).bind fun _ _ _ => ?_
  refine (Follows.mapM (R := Eq) (S := fun _ _ => True) ?_ fun k _ hk => hk ▸ hfield k).bind fun _ _ _ => ?_
  · rw [List.forall₂_eq_eq_eq]
    exact congrArg Text.sorted (filterMap_redactEntries h fun _ _ _ => rfl).symm
  · exact (outlasts_appended h _).bind fun _ _ _ => outlasts_pure (outlasts_appended h _) _ _

end Line

end Writing

/-! ### Events -/

section Event

variable {P : Value × Value → Prop} {es : List (Value × Value)} {fields context : List (Text × Value)}

theorem forall_insertEntry {t : Text} {v : Value} (h : ∀ e ∈ es, P e) (hv : P (.text t, v)) :
    ∀ e ∈ Value.insertEntry (.text t) v es, P e := by
  intro e he
  rcases Value.mem_insertEntry_text he with rfl | he
  · exact hv
  · exact h e he

theorem forall_withDefault {t : Text} {v : Value} (h : ∀ e ∈ es, P e) (hv : P (.text t, v)) :
    ∀ e ∈ withDefault es t v, P e := by
  rw [withDefault]
  split
  · exact h
  · exact List.forall_mem_append.2 ⟨h, List.forall_mem_singleton.2 hv⟩

theorem forall_entriesOf (h : ∀ f ∈ fields, P (.text f.1, f.2)) :
    ∀ e ∈ Value.entriesOf (fields.map fun (k, v) => (.text k, v)), P e := by
  rw [Value.entriesOf, List.foldl_map]
  exact List.foldlRecOn fields _ (motive := fun es => ∀ e ∈ es, P e) (List.forall_mem_nil _) fun _ hes f hf =>
    forall_insertEntry hes (h f hf)

/-- An event has no other entries than its fields, its name, the context, its level and its moment. -/
theorem forall_eventEntries {name : Value} (hfields : ∀ f ∈ fields, P (.text f.1, f.2)) (hname : P (.text eventKey, name))
    (hcontext : ∀ f ∈ context, P (.text f.1, f.2)) (htext : ∀ t u : Text, P (.text t, .text u)) (level : Level) :
    ∀ e ∈ eventEntries level name fields context, P e := by
  have hall : ∀ {es : List (Value × Value)}, (∀ e ∈ es, P e) → _ := fun hes =>
    forall_insertEntry (forall_insertEntry
      (List.foldlRecOn context (fun es (f : Text × Value) => withDefault es f.1 f.2) (motive := fun es => ∀ e ∈ es, P e) hes
        fun _ hes f hf => forall_withDefault hes (hcontext f hf))
      (htext "level" level.label)) (htext "timestamp" momentSign)
  have hown := forall_entriesOf hfields
  cases name with
  | null => exact hall hown
  | _ => exact hall (forall_insertEntry hown hname)

/-- An event is readable if its name, its fields and its context are. -/
theorem keysReadable_eventEntries {name : Value} (hfields : ∀ f ∈ fields, ReadableEntry (.text f.1, f.2))
    (hname : KeysReadable name) (hcontext : ∀ f ∈ context, ReadableEntry (.text f.1, f.2)) (level : Level) :
    KeysReadable (.mapping (eventEntries level name fields context)) := by
  have htext : ∀ t u : Text, ReadableEntry (.text t, .text u) := fun t _ => ⟨t, rfl, .inr (keysReadable_of_isLeaf nofun)⟩
  exact keysReadable_mapping.2 (forall_eventEntries hfields ⟨_, rfl, .inr hname⟩ hcontext htext level)

end Event

/-! ### Calls -/

namespace LogSetup

section Call

variable {setup : LogSetup} {level : Level} {entries rs : List (Value × Value)} {name : Value}
variable {fields context : List (Text × Value)} {line : Option Text}

/-- The entries of an event as data, or for a terminal. -/
def rendered (asJson : Bool) (level : Level) (entries : List (Value × Value)) : Except Fault Text :=
  if asJson then Json.write (.mapping entries) else Console.line level entries

theorem write_of_lt (h : level.weight < setup.least) : setup.write level name fields context = .ok none := if_pos h

theorem write_of_plain (hle : ¬ level.weight < setup.least) (h : setup.redacts = false) :
    setup.write level name fields context =
      rendered setup.asJson level (eventEntries level name fields context) >>= fun t => pure (some t) := by
  simp only [write, if_neg hle, h, Bool.false_eq_true, if_false, pure_bind, rendered]
  split <;> rfl

theorem write_of_masked (hle : ¬ level.weight < setup.least) (h : setup.redacts = true) :
    setup.write level name fields context =
      redactEntries (eventEntries level name fields context) >>= fun rs =>
        rendered setup.asJson level rs >>= fun t => pure (some t) := by
  simp only [write, if_neg hle, h, if_true, rendered]
  split <;> rfl

theorem outlasts_rendered (h : redactEntries entries = .ok rs) (asJson : Bool) :
    Outlasts (rendered asJson level entries) (rendered asJson level rs) := by
  have hmapping : redactValue (.mapping entries) = .ok (.mapping rs) := by rw [redactValue, h]
  exact .ite (outlasts_write hmapping) (outlasts_line h level)

/-- The level that a method logs at. -/
def levelOf? (method : Text) : Option Level :=
  (methods.find? fun m => Text.same (Text.ofString m.1) method).map Prod.snd

/-- The fields of a call: the method for exceptions asks for the trace of one if its caller does not. -/
def fieldsOf (method : Text) (fields : List (Text × Value)) : List (Text × Value) :=
  if Text.same method "exception" && !(fields.any fun f => Text.same f.1 "exc_info") then
    fields ++ [(("exc_info" : Text), Value.bool true)]
  else fields

theorem call_eq_write {method : Text} (h : levelOf? method = some level) :
    setup.call method name fields context = setup.write level name (fieldsOf method fields) context := by
  obtain ⟨⟨_, _⟩, hfind, rfl⟩ := Option.map_eq_some_iff.1 h
  rw [call, hfind]
  rfl

theorem exists_level_of_call {method : Text} (h : setup.call method name fields context = .ok line) :
    ∃ level, levelOf? method = some level := by
  unfold call at h
  cases hfind : methods.find? fun m => Text.same (Text.ofString m.1) method with
  | none => simp [hfind] at h
  | some m => exact ⟨m.2, by rw [levelOf?, hfind]; rfl⟩

theorem eq_of_ofData {form threshold off on : Value} {plain masked : LogSetup} (hplain : ofData threshold form off = .ok plain)
    (hmasked : ofData threshold form on = .ok masked) : masked = { plain with redacts := on.truth } := by
  cases threshold <;> simp only [ofData] at hplain hmasked <;> cases hplain <;> cases hmasked <;> rfl

end Call

end LogSetup

/-- Of two loggers that are set up alike but for redaction, the one with redaction writes what the other one can write exactly
if the event is too light for both, or all keys that redaction meets in it are texts. Where it fails, it fails with the fault
of a key that is none. -/
theorem call_survives_redaction_iff {threshold form off on : Value} {plain masked : LogSetup}
    (hplain : LogSetup.ofData threshold form off = .ok plain) (hmasked : LogSetup.ofData threshold form on = .ok masked)
    (hoff : off.truth = false) (hon : on.truth = true) {method : Text} {name : Value} {fields context : List (Text × Value)}
    {line : Option Text} (hline : plain.call method name fields context = .ok line) :
    ∃ level, LogSetup.levelOf? method = some level ∧
      ((∃ line', masked.call method name fields context = .ok line') ↔
        line = none ∨ KeysReadable (.mapping (eventEntries level name (LogSetup.fieldsOf method fields) context))) ∧
      ∀ f, masked.call method name fields context = .error f →
        Unreadable f (.mapping (eventEntries level name (LogSetup.fieldsOf method fields) context)) := by
  obtain ⟨level, hlevel⟩ := LogSetup.exists_level_of_call hline
  refine ⟨level, hlevel, ?_⟩
  have hsame := LogSetup.eq_of_ofData hplain hmasked
  rw [LogSetup.call_eq_write hlevel] at hline ⊢
  generalize hentries : eventEntries level name (LogSetup.fieldsOf method fields) context = entries
  by_cases hlight : level.weight < plain.least
  · obtain rfl : none = line := Except.ok.inj ((LogSetup.write_of_lt hlight).symm.trans hline)
    have hnone : masked.write level name (LogSetup.fieldsOf method fields) context = .ok none :=
      LogSetup.write_of_lt (hsame ▸ hlight)
    simp [hnone]
  · rw [LogSetup.write_of_plain hlight ((LogSetup.redacts_of_ofData hplain).trans hoff), hentries] at hline
    obtain ⟨t, ht, hline⟩ := bind_eq_ok_iff.1 hline
    obtain rfl : some t = line := Except.ok.inj hline
    rw [LogSetup.write_of_masked (hsame ▸ hlight) ((LogSetup.redacts_of_ofData hmasked).trans hon), hentries,
      ← exists_redactEntries_iff]
    cases hrs : redactEntries entries with
    | error f =>
      have hfault := unreadable_of_redactEntries hrs
      simp [hfault]
    | ok rs =>
      obtain ⟨t', ht', -⟩ := LogSetup.outlasts_rendered hrs plain.asJson t ht
      have hwrite : LogSetup.rendered masked.asJson level rs = .ok t' := hsame ▸ ht'
      simp [hwrite]

/-- A table by numbers under a sensitive key is masked, not met. -/
theorem call_survives_redaction_iff_masked :
    ∃ plain masked, LogSetup.ofData (.text "INFO") (.text "json") (.bool false) = .ok plain ∧
      LogSetup.ofData (.text "INFO") (.text "json") (.bool true) = .ok masked ∧
      plain.call "info" (.text "e") [("token", .mapping [(.int 1, .null)])] [] = .ok (some
        "\x7b\"token\": \x7b\"1\": null\x7d, \"event\": \"e\", \"level\": \"info\", \"timestamp\": \"<TS>\"\x7d") ∧
      ∃ line, masked.call "info" (.text "e") [("token", .mapping [(.int 1, .null)])] [] = .ok line := by
  have hplain : LogSetup.ofData (.text "INFO") (.text "json") (.bool false) = .ok ⟨20, true, false⟩ := by decide +kernel
  have hmasked : LogSetup.ofData (.text "INFO") (.text "json") (.bool true) = .ok ⟨20, true, true⟩ := by decide +kernel
  have hcall : LogSetup.call ⟨20, true, false⟩ "info" (.text "e") [("token", .mapping [(.int 1, .null)])] [] = .ok (some
      "\x7b\"token\": \x7b\"1\": null\x7d, \"event\": \"e\", \"level\": \"info\", \"timestamp\": \"<TS>\"\x7d") := by
    decide +kernel
  have hinfo : LogSetup.levelOf? "info" = some Level.info := by decide
  obtain ⟨level, hlevel, hiff, -⟩ := call_survives_redaction_iff hplain hmasked rfl rfl hcall
  obtain rfl : Level.info = level := Option.some.inj (hinfo.symm.trans hlevel)
  have hname : KeysReadable (.text "e") := keysReadable_of_isLeaf nofun
  have hfields : ∀ f ∈ [(("token" : Text), Value.mapping [(.int 1, .null)])], ReadableEntry (.text f.1, f.2) :=
    List.forall_mem_singleton.2 ⟨"token", rfl, .inl isSensitiveKey_token⟩
  exact ⟨_, _, hplain, hmasked, hcall, hiff.2 (.inr (keysReadable_eventEntries hfields hname (List.forall_mem_nil _) _))⟩

/-- A table by numbers is written without redaction, and fails with it. -/
theorem call_fails_by_redaction :
    ∃ plain masked, LogSetup.ofData (.text "INFO") (.text "json") (.bool false) = .ok plain ∧
      LogSetup.ofData (.text "INFO") (.text "json") (.bool true) = .ok masked ∧
      plain.call "info" (.text "e") [("items", .mapping [(.int 1, .text "a")])] [] = .ok (some
        "\x7b\"items\": \x7b\"1\": \"a\"\x7d, \"event\": \"e\", \"level\": \"info\", \"timestamp\": \"<TS>\"\x7d") ∧
      masked.call "info" (.text "e") [("items", .mapping [(.int 1, .text "a")])] [] =
        .error ⟨.missingAttribute, "'int' object has no attribute 'lower'"⟩ := by
  refine ⟨_, _, rfl, rfl, ?_, ?_⟩
  · decide +kernel
  · decide +kernel

end Rulebook
