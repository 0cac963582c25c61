import Rulebook.Proofs.Leniency.Follows
import Rulebook.Proofs.Log.Redaction
import Rulebook.Proofs.Value.Tree

/-!
# What redaction changes

Redaction walks the mappings that keys without secrets lead to, and needs those to be keyed by texts. It keeps the keys of
each of them in their order, puts the mask at the first sensitive key on a way and leaves every other leaf as it is. What
comes out has nothing left to mask.
-/

namespace Rulebook

open Value (at? lookupText IsLeaf IsTree)

/-- No key of the path is sensitive. -/
def Harmless (path : List Text) : Prop := ∀ key ∈ path, isSensitiveKey key = false

/-- The path leads to a value by entries of mappings. -/
inductive LeadsTo : List Text → Value → Value → Prop
  | here (v : Value) : LeadsTo [] v v
  | through {key : Text} {path : List Text} {es : List (Value × Value)} {v w : Value} (hmem : (.text key, v) ∈ es)
      (h : LeadsTo path v w) : LeadsTo (key :: path) (.mapping es) w

/-- All mappings that harmless paths lead to are keyed by texts. -/
def KeysReadable (v : Value) : Prop := ∀ path es, Harmless path → LeadsTo path v (.mapping es) → KeyedByTexts es

/-- An entry whose key is a text, with a value that is readable unless the key is sensitive. -/
def ReadableEntry (e : Value × Value) : Prop := ∃ t, e.1 = .text t ∧ (isSensitiveKey t = true ∨ KeysReadable e.2)

/-- A harmless path leads to a mapping with a key that cannot be judged. -/
def Unreadable (f : Fault) (v : Value) : Prop :=
  ∃ path es, Harmless path ∧ LeadsTo path v (.mapping es) ∧ ∃ e ∈ es, soundsSecret e.1 = .error f

theorem harmless_nil : Harmless [] := nofun

theorem harmless_cons {key : Text} {path : List Text} :
    Harmless (key :: path) ↔ isSensitiveKey key = false ∧ Harmless path := List.forall_mem_cons

/-! ### Which values can be redacted -/

section Readable

variable {k v w : Value} {es rs : List (Value × Value)}

theorem redactValue_of_isLeaf (h : IsLeaf v) : redactValue v = .ok v := by
  cases v with
  | mapping es => exact absurd rfl (h es)
  | _ => simp only [redactValue]

theorem eq_nil_of_redactEntries (h : redactEntries [] = .ok rs) : rs = [] := by
  rw [redactEntries] at h
  exact (Except.ok.inj h).symm

/-- Redaction leaves what is no mapping, and makes mappings of mappings. -/
theorem redactValue_cases (h : redactValue v = .ok w) :
    (IsLeaf v ∧ w = v) ∨ ∃ es rs, v = .mapping es ∧ w = .mapping rs ∧ redactEntries es = .ok rs := by
  rcases Value.isLeaf_or_mapping v with hv | ⟨es, rfl⟩
  · rw [redactValue_of_isLeaf hv] at h
    exact .inl ⟨hv, (Except.ok.inj h).symm⟩
  · obtain ⟨rs, rfl, hrs⟩ := redactValue_mapping_ok h
    exact .inr ⟨es, rs, rfl, rfl, hrs⟩

theorem keysReadable_of_isLeaf (h : IsLeaf v) : KeysReadable v := by
  intro path es _ hleads
  cases hleads with
  | here => exact absurd rfl (h es)
  | through => exact absurd rfl (h _)

theorem keysReadable_mapping : KeysReadable (.mapping es) ↔ ∀ e ∈ es, ReadableEntry e := by
  constructor
  · intro h e he
    obtain ⟨t, ht⟩ := h [] es harmless_nil (.here _) e he
    refine ⟨t, ht, ?_⟩
    cases hkey : isSensitiveKey t with
    | true => exact .inl rfl
    | false =>
      have hmem : (.text t, e.2) ∈ es := ht ▸ he
      exact .inr fun path fs hpath hleads => h (t :: path) fs (harmless_cons.2 ⟨hkey, hpath⟩) (.through hmem hleads)
  · intro h path fs hpath hleads
    cases hleads with
    | here => exact fun e he => (h e he).imp fun _ ht => ht.1
    | through hmem hleads =>
      obtain ⟨hkey, hrest⟩ := harmless_cons.1 hpath
      obtain ⟨t, ht, hv⟩ := h _ hmem
      obtain rfl := Value.text.inj ht
      exact hv.resolve_left (by simp [hkey]) _ fs hrest hleads

mutual

/-- A value can be redacted if the keys that redaction meets are texts. -/
theorem exists_redactValue_iff (v : Value) : (∃ w, redactValue v = .ok w) ↔ KeysReadable v := by
  cases v with
  | mapping es =>
    rw [← exists_redactEntries_iff es]
    constructor
    · rintro ⟨w, hw⟩
      obtain ⟨rs, -, hrs⟩ := redactValue_mapping_ok hw
      exact ⟨rs, hrs⟩
    · rintro ⟨rs, hrs⟩
      exact ⟨.mapping rs, by rw [redactValue, hrs]⟩
  | _ => exact iff_of_true ⟨_, redactValue_of_isLeaf nofun⟩ (keysReadable_of_isLeaf nofun)

theorem exists_redactEntries_iff (es : List (Value × Value)) :
    (∃ rs, redactEntries es = .ok rs) ↔ KeysReadable (.mapping es) := by
  cases es with
  | nil => exact iff_of_true ⟨[], by rw [redactEntries]⟩ (keysReadable_mapping.2 nofun)
  | cons e es =>
    obtain ⟨k, v⟩ := e
    rw [keysReadable_mapping, List.forall_mem_cons, ← keysReadable_mapping, ← exists_redactEntries_iff es, ReadableEntry,
      ← exists_redactValue_iff v]
    constructor
    · rintro ⟨_, h⟩
      obtain ⟨w, rs, -, hrs, ⟨hmasked, -⟩ | ⟨hmasked, hw⟩⟩ := redactEntries_cons_ok h
      · obtain ⟨t, rfl, ht⟩ := text_of_isMasked hmasked
        exact ⟨⟨t, rfl, .inl ht⟩, rs, hrs⟩
      · obtain ⟨t, rfl, -⟩ := text_of_isMasked hmasked
        exact ⟨⟨t, rfl, .inr ⟨w, hw⟩⟩, rs, hrs⟩
    · rintro ⟨⟨t, rfl, hv⟩, rs, hrs⟩
      rw [redactEntries, isMasked_text, hrs]
      cases hkey : isSensitiveKey t with
      | true => exact ⟨_, rfl⟩
      | false =>
        obtain ⟨w, hw⟩ := hv.resolve_left (by simp [hkey])
        exact ⟨_, by rw [hw]⟩

end

/-! ### Why a value cannot be redacted -/

theorem soundsSecret_of_isMasked {f : Fault} (h : isMasked k = .error f) : soundsSecret k = .error f := by
  cases k with
  | text t => cases h
  | _ => exact h

variable {f : Fault}

theorem Unreadable.of_first (h : soundsSecret k = .error f) : Unreadable f (.mapping ((k, v) :: es)) :=
  ⟨[], _, harmless_nil, .here _, _, List.mem_cons_self, h⟩

theorem Unreadable.behind {t : Text} (h : Unreadable f v) (ht : isSensitiveKey t = false) :
    Unreadable f (.mapping ((.text t, v) :: es)) := by
  obtain ⟨path, fs, hpath, hleads, hkey⟩ := h
  exact ⟨t :: path, fs, harmless_cons.2 ⟨ht, hpath⟩, .through List.mem_cons_self hleads, hkey⟩

theorem Unreadable.of_rest {e : Value × Value} (h : Unreadable f (.mapping es)) : Unreadable f (.mapping (e :: es)) := by
  obtain ⟨path, fs, hpath, hleads, e', he', hkey⟩ := h
  cases hleads with
  | here => exact ⟨[], _, harmless_nil, .here _, e', List.mem_cons_of_mem e he', hkey⟩
  | through hmem hleads => exact ⟨_, fs, hpath, .through (List.mem_cons_of_mem e hmem) hleads, e', he', hkey⟩

theorem redactEntries_cons_error (h : redactEntries ((k, v) :: es) = .error f) :
    isMasked k = .error f ∨ isMasked k = .ok false ∧ redactValue v = .error f ∨
      redactEntries es = .error f := by
  rw [redactEntries] at h
  cases hk : isMasked k with
  | error f' => exact .inl (by simpa [hk] using h)
  | ok masked =>
    cases hes : redactEntries es with
    | error f' => cases masked <;> cases hv : redactValue v <;> simp_all
    | ok rs => cases masked <;> cases hv : redactValue v <;> simp_all

mutual

/-- A value that cannot be redacted holds a key that cannot be judged. -/
theorem unreadable_of_redactValue {v : Value} {f : Fault} (h : redactValue v = .error f) : Unreadable f v := by
  cases v with
  | mapping es =>
    refine unreadable_of_redactEntries ?_
    rw [redactValue] at h
    cases hes : redactEntries es with
    | ok rs => simp [hes] at h
    | error f' => simpa [hes] using h
  | _ => simp [redactValue] at h

theorem unreadable_of_redactEntries {es : List (Value × Value)} {f : Fault} (h : redactEntries es = .error f) :
    Unreadable f (.mapping es) := by
  cases es with
  | nil => simp [redactEntries] at h
  | cons e es =>
    obtain ⟨k, v⟩ := e
    rcases redactEntries_cons_error h with hk | ⟨hk, hv⟩ | hes
    · exact .of_first (soundsSecret_of_isMasked hk)
    · obtain ⟨t, rfl, ht⟩ := text_of_isMasked hk
      exact (unreadable_of_redactValue hv).behind ht
    · exact (unreadable_of_redactEntries hes).of_rest

end

end Readable

/-! ### What comes out -/

section Outcome

variable {t : Text} {v w : Value} {es rs : List (Value × Value)}

theorem keys_redactEntries (h : redactEntries es = .ok rs) : rs.map Prod.fst = es.map Prod.fst := by
  induction es generalizing rs with
  | nil =>
    obtain rfl := eq_nil_of_redactEntries h
    rfl
  | cons e es ih =>
    obtain ⟨w, rs, rfl, hrs, -⟩ := redactEntries_cons_ok h
    rw [List.map_cons, List.map_cons, ih hrs]

/-- Each entry stands for one with its key, whose value it has redacted or masked. -/
theorem exists_mem_of_redactEntries {f : Value × Value} (h : redactEntries es = .ok rs) (hf : f ∈ rs) :
    ∃ e ∈ es, e.1 = f.1 ∧ (f.2 = mask ∨ redactValue e.2 = .ok f.2) := by
  induction es generalizing rs with
  | nil =>
    obtain rfl := eq_nil_of_redactEntries h
    cases hf
  | cons e es ih =>
    obtain ⟨w, rs, rfl, hrs, hw⟩ := redactEntries_cons_ok h
    rcases List.mem_cons.1 hf with rfl | hf
    · exact ⟨e, List.mem_cons_self, rfl, hw.imp And.right And.right⟩
    · obtain ⟨e', he', hrel⟩ := ih hrs hf
      exact ⟨e', List.mem_cons_of_mem e he', hrel⟩

theorem lookupText_redactEntries_sensitive (h : redactEntries es = .ok rs) (ht : isSensitiveKey t = true) :
    lookupText t rs = (lookupText t es).map fun _ => mask := by
  induction es generalizing rs with
  | nil =>
    obtain rfl := eq_nil_of_redactEntries h
    rfl
  | cons e es ih =>
    obtain ⟨w, rs, rfl, hrs, hw⟩ := redactEntries_cons_ok h
    rw [Value.lookupText_cons, Value.lookupText_cons, ih hrs]
    split
    · next hkey =>
      rcases hw with ⟨-, rfl⟩ | ⟨hmasked, -⟩
      · rfl
      · rw [Value.equal_text_right.1 hkey, isMasked_text, ht] at hmasked
        cases hmasked
    · rfl

theorem lookupText_redactEntries_harmless (h : redactEntries es = .ok rs) (ht : isSensitiveKey t = false) :
    Option.Rel (fun v w => redactValue v = .ok w) (lookupText t es) (lookupText t rs) := by
  induction es generalizing rs with
  | nil =>
    obtain rfl := eq_nil_of_redactEntries h
    exact .none
  | cons e es ih =>
    obtain ⟨w, rs, rfl, hrs, hw⟩ := redactEntries_cons_ok h
    rw [Value.lookupText_cons, Value.lookupText_cons]
    split
    · next hkey =>
      rcases hw with ⟨hmasked, -⟩ | ⟨-, hw⟩
      · rw [Value.equal_text_right.1 hkey, isMasked_text, ht] at hmasked
        cases hmasked
      · exact .some hw
    · exact ih hrs

theorem at?_redactValue_harmless {path : List Text} (hpath : Harmless path) (h : redactValue v = .ok w) :
    Option.Rel (fun v w => redactValue v = .ok w) (at? path v) (at? path w) := by
  induction path generalizing v w with
  | nil => exact .some h
  | cons key path ih =>
    obtain ⟨hkey, hpath⟩ := harmless_cons.1 hpath
    rcases redactValue_cases h with ⟨hv, rfl⟩ | ⟨es, rs, rfl, rfl, hrs⟩
    · rw [hv.at?_eq_none (List.cons_ne_nil key path)]
      exact .none
    · rw [Value.at?_cons_mapping, Value.at?_cons_mapping]
      exact optionRel_bind (lookupText_redactEntries_harmless hrs hkey) fun _ _ hab => ih hpath hab

theorem isLeaf_mask : IsLeaf mask := nofun

/-- At a sensitive key there is the mask, with nothing below. -/
theorem at?_cons_redactValue_sensitive (rest : List Text) (ht : isSensitiveKey t = true) (h : redactValue v = .ok w) :
    at? (t :: rest) w = if rest = [] then (at? [t] v).map fun _ => mask else none := by
  rcases redactValue_cases h with ⟨hv, rfl⟩ | ⟨es, rs, rfl, rfl, hrs⟩
  · rw [hv.at?_eq_none (List.cons_ne_nil t rest), hv.at?_eq_none (List.cons_ne_nil t [])]
    simp
  · rw [Value.at?_cons_mapping, Value.at?_single, lookupText_redactEntries_sensitive hrs ht]
    cases rest with
    | nil => cases lookupText t es <;> rfl
    | cons key rest =>
      have hbelow := isLeaf_mask.at?_eq_none (List.cons_ne_nil key rest)
      cases lookupText t es with
      | none => rfl
      | some _ => exact hbelow

theorem at?_redactValue_sensitive {path rest : List Text} (hpath : Harmless path) (ht : isSensitiveKey t = true)
    (h : redactValue v = .ok w) :
    at? (path ++ t :: rest) w = if rest = [] then (at? (path ++ [t]) v).map fun _ => mask else none := by
  rw [Value.at?_append, Value.at?_append]
  rcases optionRel_cases (at?_redactValue_harmless hpath h) with ⟨hv, hw⟩ | ⟨a, b, hv, hw, hab⟩
  · rw [hv, hw]
    simp
  · rw [hv, hw, Option.bind_some, Option.bind_some]
    exact at?_cons_redactValue_sensitive rest ht hab

mutual

theorem redactValue_of_redactValue {v w : Value} (h : redactValue v = .ok w) : redactValue w = .ok w := by
  cases v with
  | mapping es =>
    obtain ⟨rs, rfl, hrs⟩ := redactValue_mapping_ok h
    rw [redactValue, redactEntries_of_redactEntries hrs]
  | _ =>
    have hw : _ = w := Except.ok.inj (by simpa only [redactValue] using h)
    rw [← hw]
    exact redactValue_of_isLeaf nofun

theorem redactEntries_of_redactEntries {es rs : List (Value × Value)} (h : redactEntries es = .ok rs) :
    redactEntries rs = .ok rs := by
  cases es with
  | nil =>
    obtain rfl := eq_nil_of_redactEntries h
    rfl
  | cons e es =>
    obtain ⟨k, v⟩ := e
    obtain ⟨w, rs, rfl, hrs, ⟨hmasked, rfl⟩ | ⟨hmasked, hw⟩⟩ := redactEntries_cons_ok h
    · rw [redactEntries, hmasked, redactEntries_of_redactEntries hrs]
    · rw [redactEntries, hmasked, redactValue_of_redactValue hw, redactEntries_of_redactEntries hrs]

end

end Outcome

/-! ### The whole of a table -/

/-- The same leaf, or mappings with the same keys in the same order. -/
inductive SameKeys : Value → Value → Prop
  | leaf {v : Value} (h : IsLeaf v) : SameKeys v v
  | mapping {es rs : List (Value × Value)} (h : rs.map Prod.fst = es.map Prod.fst) : SameKeys (.mapping es) (.mapping rs)

theorem sameKeys_redactValue {v w : Value} (h : redactValue v = .ok w) : SameKeys v w := by
  rcases redactValue_cases h with ⟨hv, rfl⟩ | ⟨es, rs, rfl, rfl, hrs⟩
  · exact .leaf hv
  · exact .mapping (keys_redactEntries hrs)

theorem isTree_of_leadsTo {path : List Text} {v w : Value} (h : LeadsTo path v w) (hv : IsTree IsLeaf v) :
    IsTree IsLeaf w := by
  induction h with
  | here => exact hv
  | through hmem _ ih => exact ih ((hv.of_mapping fun _ => id).2 _ hmem)

theorem keysReadable_of_isTree {v : Value} (h : IsTree IsLeaf v) : KeysReadable v := fun _ _ _ hleads =>
  ((isTree_of_leadsTo hleads h).of_mapping fun _ => id).1.keyed

/-- Redaction of tables in tables, to any depth: at every harmless path the same leaf stands as before, or the same keys in the
same order, or still nothing; where a sensitive key ends a harmless path the mask stands for whatever stood there, and
below it nothing. A second redaction changes nothing. -/
theorem redact_masks_exactly {entries : List (Value × Value)} (htree : IsTree IsLeaf (.mapping entries)) :
    ∃ result, redact (.mapping entries) = .ok (.mapping result) ∧
      (∀ path, Harmless path → Option.Rel SameKeys (at? path (.mapping entries)) (at? path (.mapping result))) ∧
      (∀ path key rest, Harmless path → isSensitiveKey key = true → at? (path ++ key :: rest) (.mapping result) =
        if rest = [] then (at? (path ++ [key]) (.mapping entries)).map fun _ => mask else none) ∧
      redact (.mapping result) = .ok (.mapping result) := by
  obtain ⟨w, hw⟩ := (exists_redactValue_iff _).2 (keysReadable_of_isTree htree)
  obtain ⟨result, rfl, -⟩ := redactValue_mapping_ok hw
  refine ⟨result, hw, fun path hpath => ?_, fun path key rest hpath hkey => ?_, redactValue_of_redactValue hw⟩
  · exact optionRel_mono (at?_redactValue_harmless hpath hw) fun _ _ hab => sameKeys_redactValue hab
  · exact at?_redactValue_sensitive hpath hkey hw

/-- A password below a harmless key, and a mapping under a sensitive one. -/
theorem redact_masks_exactly_nested :
    IsTree IsLeaf (.mapping [(.text "a", .mapping [(.text "password", .text "p")]), (.text "token", .mapping [])]) ∧
      Harmless ["a"] ∧ isSensitiveKey "password" = true ∧
      ∃ result, redact (.mapping [(.text "a", .mapping [(.text "password", .text "p")]), (.text "token", .mapping [])]) =
          .ok (.mapping result) ∧
        at? ["a", "password"] (.mapping result) = some mask ∧ at? ["token", "c"] (.mapping result) = none := by
  have hbelow : IsTree IsLeaf (.mapping [(.text "password", .text "p")]) :=
    .of_leaves [("password", .text "p")] (by decide) (by simp [IsLeaf])
  have htree : IsTree IsLeaf
      (.mapping [(.text "a", .mapping [(.text "password", .text "p")]), (.text "token", .mapping [])]) := by
    refine .of_pairs [("a", _), ("token", _)] (by decide) (List.forall_mem_cons.2 ⟨hbelow, ?_⟩)
    exact List.forall_mem_singleton.2 (.of_leaves [] (by simp) (by simp))
  have ha : Harmless ["a"] := by
    have hharmless : isSensitiveKey "a" = false := (isSensitiveKey_of_ascii (by decide)).trans (by decide)
    exact List.forall_mem_singleton.2 hharmless
  obtain ⟨result, hresult, -, hmasked, -⟩ := redact_masks_exactly htree
  refine ⟨htree, ha, isSensitiveKey_password, result, hresult, ?_,
    hmasked [] "token" ["c"] harmless_nil isSensitiveKey_token⟩
  have hbefore : at? ["a", "password"]
      (.mapping [(.text "a", .mapping [(.text "password", .text "p")]), (.text "token", .mapping [])]) =
        some (.text "p") := by
    simp [at?, Value.lookupText_cons, Value.equal_text_self]
  exact (hmasked ["a"] "password" [] ha isSensitiveKey_password).trans (congrArg (Option.map fun _ => mask) hbefore)

end Rulebook
