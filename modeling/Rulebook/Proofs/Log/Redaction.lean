import Rulebook.Log.Call
import Rulebook.Proofs.Value.Entries
import Mathlib.Data.List.Forall2

/-!
# Redaction and secrets

`SameButSecrets` holds of two values that differ only in what stands under sensitive keys, at any depth of mappings.
Redaction makes exactly such values the same, so a logger that redacts writes the same for both. A list or a tuple is
not walked: what stands under a sensitive key inside of one is written as it is.
-/

namespace Rulebook

mutual

/-- Two values that differ only under sensitive keys that mappings alone lead to. -/
inductive SameButSecrets : Value → Value → Prop
  | same (v : Value) : SameButSecrets v v
  | mapping {es fs : List (Value × Value)} (h : SameButSecretEntries es fs) : SameButSecrets (.mapping es) (.mapping fs)

/-- Entries under the same keys; under a sensitive key any two values may stand. -/
inductive SameButSecretEntries : List (Value × Value) → List (Value × Value) → Prop
  | nil : SameButSecretEntries [] []
  | secret {k : Text} (hk : isSensitiveKey k = true) (v w : Value) {es fs : List (Value × Value)}
      (h : SameButSecretEntries es fs) : SameButSecretEntries ((.text k, v) :: es) ((.text k, w) :: fs)
  | shown (k : Value) {v w : Value} (hv : SameButSecrets v w) {es fs : List (Value × Value)}
      (h : SameButSecretEntries es fs) : SameButSecretEntries ((k, v) :: es) ((k, w) :: fs)

end

/-- An entry that may stand for another: under the same key, which is sensitive, or with values that differ only in
secrets. -/
def SameButSecretEntry (e f : Value × Value) : Prop :=
  e.1 = f.1 ∧ ((∃ k, e.1 = .text k ∧ isSensitiveKey k = true) ∨ SameButSecrets e.2 f.2)

theorem sameButSecretEntries_iff {es fs : List (Value × Value)} :
    SameButSecretEntries es fs ↔ List.Forall₂ SameButSecretEntry es fs := by
  constructor
  · intro h
    induction es generalizing fs with
    | nil =>
      cases h
      exact .nil
    | cons e es ih =>
      cases h with
      | secret hk v w h => exact .cons ⟨rfl, .inl ⟨_, rfl, hk⟩⟩ (ih h)
      | shown k hv h => exact .cons ⟨rfl, .inr hv⟩ (ih h)
  · intro h
    induction h with
    | nil => exact .nil
    | @cons e f es fs he _ ih =>
      obtain ⟨k, v⟩ := e
      obtain ⟨_, w⟩ := f
      obtain ⟨rfl, ⟨k, rfl, hk⟩ | hv⟩ := he
      · exact .secret hk v w ih
      · exact .shown k hv ih

/-! ### What redaction leaves -/

theorem isSensitiveKey_of_ascii {key : Text} (h : ∀ c ∈ key, c < 128) :
    isSensitiveKey key = sensitiveParts.any fun part => Text.hasPart part (Text.asciiLower key) := by
  simp only [isSensitiveKey, Text.lower_of_ascii h]

theorem isSensitiveKey_eventKey : isSensitiveKey eventKey = false :=
  (isSensitiveKey_of_ascii (by decide)).trans (by decide)

theorem isSensitiveKey_password : isSensitiveKey "password" = true :=
  (isSensitiveKey_of_ascii (by decide)).trans (by decide)

theorem isSensitiveKey_token : isSensitiveKey "token" = true :=
  (isSensitiveKey_of_ascii (by decide)).trans (by decide)

theorem isMasked_text (t : Text) : isMasked (.text t) = .ok (isSensitiveKey t) := by
  by_cases h : t = eventKey
  · subst h
    simp [isMasked, isSensitiveKey_eventKey]
  · have hsame : Text.same t eventKey = false := by simpa [← Bool.not_eq_true, Text.same_iff] using h
    simp [isMasked, hsame]

mutual

theorem SameButSecrets.redactValue_eq {v w : Value} (h : SameButSecrets v w) : redactValue v = redactValue w := by
  cases h with
  | same => rfl
  | mapping h => rw [redactValue, redactValue, h.redactEntries_eq]

theorem SameButSecretEntries.redactEntries_eq {es fs : List (Value × Value)} (h : SameButSecretEntries es fs) :
    redactEntries es = redactEntries fs := by
  cases h with
  | nil => rfl
  | secret hk v w h => simp only [redactEntries, isMasked_text, hk, h.redactEntries_eq]
  | shown k hv h => simp only [redactEntries, hv.redactValue_eq, h.redactEntries_eq]

end

theorem text_of_isMasked {k : Value} {masked : Bool} (h : isMasked k = .ok masked) :
    ∃ t, k = .text t ∧ isSensitiveKey t = masked := by
  cases k with
  | text t =>
    rw [isMasked_text] at h
    exact ⟨t, rfl, Except.ok.inj h⟩
  | _ => cases h

theorem redactEntries_cons_ok {k v : Value} {es r : List (Value × Value)} (h : redactEntries ((k, v) :: es) = .ok r) :
    ∃ w rs, r = (k, w) :: rs ∧ redactEntries es = .ok rs ∧
      (isMasked k = .ok true ∧ w = mask ∨ isMasked k = .ok false ∧ redactValue v = .ok w) := by
  rw [redactEntries] at h
  cases hk : isMasked k with
  | error f => simp [hk] at h
  | ok masked =>
    cases hes : redactEntries es with
    | error f => cases masked <;> cases hv : redactValue v <;> simp [hk, hes, hv] at h
    | ok rs =>
      cases masked with
      | true =>
        simp only [hk, hes, Except.ok.injEq] at h
        exact ⟨mask, rs, h.symm, rfl, .inl ⟨rfl, rfl⟩⟩
      | false =>
        cases hv : redactValue v with
        | error f => simp [hk, hv] at h
        | ok w =>
          simp only [hk, hv, hes, Except.ok.injEq] at h
          exact ⟨w, rs, h.symm, rfl, .inr ⟨rfl, rfl⟩⟩

theorem redactValue_mapping_ok {es : List (Value × Value)} {r : Value} (h : redactValue (.mapping es) = .ok r) :
    ∃ rs, r = .mapping rs ∧ redactEntries es = .ok rs := by
  rw [redactValue] at h
  cases hes : redactEntries es with
  | error f => simp [hes] at h
  | ok rs =>
    simp only [hes, Except.ok.injEq] at h
    exact ⟨rs, h.symm, rfl⟩

theorem eq_of_redactValue_ne_mapping {v r : Value} (h : redactValue v = .ok r) (hr : ∀ rs, r ≠ .mapping rs) :
    v = r := by
  cases v with
  | mapping es =>
    obtain ⟨rs, rfl, -⟩ := redactValue_mapping_ok h
    exact absurd rfl (hr rs)
  | _ => exact Except.ok.inj (by simpa only [redactValue] using h)

theorem exists_mapping_of_redactValue {v : Value} {rs : List (Value × Value)} (h : redactValue v = .ok (.mapping rs)) :
    ∃ es, v = .mapping es ∧ redactEntries es = .ok rs := by
  cases v with
  | mapping es =>
    obtain ⟨_, ⟨⟩, hes⟩ := redactValue_mapping_ok h
    exact ⟨es, rfl, hes⟩
  | _ => cases (by simpa only [redactValue] using h : Except.ok _ = Except.ok _)

mutual

theorem sameButSecrets_of_redactValue {v w r : Value} (hv : redactValue v = .ok r) (hw : redactValue w = .ok r) :
    SameButSecrets v w := by
  cases v with
  | mapping es =>
    obtain ⟨rs, rfl, hes⟩ := redactValue_mapping_ok hv
    obtain ⟨fs, rfl, hfs⟩ := exists_mapping_of_redactValue hw
    exact .mapping (sameButSecretEntries_of_redactEntries hes hfs)
  | _ =>
    obtain rfl : _ = r := Except.ok.inj (by simpa only [redactValue] using hv)
    obtain rfl := eq_of_redactValue_ne_mapping hw (by simp)
    exact .same _

/-- Redaction makes no other entries the same. -/
theorem sameButSecretEntries_of_redactEntries : ∀ {es fs r : List (Value × Value)}, redactEntries es = .ok r →
    redactEntries fs = .ok r → SameButSecretEntries es fs
  | [], fs, r, hes, hfs => by
    obtain rfl : [] = r := Except.ok.inj (by simpa only [redactEntries] using hes)
    cases fs with
    | nil => exact .nil
    | cons f fs =>
      obtain ⟨_, _, h, -⟩ := redactEntries_cons_ok hfs
      cases h
  | (k, v) :: es, fs, r, hes, hfs => by
    obtain ⟨w, rs, rfl, hrest, hw⟩ := redactEntries_cons_ok hes
    cases fs with
    | nil => cases (by simpa only [redactEntries] using hfs : Except.ok [] = Except.ok _)
    | cons f fs =>
      obtain ⟨k', v'⟩ := f
      obtain ⟨w', rs', h, hrest', hw'⟩ := redactEntries_cons_ok hfs
      obtain ⟨⟨rfl, rfl⟩, rfl⟩ : ((k = k' ∧ w = w') ∧ rs = rs') := by simpa using h
      have ih := sameButSecretEntries_of_redactEntries hrest hrest'
      obtain ⟨hmasked, -⟩ | ⟨hmasked, hv⟩ := hw
      · obtain ⟨t, rfl, ht⟩ := text_of_isMasked hmasked
        exact .secret ht v v' ih
      · obtain ⟨hmasked', -⟩ | ⟨-, hv'⟩ := hw'
        · rw [hmasked] at hmasked'
          cases hmasked'
        · exact .shown k (sameButSecrets_of_redactValue hv hv') ih

end

/-! ### What a logger writes -/

/-- A named value that may stand for another: of the same name, which is sensitive, or with values that differ only in
secrets. -/
def SameButSecretField (f g : Text × Value) : Prop :=
  f.1 = g.1 ∧ (isSensitiveKey f.1 = true ∨ SameButSecrets f.2 g.2)

theorem SameButSecretField.entry {f g : Text × Value} (h : SameButSecretField f g) :
    SameButSecretEntry (.text f.1, f.2) (.text g.1, g.2) :=
  ⟨congrArg Value.text h.1, h.2.imp_left fun hf => ⟨f.1, rfl, hf⟩⟩

theorem SameButSecretEntry.refl (e : Value × Value) : SameButSecretEntry e e := ⟨rfl, .inr (.same e.2)⟩

/-- In place of an entry, under a key that is equal to its own. -/
theorem SameButSecretEntry.at_equal {key v w k : Value} (h : SameButSecretEntry (key, v) (key, w))
    (hk : Value.equal k key = true) : SameButSecretEntry (k, v) (k, w) := by
  obtain ⟨-, ⟨t, rfl, ht⟩ | hv⟩ := h
  · exact ⟨rfl, .inl ⟨t, Value.equal_text_right.1 hk, ht⟩⟩
  · exact ⟨rfl, .inr hv⟩

section Entries

variable {es fs : List (Value × Value)}

theorem isSome_lookup_congr (h : List.Forall₂ SameButSecretEntry es fs) (key : Value) :
    (Value.lookup key es).isSome = (Value.lookup key fs).isSome := by
  induction h with
  | nil => rfl
  | cons he _ ih => rw [Value.isSome_lookup_cons, Value.isSome_lookup_cons, he.1, ih]

theorem sameButSecrets_insertEntry (h : List.Forall₂ SameButSecretEntry es fs) {key v w : Value}
    (hv : SameButSecretEntry (key, v) (key, w)) :
    List.Forall₂ SameButSecretEntry (Value.insertEntry key v es) (Value.insertEntry key w fs) := by
  have hreplace : List.Forall₂ SameButSecretEntry (Value.replaceEntry key v es) (Value.replaceEntry key w fs) := by
    induction h with
    | nil => exact .nil
    | @cons e f es fs he _ ih =>
      rw [Value.replaceEntry_cons, Value.replaceEntry_cons, he.1]
      refine .cons ?_ ih
      split
      · rename_i hk
        exact hv.at_equal hk
      · exact he
  rw [Value.insertEntry, Value.insertEntry, isSome_lookup_congr h]
  split
  · exact hreplace
  · exact List.rel_append h (.cons hv .nil)

theorem sameButSecrets_withDefault (h : List.Forall₂ SameButSecretEntry es fs) {key : Text} {v w : Value}
    (hv : SameButSecretEntry (.text key, v) (.text key, w)) :
    List.Forall₂ SameButSecretEntry (withDefault es key v) (withDefault fs key w) := by
  rw [withDefault, withDefault, Value.lookupText, Value.lookupText, isSome_lookup_congr h]
  split
  · exact h
  · exact List.rel_append h (.cons hv .nil)

end Entries

section Line

variable {fields fields' context context' : List (Text × Value)}

theorem sameButSecrets_entriesOf (h : List.Forall₂ SameButSecretField fields fields') :
    List.Forall₂ SameButSecretEntry (Value.entriesOf (fields.map fun (k, v) => (.text k, v)))
      (Value.entriesOf (fields'.map fun (k, v) => (.text k, v))) := by
  rw [Value.entriesOf, Value.entriesOf, List.foldl_map, List.foldl_map]
  refine List.rel_foldl (P := List.Forall₂ SameButSecretEntry) ?_ .nil h
  intro es fs hes f g hf
  obtain ⟨k, v⟩ := f
  obtain ⟨_, w⟩ := g
  obtain rfl := hf.1
  exact sameButSecrets_insertEntry hes hf.entry

theorem sameButSecrets_withContext {es fs : List (Value × Value)} (h : List.Forall₂ SameButSecretEntry es fs)
    (hcontext : List.Forall₂ SameButSecretField context context') :
    List.Forall₂ SameButSecretEntry (context.foldl (fun es (k, v) => withDefault es k v) es)
      (context'.foldl (fun es (k, v) => withDefault es k v) fs) := by
  refine List.rel_foldl (P := List.Forall₂ SameButSecretEntry) ?_ h hcontext
  intro es fs hes f g hf
  obtain ⟨k, v⟩ := f
  obtain ⟨_, w⟩ := g
  obtain rfl := hf.1
  exact sameButSecrets_withDefault hes hf.entry

theorem sameButSecrets_eventEntries (hfields : List.Forall₂ SameButSecretField fields fields')
    (hcontext : List.Forall₂ SameButSecretField context context') (level : Level) (name : Value) :
    List.Forall₂ SameButSecretEntry (eventEntries level name fields context)
      (eventEntries level name fields' context') := by
  have hown := sameButSecrets_entriesOf hfields
  have hall : ∀ {es fs : List (Value × Value)}, List.Forall₂ SameButSecretEntry es fs → _ := fun h =>
    sameButSecrets_insertEntry
      (sameButSecrets_insertEntry (sameButSecrets_withContext h hcontext) (.refl (.text "level", .text level.label)))
      (.refl (.text "timestamp", .text momentSign))
  cases name with
  | null => exact hall hown
  | _ => exact hall (sameButSecrets_insertEntry hown (.refl (.text eventKey, _)))

namespace LogSetup

variable {setup : LogSetup}

theorem write_congr (hredacts : setup.redacts = true) (hfields : List.Forall₂ SameButSecretField fields fields')
    (hcontext : List.Forall₂ SameButSecretField context context') (level : Level) (name : Value) :
    setup.write level name fields context = setup.write level name fields' context' := by
  have hentries := sameButSecretEntries_iff.2 (sameButSecrets_eventEntries hfields hcontext level name)
  simp only [write, hredacts, if_true, hentries.redactEntries_eq]

theorem call_congr (hredacts : setup.redacts = true) (hfields : List.Forall₂ SameButSecretField fields fields')
    (hcontext : List.Forall₂ SameButSecretField context context') (method : Text) (name : Value) :
    setup.call method name fields context = setup.call method name fields' context' := by
  have hnames : ∀ t : Text, (fields.any fun f => Text.same f.1 t) = fields'.any fun f => Text.same f.1 t := by
    intro t
    induction hfields with
    | nil => rfl
    | cons hf _ ih => rw [List.any_cons, List.any_cons, hf.1, ih]
  have hmarked := List.rel_append hfields (.cons ⟨rfl, .inr (.same (.bool true))⟩ .nil :
    List.Forall₂ SameButSecretField [(("exc_info" : Text), .bool true)] [("exc_info", .bool true)])
  unfold call
  rw [hnames]
  split
  · rfl
  · split
    · exact write_congr hredacts hmarked hcontext _ name
    · exact write_congr hredacts hfields hcontext _ name

theorem redacts_of_ofData {level format redacts : Value} (h : ofData level format redacts = .ok setup) :
    setup.redacts = redacts.truth := by
  cases level <;> simp only [ofData] at h <;> cases h <;> rfl

end LogSetup

/-- A logger that is set up to redact does the same for two calls whose fields and context differ only under sensitive
keys that mappings lead to. Redaction hides no more than that: entries that it makes the same differ only so. -/
theorem call_hides_secrets {level format redacts : Value} {setup : LogSetup}
    (hsetup : LogSetup.ofData level format redacts = .ok setup) (hredacts : redacts.truth = true)
    (hfields : List.Forall₂ SameButSecretField fields fields')
    (hcontext : List.Forall₂ SameButSecretField context context') (method : Text) (name : Value) :
    setup.call method name fields context = setup.call method name fields' context' ∧
      ∀ es fs r, redactEntries es = .ok r → (redactEntries fs = .ok r ↔ SameButSecretEntries es fs) :=
  ⟨LogSetup.call_congr ((LogSetup.redacts_of_ofData hsetup).trans hredacts) hfields hcontext method name,
    fun _ _ _ hes => ⟨sameButSecretEntries_of_redactEntries hes, fun h => h.redactEntries_eq ▸ hes⟩⟩

end Line

/-- A password inside a field and a token in the context, in a line for a terminal. -/
theorem call_hides_secrets_nested :
    isSensitiveKey "password" = true ∧ isSensitiveKey "api_token" = true ∧
      ∃ setup, LogSetup.ofData (.text "INFO") (.text "console") (.bool true) = .ok setup ∧
        setup.call "info" (.text "e") [("variables", .mapping [(.text "password", .text "a")])]
            [("api_token", .int 1)] =
          setup.call "info" (.text "e") [("variables", .mapping [(.text "password", .text "b")])]
            [("api_token", .int 2)] := by
  have htoken : isSensitiveKey "api_token" = true := (isSensitiveKey_of_ascii (by decide)).trans (by decide)
  have hvariables : SameButSecrets (.mapping [(.text "password", .text "a")])
      (.mapping [(.text "password", .text "b")]) :=
    .mapping (.secret isSensitiveKey_password _ _ .nil)
  have hsetup : LogSetup.ofData (.text "INFO") (.text "console") (.bool true) = .ok ⟨20, false, true⟩ := by
    decide +kernel
  refine ⟨isSensitiveKey_password, htoken, _, hsetup, (call_hides_secrets hsetup rfl ?_ ?_ "info" (.text "e")).1⟩
  · exact .cons ⟨rfl, .inr hvariables⟩ .nil
  · exact .cons ⟨rfl, .inl htoken⟩ .nil

/-- A list is not walked: a password inside one is written, and two lines differ in it alone. -/
theorem call_shows_secret_in_list :
    isSensitiveKey "password" = true ∧
      ∃ setup, LogSetup.ofData (.text "INFO") (.text "json") (.bool true) = .ok setup ∧
        setup.call "info" (.text "e") [("items", .list [.mapping [(.text "password", .text "a")]])] [] ≠
          setup.call "info" (.text "e") [("items", .list [.mapping [(.text "password", .text "b")]])] [] := by
  refine ⟨isSensitiveKey_password, _, rfl, ?_⟩
  decide +kernel

end Rulebook
