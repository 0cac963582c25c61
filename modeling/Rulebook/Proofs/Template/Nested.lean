import Rulebook.Proofs.Template.Dotted
import Rulebook.Proofs.Template.Property
import Rulebook.Proofs.Value.Tree

/-!
# Paths into nested mappings

A path of names walks mappings in mappings as a path of keys does, as long as no name on it is a property of mappings or of
texts themselves. Where it misses its last key only, it comes to something undefined, which is refused or stands for the
empty text; where it misses an earlier one, it is refused.
-/

namespace Rulebook.Template
open Text Value

/-- A name that is no property of a mapping or of a text, and no internal one. -/
structure KeyName (n : Text) : Prop where
  ascii : AsciiName n
  isPublic : n.head? ≠ some 0x5f
  notOfText : n ∉ textProperties
  notOfMapping : n ∉ mappingProperties

/-! ### Properties -/

set_option maxRecDepth 4000 in
theorem lt_length_of_mem_textProperties {n : Text} (h : n ∈ textProperties) : 2 < n.length := by
  unfold textProperties at h
  exact forall_mem_wordsOf (p := fun w => 2 < w.length) _ (by decide) n h

set_option maxRecDepth 4000 in
theorem lt_length_of_mem_mappingProperties {n : Text} (h : n ∈ mappingProperties) : 2 < n.length := by
  unfold mappingProperties at h
  exact forall_mem_wordsOf (p := fun w => 2 < w.length) _ (by decide) n h

/-- A short name is no property. -/
theorem KeyName.of_length_le {n : Text} (hn : AsciiName n) (hpublic : n.head? ≠ some 0x5f) (hlength : n.length ≤ 2) :
    KeyName n where
  ascii := hn
  isPublic := hpublic
  notOfText h := (lt_length_of_mem_textProperties h).not_ge hlength
  notOfMapping h := (lt_length_of_mem_mappingProperties h).not_ge hlength

section property
variable {n : Text} {strict : Bool}

theorem safeProperty?_eq_none {v : Value} (hrule : ∀ r, v ≠ .rule r) (h : hasProperty v n = false) :
    safeProperty? strict v n = none := by
  cases v with
  | rule r => exact absurd rfl (hrule r)
  | _ => simp [safeProperty?, h]

/-- A value has no public property but its own ones. -/
theorem hasProperty_eq_false {v : Value} (hpublic : n.head? ≠ some 0x5f) (hown : n ∉ ownProperties v) :
    hasProperty v n = false := by
  rw [← Bool.not_eq_true, hasProperty_iff]
  rintro (h | h)
  · exact hown h
  · exact hpublic (head?_of_mem_commonProperties h)

variable (hn : KeyName n)
include hn

theorem getProperty_mapping (entries : List (Value × Value)) :
    getProperty strict (.mapping entries) n =
      .ok ((lookupText n entries).getD (missingProperty strict (.mapping entries) n)) := by
  have hsafe : safeProperty? strict (.mapping entries) n = none :=
    safeProperty?_eq_none (by simp) (hasProperty_eq_false hn.isPublic hn.notOfMapping)
  rw [getProperty, hsafe]
  simp only [subscript, checkKey, isKey, strictPart?, if_true, ok_bind]
  rw [lookupText]
  cases Value.lookup (.text n) entries with
  | none => rfl
  | some v => rfl

theorem getProperty_text (t : Text) : getProperty strict (.text t) n = .ok (missingProperty strict (.text t) n) := by
  have hsafe : safeProperty? strict (.text t) n = none :=
    safeProperty?_eq_none (by simp) (hasProperty_eq_false hn.isPublic hn.notOfText)
  rw [getProperty, hsafe]
  rfl

theorem getProperty_undefined (message : Text) :
    getProperty strict (undefinedOf strict message) n = .error ⟨.undefinedValue, message⟩ := by
  have hsafe : safeProperty? strict (undefinedOf strict message) n = none := by
    refine safeProperty?_eq_none (by simp [undefinedOf]) ?_
    rw [← Bool.not_eq_true]
    exact fun h => hn.isPublic (head?_of_hasProperty_undefined h)
  rw [getProperty, hsafe]
  rfl

end property

/-! ### Walks -/

/-- Mappings in mappings to any depth, with texts as leaves. -/
abbrev IsNested : Value → Prop := IsTree fun v => ∃ t, v = .text t

theorem isLeaf_of_text {v : Value} (h : ∃ t, v = .text t) : IsLeaf v := by
  obtain ⟨t, rfl⟩ := h
  simp [IsLeaf]

section walk
variable {strict : Bool} {v w : Value} {m : Text} {ns : List Text}

theorem walk_cons (strict : Bool) (v : Value) (m : Text) (ns : List Text) :
    walk strict v (m :: ns) = getProperty strict v m >>= fun w => walk strict w ns := List.foldlM_cons

theorem walk_append (strict : Bool) (v : Value) (ns : List Text) (m : Text) :
    walk strict v (ns ++ [m]) = walk strict v ns >>= fun w => getProperty strict w m := by
  rw [walk, List.foldlM_append]
  simp only [List.foldlM_cons, List.foldlM_nil, bind_pure]
  rfl

/-- A walk along keys comes to where the keys lead. -/
theorem walk_of_at? (hns : ∀ m ∈ ns, KeyName m) (h : at? ns v = some w) : walk strict v ns = .ok w := by
  induction ns generalizing v with
  | nil =>
    obtain rfl := Option.some.inj h
    rfl
  | cons m ns ih =>
    obtain ⟨hm, hns⟩ := List.forall_mem_cons.1 hns
    rcases isLeaf_or_mapping v with hv | ⟨entries, rfl⟩
    · rw [hv.at?_eq_none (List.cons_ne_nil m ns)] at h
      cases h
    · obtain ⟨u, hu, hrest⟩ := Option.bind_eq_some_iff.1 h
      rw [walk_cons, getProperty_mapping hm, hu]
      exact ih hns hrest

theorem walk_undefined (hm : KeyName m) (message : Text) :
    walk strict (undefinedOf strict message) (m :: ns) = .error ⟨.undefinedValue, message⟩ := by
  rw [walk_cons, getProperty_undefined hm]
  rfl

variable (strict) (hv : IsNested v) (hns : ∀ m ∈ ns, KeyName m) (hm : KeyName m)
include hv hns hm

/-- A walk that misses its last key comes to something undefined. -/
theorem walk_missing (h : at? ns v = some w) (hmissing : at? (ns ++ [m]) v = none) :
    ∃ message, walk strict v (ns ++ [m]) = .ok (undefinedOf strict message) := by
  rw [at?_append, h, Option.bind_some] at hmissing
  rw [walk_append, walk_of_at? hns h, ok_bind]
  rcases isLeaf_or_mapping w with hleaf | ⟨entries, rfl⟩
  · cases hv.of_at? (fun _ => isLeaf_of_text) h with
    | leaf ht =>
      obtain ⟨t, rfl⟩ := ht
      exact ⟨_, getProperty_text hm t⟩
    | table => exact absurd rfl (hleaf _)
  · rw [at?_single] at hmissing
    rw [getProperty_mapping hm, hmissing]
    exact ⟨_, rfl⟩

/-- A walk that misses an earlier key is refused. -/
theorem walk_blocked (h : at? ns v = none) :
    ∃ message, walk strict v (ns ++ [m]) = .error ⟨.undefinedValue, message⟩ := by
  induction ns using List.reverseRecOn generalizing m with
  | nil => cases h
  | append_singleton ns k ih =>
    have hkeys : ∀ m ∈ ns, KeyName m := fun m hm => hns m (List.mem_append_left [k] hm)
    have hk : KeyName k := hns k (List.mem_append_right ns (List.mem_singleton_self k))
    rw [walk_append]
    cases hat : at? ns v with
    | none =>
      obtain ⟨message, hmessage⟩ := ih hkeys hk hat
      exact ⟨message, by rw [hmessage]; rfl⟩
    | some u =>
      obtain ⟨message, hmessage⟩ := walk_missing strict hv hkeys hk hat h
      rw [hmessage, ok_bind, getProperty_undefined hm]
      exact ⟨message, rfl⟩

omit hv in
/-- The same where the path starts with the name of an entry, which may be missing itself. -/
theorem walk_getD_blocked {entries : List (Value × Value)} {n : Text} (htree : IsNested (.mapping entries))
    (h : at? (n :: ns) (.mapping entries) = none) (message : Text) :
    ∃ message', walk strict ((lookupText n entries).getD (undefinedOf strict message)) (ns ++ [m]) =
      .error ⟨.undefinedValue, message'⟩ := by
  cases hlookup : lookupText n entries with
  | some u =>
    have hu : IsNested u := .of_lookupText (htree.of_mapping fun _ => isLeaf_of_text).2 hlookup
    rw [at?_cons_mapping, hlookup, Option.bind_some] at h
    exact walk_blocked strict hu hns hm h
  | none =>
    -- the first step, to a key of the path or to the last one, is from something undefined
    cases ns with
    | nil => exact ⟨message, walk_undefined hm message⟩
    | cons k ns => exact ⟨message, walk_undefined (hns k List.mem_cons_self) message⟩

end walk

end Rulebook.Template

namespace Rulebook
open Template Value

section interpolation
variable {entries : List (Value × Value)} {n : Text}

/-- A reference along a path walks on from the value of its first name, or from something undefined. -/
theorem renderTemplate_path {ns : List Text} (htree : IsNested (.mapping entries))
    (hself : Value.lookupText "self" entries = none) (hn : PlainName n) (hunknown : n ∉ globalNames)
    (hns : ∀ k ∈ ns, KeyName k) (policy : UndefinedPolicy) :
    renderTemplate policy (toTemplate (variableToken (dotted n ns))) (.mapping entries) =
      walk (policy == .strict)
        ((Value.lookupText n entries).getD (undefinedOf (policy == .strict) (Text.display n ++ " is undefined"))) ns >>=
          printed := by
  have hentries := renderVariables_of_keyedByTexts (htree.of_mapping fun _ => isLeaf_of_text).1.keyed hself
  have hascii : ∀ k ∈ ns, AsciiName k := fun k hk => (hns k hk).ascii
  rw [toTemplate_dotted hn.toAsciiName hascii, renderTemplate_dotted hn hascii hentries, Surroundings.valueOf,
    Surroundings.value?, globalValue?_eq_none hn hunknown, Option.or_none]

variable {m : Text} {ns : List Text}

/-- **References with dots walk nested mappings.** Over mappings in mappings to any depth with texts as leaves, a reference
whose path leads to a text stands for that text. Where only the last name of the path is missing, the reference is refused
under the strict policy and stands for the empty text under the empty one. Where a name before it is missing, the
reference is refused under both. -/
theorem interpolate_nested (htree : IsNested (.mapping entries)) (hself : Value.lookupText "self" entries = none)
    (hn : PlainName n) (hunknown : n ∉ globalNames) (hns : ∀ k ∈ ns ++ [m], KeyName k) :
    (∀ t, at? (n :: (ns ++ [m])) (.mapping entries) = some (.text t) → ∀ policy,
      interpolate policy (variableToken (dotted n (ns ++ [m]))) (.mapping entries) = pure t) ∧
    ((at? (n :: ns) (.mapping entries)).isSome → at? (n :: (ns ++ [m])) (.mapping entries) = none →
      (∃ message, (interpolate .strict (variableToken (dotted n (ns ++ [m]))) (.mapping entries)).result =
        .error (.logic (.reference (variableToken (dotted n (ns ++ [m]))) ⟨.undefinedValue, message⟩))) ∧
      interpolate .empty (variableToken (dotted n (ns ++ [m]))) (.mapping entries) = pure []) ∧
    (at? (n :: ns) (.mapping entries) = none → ∀ policy,
      ∃ message, (interpolate policy (variableToken (dotted n (ns ++ [m]))) (.mapping entries)).result =
        .error (.logic (.reference (variableToken (dotted n (ns ++ [m]))) ⟨.undefinedValue, message⟩))) := by
  have hreference : isReference (variableToken (dotted n (ns ++ [m]))) = true := rfl
  have hrender := renderTemplate_path htree hself hn hunknown hns
  have hbefore : ∀ k ∈ ns, KeyName k := fun k hk => hns k (List.mem_append_left [m] hk)
  have hm : KeyName m := hns m (List.mem_append_right ns (List.mem_singleton_self m))
  refine ⟨fun t hat policy => ?_, fun hat hmissing => ?_, fun hat policy => ?_⟩
  · obtain ⟨v, hv, hrest⟩ := Option.bind_eq_some_iff.1 hat
    refine interpolate_of_renderTemplate_ok hreference ?_
    rw [hrender, hv, Option.getD_some, walk_of_at? hns hrest]
    rfl
  · obtain ⟨w, hw⟩ := Option.isSome_iff_exists.1 hat
    obtain ⟨v, hv, hrest⟩ := Option.bind_eq_some_iff.1 hw
    have hbelow : IsNested v := .of_lookupText (htree.of_mapping fun _ => isLeaf_of_text).2 hv
    rw [at?_cons_mapping, hv, Option.bind_some] at hmissing
    have hwalk := fun strict => walk_missing strict hbelow hbefore hm hrest hmissing
    constructor
    · obtain ⟨message, hmessage⟩ := hwalk true
      refine ⟨message, result_interpolate_of_renderTemplate_error hreference ?_ rfl⟩
      rw [hrender, hv, Option.getD_some, show (UndefinedPolicy.strict == .strict) = true from rfl, hmessage]
      rfl
    · obtain ⟨message, hmessage⟩ := hwalk false
      refine interpolate_of_renderTemplate_ok hreference ?_
      rw [hrender, hv, Option.getD_some, show (UndefinedPolicy.empty == .strict) = false from rfl, hmessage]
      rfl
  · obtain ⟨message, hmessage⟩ :=
      walk_getD_blocked (policy == .strict) hbefore hm htree hat (Text.display n ++ " is undefined")
    refine ⟨message, result_interpolate_of_renderTemplate_error hreference ?_ rfl⟩
    rw [hrender, hmessage]
    rfl

/-- A text two mappings deep. -/
def nestedKeys : List (Value × Value) := [(.text "x", .mapping [(.text "y", .mapping [(.text "y", .text "up")])])]

theorem interpolate_nested_keys :
    (∀ policy, interpolate policy "$x.y.y" (.mapping nestedKeys) = pure ("up" : Text)) ∧
    (∃ message, (interpolate .strict "$x.y.x" (.mapping nestedKeys)).result =
      .error (.logic (.reference "$x.y.x" ⟨.undefinedValue, message⟩))) ∧
    interpolate .empty "$x.y.x" (.mapping nestedKeys) = pure [] ∧
    ∀ policy, ∃ message, (interpolate policy "$x.x.y" (.mapping nestedKeys)).result =
      .error (.logic (.reference "$x.x.y" ⟨.undefinedValue, message⟩)) := by
  have htree : IsNested (.mapping nestedKeys) := by
    refine .of_pairs [("x", _)] (by decide) (List.forall_mem_singleton.2 ?_)
    refine .of_pairs [("y", _)] (by decide) (List.forall_mem_singleton.2 ?_)
    exact .of_leaves [("y", _)] (by decide) (by simp)
  have hself : Value.lookupText "self" nestedKeys = none := by decide +kernel
  have hunknown : ("x" : Text) ∉ globalNames := by decide
  have hx : KeyName "x" := .of_length_le plainName_x.toAsciiName (by decide) (by decide)
  have hy : KeyName "y" := .of_length_le plainName_y.toAsciiName (by decide) (by decide)
  have hpair : ∀ m k : Text, KeyName m → KeyName k → ∀ l ∈ [m] ++ [k], KeyName l := by
    intro m k hm hk
    simp [hm, hk]
  have hnone := interpolate_nested htree hself plainName_x hunknown (hpair _ _ hy hy)
  have hlast := interpolate_nested htree hself plainName_x hunknown (hpair _ _ hy hx)
  have hbefore := interpolate_nested htree hself plainName_x hunknown (hpair _ _ hx hy)
  have hne : Text.same (Text.ofString "x") (Text.ofString "y") = false ∧
      Text.same (Text.ofString "y") (Text.ofString "x") = false := by decide
  refine ⟨hnone.1 "up" ?_, (hlast.2.1 ?_ ?_).1, (hlast.2.1 ?_ ?_).2, hbefore.2.2 ?_⟩
  all_goals simp [nestedKeys, at?, lookupText, lookup, equal, hne]

end interpolation

end Rulebook
