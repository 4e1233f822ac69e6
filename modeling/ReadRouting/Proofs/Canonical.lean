import ReadRouting.Proofs.Rendering

set_option autoImplicit false
set_option relaxedAutoImplicit false

/-!
# Canonical documents

A document that names a mode and, if the mode is not that of the primary, may hold a list of tag
documents, stands for a read preference. Writing that one as a document gives an equal document
again: whatever kind of mapping it was, whether the tag documents stood in a list or in a tuple, and
whichever of the two keys came first. Inside, nothing is rearranged: the tag documents come in their
order, and in each of them the names and values come in theirs.

## Main definitions

* `ReadRouting.Value.IsTagValue` — the values that tags have in canonical documents.
* `ReadRouting.Mapping.IsTagDocument` — a mapping from names to such values.
* `ReadRouting.Mapping.IsCanonical` — the document of a mode and of tag documents.

## Main results

* `ReadRouting.Mapping.IsTagDocument.slots_rendered` — a tag document is written again slot by slot.
* `ReadRouting.Preference.toDocument_ofDocument` — a canonical document is read, and written again.
-/

namespace ReadRouting

/-! ## Tag documents -/

/-- The value is a text, a truth value, a number or null; a number can be compared. -/
def Value.IsTagValue : Value → Prop
  | .null => True
  | .bool _ => True
  | .int _ => True
  | .float x _ => Binary64.exact x ≠ .nan
  | .text _ => True
  | _ => False

/-- Such a value is a scalar that is alike itself. -/
lemma Value.IsTagValue.exists_scalar {v : Value} (h : v.IsTagValue) :
    ∃ x, v.scalar? = some x ∧ x ≠ .number .nan := by
  cases v with
  | null => exact ⟨_, rfl, nofun⟩
  | bool b => exact ⟨_, rfl, nofun⟩
  | int n => exact ⟨_, rfl, nofun⟩
  | float x i => exact ⟨_, rfl, fun hx => h (Scalar.number.inj hx)⟩
  | text s => exact ⟨_, rfl, nofun⟩
  | _ => exact h.elim

/-- Such a value has a key. -/
lemma Value.IsTagValue.isHashable {v : Value} (h : v.IsTagValue) : v.isHashable = true := by
  cases v with
  | null => rfl
  | bool b => rfl
  | int n => rfl
  | float x i => rfl
  | text s => rfl
  | _ => exact h.elim

namespace Mapping

/-- A mapping from texts to values that tags can have. -/
structure IsTagDocument (n : Mapping) : Prop where
  keyed : n.IsStringKeyed
  values : ∀ s ∈ n.slots, ∀ v, s.value = some v → v.IsTagValue

variable {n : Mapping}

/-- The slots of a mapping from texts hold its entries. -/
lemma IsStringKeyed.slots_eq (h : n.IsStringKeyed) :
    n.slots = n.entries.map fun e => ⟨e.1, some e.2⟩ := by
  have htext := h.text
  unfold entries
  generalize n.slots = slots at htext ⊢
  induction slots with
  | nil => rfl
  | cons s rest ih =>
    obtain ⟨⟨name, v, rfl⟩, hrest⟩ := List.forall_mem_cons.mp htext
    rw [List.filterMap_cons, Option.map_some, List.map_cons, ← ih hrest]

/-- The labels of a mapping are its entries. -/
lemma entries_labelSet (n : Mapping) : n.labelSet.entries = n.entries := by
  rw [LabelSet.entries, labelSet, List.map_map]
  exact List.map_id _

namespace IsTagDocument

variable (h : n.IsTagDocument)
include h

/-- The entries of a tag document are names with values that tags can have. -/
lemma of_mem_entries {e : Value × Value} (he : e ∈ n.entries) :
    (∃ name, e.1 = .text name) ∧ e.2.IsTagValue := by
  obtain ⟨s, hs, hse⟩ := List.mem_filterMap.mp he
  obtain ⟨name, v, rfl⟩ := h.keyed.text s hs
  cases hse
  exact ⟨⟨name, rfl⟩, h.values _ hs v rfl⟩

/-- The labels of a tag document have keys. -/
lemma hasKeys : n.labelSet.HasKeys := by
  intro l hl
  obtain ⟨e, he, rfl⟩ := List.mem_map.mp hl
  obtain ⟨⟨name, hname⟩, hvalue⟩ := h.of_mem_entries he
  refine (LabelSet.isSome_labelKey_iff _).mpr ⟨?_, hvalue.isHashable⟩
  rw [hname]
  rfl

/-- The labels of a tag document have distinct names. -/
lemma hasDistinctNames : n.labelSet.HasDistinctNames := by
  have hvalues : ∀ s ∈ n.slots, ∃ v, s.value = some v := by
    intro s hs
    obtain ⟨name, v, rfl⟩ := h.keyed.text s hs
    exact ⟨v, rfl⟩
  have hnames : n.labelSet.nameKeys = n.slotKeys := by
    rw [LabelSet.nameKeys, labelSet, List.map_map]
    exact keys_eq_slotKeys hvalues
  rw [LabelSet.HasDistinctNames, hnames]
  exact h.keyed.distinct

/-- A tag document is written again with the same names and values in the same order. -/
theorem slots_rendered : n.labelSet.rendered.slots = n.slots := by
  rw [h.hasDistinctNames.slots_rendered h.hasKeys, entries_labelSet, ← h.keyed.slots_eq]

/-- A tag document is a document value. -/
lemma isData : (Value.mapping n).IsData := by
  refine .of_slots h.keyed fun s hs v hv => ?_
  obtain ⟨x, hx, -⟩ := (h.values s hs v hv).exists_scalar
  exact .scalar hx

/-- So is what is written again. -/
lemma isData_rendered : (Value.mapping n.labelSet.rendered).IsData := by
  refine isData_storeAll .document fun e he => ?_
  rw [entries_labelSet] at he
  obtain ⟨hname, hvalue⟩ := h.of_mem_entries he
  obtain ⟨x, hx, -⟩ := hvalue.exists_scalar
  exact ⟨hname, .scalar hx⟩

/-- What is written again is alike the tag document. -/
lemma alike_rendered : Alike (.mapping n.labelSet.rendered) (.mapping n) := by
  have hlookup : ∀ k, n.labelSet.rendered.lookup? k = n.lookup? k := by
    intro k
    rw [lookup?, lookup?, h.slots_rendered]
  refine .mapping (fun k => by rw [hlookup]) fun k v w hv hw => ?_
  rw [hlookup, hw] at hv
  cases hv
  obtain ⟨name, -, hs⟩ := h.keyed.lookup?_eq_some_iff.mp hw
  obtain ⟨x, hx, hnan⟩ := (h.values _ hs v rfl).exists_scalar
  exact .scalar hx hx hnan

end IsTagDocument

/-! ## Documents of read preferences -/

/-- The document names a mode under the one key, and under the other one holds a list or a tuple of
tag documents, unless there are none; and it holds nothing else. The mode of the primary has no tag
documents. -/
structure IsCanonical (d : Mapping) (mode : Mode) (tags : List Mapping) : Prop where
  keyed : d.IsStringKeyed
  keys : ∀ s ∈ d.slots, s.key = .text "mode" ∨ s.key = .text "tags"
  mode_eq : d.lookup? (.text "mode") = some (.text mode.name)
  noTags : tags = [] → d.lookup? (.text "tags") = none
  someTags : tags ≠ [] →
    ∃ v, d.lookup? (.text "tags") = some v ∧ v.elements? = some (tags.map .mapping)
  primary : mode = .primary → tags = []
  tagDocuments : ∀ n ∈ tags, n.IsTagDocument

variable {d : Mapping} {mode : Mode} {tags : List Mapping}

/-- Under other keys a canonical document holds nothing. -/
lemma IsCanonical.lookup?_of_ne (h : d.IsCanonical mode tags) {k : Key} (hmode : k ≠ .text "mode")
    (htags : k ≠ .text "tags") : d.lookup? k = none := by
  rw [Option.eq_none_iff_forall_ne_some]
  intro v hv
  obtain ⟨name, rfl, hs⟩ := h.keyed.lookup?_eq_some_iff.mp hv
  rcases h.keys _ hs with hname | hname
  · exact hmode (congrArg Key.text (Value.text.inj hname))
  · exact htags (congrArg Key.text (Value.text.inj hname))

/-- A canonical document is a document value. -/
lemma IsCanonical.isData (h : d.IsCanonical mode tags) : (Value.mapping d).IsData := by
  refine .mapping h.keyed fun k v hv => ?_
  by_cases hk : k = .text "mode"
  · rw [hk, h.mode_eq] at hv
    cases hv
    exact .scalar rfl
  by_cases hk' : k = .text "tags"
  · rw [hk'] at hv
    have hne : tags ≠ [] := fun hempty => by
      rw [h.noTags hempty] at hv
      cases hv
    obtain ⟨w, hw, helements⟩ := h.someTags hne
    rw [hv] at hw
    cases hw
    refine .sequence helements fun x hx => ?_
    obtain ⟨n, hn, rfl⟩ := List.mem_map.mp hx
    exact (h.tagDocuments n hn).isData
  · rw [h.lookup?_of_ne hk hk'] at hv
    cases hv

end Mapping

/-- What has items as a list or a tuple yields them. -/
lemma Value.items?_of_elements? {v : Value} {xs : List Value} (h : v.elements? = some xs) :
    v.items? = some xs := by
  cases v <;> cases h <;> rfl

namespace Preference

variable {d : Mapping} {mode : Mode} {tags : List Mapping}

/-- The document of the read preference that is read from a canonical document is alike that one. -/
lemma alike_of_isCanonical (h : d.IsCanonical mode tags) :
    Alike (.mapping (Preference.mk mode (tags.map Mapping.labelSet)).rendered) (.mapping d) := by
  -- what both documents hold under one key is there in both, and alike
  suffices hkey : ∀ k,
      ((Preference.mk mode (tags.map Mapping.labelSet)).rendered.lookup? k).isSome =
        (d.lookup? k).isSome ∧
      ∀ v w, (Preference.mk mode (tags.map Mapping.labelSet)).rendered.lookup? k = some v →
        d.lookup? k = some w → Alike v w from
    .mapping (fun k => (hkey k).1) fun k => (hkey k).2
  intro k
  by_cases hk : k = .text "mode"
  · rw [hk, lookup?_mode, h.mode_eq]
    refine ⟨rfl, fun v w hv hw => ?_⟩
    cases hv
    cases hw
    exact .scalar rfl rfl nofun
  by_cases hk' : k = .text "tags"
  · rw [hk', lookup?_tags]
    by_cases hempty : tags = []
    · rw [h.noTags hempty, if_pos (List.map_eq_nil_iff.mpr hempty)]
      exact ⟨rfl, nofun⟩
    · obtain ⟨u, hu, helements⟩ := h.someTags hempty
      rw [hu, if_neg (mt List.map_eq_nil_iff.mp hempty), List.map_map]
      refine ⟨rfl, fun v w hv hw => ?_⟩
      cases hv
      cases hw
      rw [Alike.elements_iff rfl helements, List.forall₂_map_left_iff, List.forall₂_map_right_iff,
        List.forall₂_same]
      exact fun n hn => (h.tagDocuments n hn).alike_rendered
  · rw [lookup?_of_ne hk hk', h.lookup?_of_ne hk hk']
    exact ⟨rfl, nofun⟩

/-- **Reading a canonical document and writing it again.** A canonical document is read without
fail, as the read preference of its mode with the entries of its tag documents for tag sets, in
order. That one is written without fail, as a document which the comparison finds equal to the first
one; and the tag documents in it have the same names and values in the same order. -/
theorem toDocument_ofDocument (h : d.IsCanonical mode tags) :
    ∃ p e, ofDocument (.mapping d) = .ok p ∧ p.mode = mode ∧
      p.tagSets.map LabelSet.entries = tags.map Mapping.entries ∧
      p.toDocument = .ok e ∧ e.alike d = .ok true ∧
      (tags ≠ [] → ∃ written : List Mapping,
        e.lookup? (.text "tags") = some (.ofList (written.map .mapping)) ∧
        written.map Mapping.slots = tags.map Mapping.slots) := by
  let p : Preference := ⟨mode, tags.map Mapping.labelSet⟩
  have hkeys : ∀ n ∈ tags, n.labelSet.HasKeys := fun n hn => (h.tagDocuments n hn).hasKeys
  have hsome : tags ≠ [] →
      ∃ v, d.lookup? (.text "tags") = some v ∧ v.items? = some (tags.map .mapping) := by
    intro hne
    obtain ⟨v, hv, helements⟩ := h.someTags hne
    exact ⟨v, hv, Value.items?_of_elements? helements⟩
  have hread : ofDocument (.mapping d) = .ok p :=
    ofDocument_eq hkeys h.primary h.mode_eq h.noTags hsome
  have hwrite : p.toDocument = .ok p.rendered := by
    refine toDocument_eq fun s hs => ?_
    obtain ⟨n, hn, rfl⟩ := List.mem_map.mp hs
    exact hkeys n hn
  have hdata : (Value.mapping p.rendered).IsData := by
    refine isData_rendered fun s hs => ?_
    obtain ⟨n, hn, rfl⟩ := List.mem_map.mp hs
    exact (h.tagDocuments n hn).isData_rendered
  have hequal : p.rendered.alike d = .ok true :=
    (Value.alike_decides hdata h.isData).eq_ok_true_iff.mpr (alike_of_isCanonical h)
  refine ⟨p, p.rendered, hread, rfl, ?_, hwrite, hequal, fun hne => ?_⟩
  · rw [List.map_map]
    exact List.map_congr_left fun n _ => Mapping.entries_labelSet n
  · refine ⟨p.tagSets.map LabelSet.rendered, ?_, ?_⟩
    · rw [lookup?_tags, if_neg (mt List.map_eq_nil_iff.mp hne)]
      simp only [List.map_map, Function.comp_def, p]
    · rw [List.map_map, List.map_map]
      exact List.map_congr_left fun n hn => (h.tagDocuments n hn).slots_rendered

/-- A plain mapping with its tag documents first, in a tuple: an ordered one with values of several
kinds, and an empty one. -/
theorem toDocument_ofDocument_tuple :
    let entry (name : String) (v : Value) : Slot := ⟨.text name, some v⟩
    let rack : Mapping := ⟨.ordered, none,
      [entry "dc" (.text "ny"), entry "rack" (.int ⟨1, true⟩), entry "share" (.ofFloat 1.5),
        entry "ssd" (.bool true), entry "owner" .null]⟩
    let anyone : Mapping := ⟨.plain, none, []⟩
    let d : Mapping := ⟨.plain, none,
      [entry "tags" (.tuple [.mapping rack, .mapping anyone]), entry "mode" (.text "nearest")]⟩
    d.IsCanonical .nearest [rack, anyone] ∧
      ∃ p e, ofDocument (.mapping d) = .ok p ∧ p.mode = .nearest ∧ p.toDocument = .ok e ∧
        e.alike d = .ok true := by
  intro entry rack anyone d
  have hshare : Binary64.exact 1.5 ≠ .nan := by decide
  have hrack : rack.IsTagDocument := by
    refine ⟨⟨?_, by decide⟩, ?_⟩
    · simp [rack, entry]
    · simp [rack, entry, Value.IsTagValue, Value.ofFloat, hshare]
  have hanyone : anyone.IsTagDocument := ⟨⟨nofun, List.nodup_nil⟩, nofun⟩
  have hcanonical : d.IsCanonical .nearest [rack, anyone] := {
    keyed := ⟨by simp [d, entry], by decide⟩
    keys := by simp [d, entry]
    mode_eq := by rfl
    noTags := nofun
    someTags := fun _ => ⟨_, rfl, rfl⟩
    primary := nofun
    tagDocuments := by simp [hrack, hanyone] }
  obtain ⟨p, e, hp, hmode, -, he, hequal, -⟩ := toDocument_ofDocument hcanonical
  exact ⟨hcanonical, p, e, hp, hmode, he, hequal⟩

end Preference

end ReadRouting
