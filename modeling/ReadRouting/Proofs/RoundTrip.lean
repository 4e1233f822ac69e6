import ReadRouting.Preference
import ReadRouting.Proofs.Entries
import ReadRouting.Proofs.Results

set_option autoImplicit false
set_option relaxedAutoImplicit false

/-!
# Read preferences written and read back

A read preference is written as a document, and read back from it, without fail. A tag set is
written as a mapping, in which a name that occurs several times has one entry; so what is read back
is the same read preference exactly if no tag set has a name twice.

## Main definitions

* `ReadRouting.LabelSet.HasKeys`, `ReadRouting.Preference.WellFormed` — what every label set, and
  every read preference, satisfies from the time it is made.
* `ReadRouting.LabelSet.HasDistinctNames` — no name occurs twice in a tag set.
* `ReadRouting.LabelSet.rendered`, `ReadRouting.Preference.rendered` — the document.
* `ReadRouting.Mapping.labelSet` — the entries of a mapping as labels.
* `ReadRouting.LabelSet.readBack`, `ReadRouting.Preference.readBack` — what is read from it.

## Main results

* `ReadRouting.Preference.wellFormed_of_ofMode` — a read preference is well-formed when it is made.
* `ReadRouting.Preference.toDocument_eq`, `ReadRouting.Preference.ofDocument_eq` — writing and
  reading succeed.
* `ReadRouting.LabelSet.sameLabels_readBack_iff` — which tag sets come back as they were.
* `ReadRouting.Preference.ofDocument_toDocument` — which read preferences do.
-/

namespace ReadRouting

/-! ## Writing and reading one tag set -/

/-- The entries of a mapping as labels, in order. -/
def Mapping.labelSet (n : Mapping) : LabelSet := ⟨n.entries.map fun e => ⟨e.1, e.2⟩⟩

namespace LabelSet

variable {s t : LabelSet} {labels : List Label} {n : Mapping}

/-- All labels of the set have keys. -/
def HasKeys (s : LabelSet) : Prop := ∀ l ∈ s.labels, l.key?.isSome = true

/-- Every label set that is made from labels has keys for all of them. -/
lemma hasKeys_of_ofLabels (h : ofLabels labels = .ok s) : s.HasKeys := by
  rw [ofLabels] at h
  split at h
  · next hall =>
    cases h
    exact List.all_eq_true.mp hall
  · cases h

/-- A tag set that is accepted has keys for its labels; a label set is taken as it is. -/
lemma hasKeys_of_tagSet {option v : Value} (h : Checked.tagSet option v = .ok s)
    (hv : ∀ t, v = .labels t → t.HasKeys) : s.HasKeys := by
  unfold Checked.tagSet at h
  split at h
  · cases h
    exact hv s rfl
  · exact hasKeys_of_ofLabels h
  · cases h

/-- The keys of the names of a set, in order. -/
def nameKeys (s : LabelSet) : List (Option Key) := s.labels.map (·.name.key?)

/-- No name occurs twice in the set. -/
def HasDistinctNames (s : LabelSet) : Prop := s.nameKeys.Nodup

/-- The labels as entries of a mapping. -/
def entries (s : LabelSet) : List (Value × Value) := s.labels.map fun l => (l.name, l.value)

/-- The document of a label set. -/
def rendered (s : LabelSet) : Mapping := (Mapping.empty .document).storeAll s.entries

/-- The label set that is read from the document of one. -/
def readBack (s : LabelSet) : LabelSet := ⟨s.rendered.entries.map fun e => ⟨e.1, e.2⟩⟩

/-- A label has a key if its name and its value have. -/
lemma isSome_labelKey_iff (l : Label) :
    l.key?.isSome = true ↔ l.name.isHashable = true ∧ l.value.isHashable = true := by
  obtain ⟨name, value⟩ := l
  unfold Value.isHashable Label.key?
  cases name.key? <;> cases value.key? <;> simp

/-- The entries of a set whose labels have keys consist of values that have keys. -/
lemma HasKeys.isHashable_entries (h : s.HasKeys) :
    ∀ e ∈ s.entries, e.1.isHashable = true ∧ e.2.isHashable = true := by
  intro e he
  obtain ⟨l, hl, rfl⟩ := List.mem_map.mp he
  exact (isSome_labelKey_iff l).mp (h l hl)

/-- Writing a set whose labels have keys succeeds. -/
lemma toDocument_eq (h : s.HasKeys) : s.toDocument = .ok s.rendered :=
  Mapping.ofEntries_eq .document fun e he => (h.isHashable_entries e he).1

/-- The document of a set holds under each name the value of the last label of that name. -/
lemma HasKeys.lookup?_rendered (h : s.HasKeys) (k : Key) :
    s.rendered.lookup? k = Mapping.lastStored? s.entries k := by
  have hnone : (Mapping.empty .document).lookup? k = none := rfl
  rw [rendered, Mapping.lookup?_storeAll (fun e he => (h.isHashable_entries e he).1), hnone,
    Option.or_none]

/-- What stands in the document of a set has a key. -/
lemma HasKeys.slots_rendered (h : s.HasKeys) : ∀ t ∈ s.rendered.slots,
    t.key.isHashable = true ∧ ∃ v, t.value = some v ∧ v.isHashable = true := by
  refine Mapping.forall_slots_storeAll (P := fun v => v.isHashable = true)
    (Q := fun v => v.isHashable = true) (fun t ht => ?_) h.isHashable_entries
  cases ht

/-- What is read back has keys for its labels. -/
lemma HasKeys.readBack (h : s.HasKeys) : s.readBack.HasKeys := by
  intro l hl
  obtain ⟨e, he, rfl⟩ := List.mem_map.mp hl
  obtain ⟨t, ht, hte⟩ := List.mem_filterMap.mp he
  obtain ⟨hname, v, hv, hvalue⟩ := h.slots_rendered t ht
  rw [hv, Option.map_some] at hte
  cases hte
  exact (isSome_labelKey_iff _).mpr ⟨hname, hvalue⟩

/-- Reading a mapping succeeds if its entries have keys. -/
lemma ofMapping_eq (h : n.labelSet.HasKeys) : ofMapping n = .ok n.labelSet := by
  have hkeys : n.labelSet.labels.all (fun l => l.key?.isSome) = true := List.all_eq_true.mpr h
  exact if_pos hkeys

/-! ## Which tag sets come back as they were -/

/-- What is read back has each name once. -/
lemma HasKeys.hasDistinctNames_readBack (h : s.HasKeys) : s.readBack.HasDistinctNames := by
  have hvalues : ∀ t ∈ s.rendered.slots, ∃ v, t.value = some v := fun t ht => by
    obtain ⟨-, v, hv, -⟩ := h.slots_rendered t ht
    exact ⟨v, hv⟩
  have hnames : s.readBack.nameKeys = s.rendered.slotKeys := by
    rw [nameKeys, LabelSet.readBack, List.map_map]
    exact Mapping.keys_eq_slotKeys hvalues
  rw [HasDistinctNames, hnames]
  exact Mapping.nodup_slotKeys_storeAll (fun e he => (h.isHashable_entries e he).1) List.nodup_nil

/-- The name of a label that has a key has the first part of it. -/
lemma nameKey_eq {l : Label} (h : l.key?.isSome = true) :
    l.name.key? = l.key?.bind fun k => match k with | .pair n _ => some n | _ => none := by
  obtain ⟨name, value⟩ := l
  obtain ⟨hname, hvalue⟩ := (isSome_labelKey_iff _).mp h
  obtain ⟨n, hn⟩ := Option.isSome_iff_exists.mp hname
  obtain ⟨v, hv⟩ := Option.isSome_iff_exists.mp hvalue
  simp only [Label.key?] at hn hv ⊢
  rw [hn, hv]
  rfl

/-- The names of a set are read off the keys of its labels. -/
lemma HasKeys.nameKeys_eq (h : s.HasKeys) : s.nameKeys =
    s.keys.map fun k => k.bind fun k => match k with | .pair n _ => some n | _ => none := by
  rw [nameKeys, keys, List.map_map]
  exact List.map_congr_left fun l hl => nameKey_eq (h l hl)

/-- Sets with the same labels both have distinct names, or neither does. -/
lemma HasDistinctNames.congr (hs : s.HasKeys) (ht : t.HasKeys) (h : s.sameLabels t = true)
    (hnames : s.HasDistinctNames) : t.HasDistinctNames := by
  have hperm : s.nameKeys.Perm t.nameKeys := by
    rw [hs.nameKeys_eq, ht.nameKeys_eq]
    exact ((sameLabels_iff s t).mp h).map _
  exact hperm.nodup_iff.mp hnames

/-- The document of a set with distinct names has a slot for each label, in order. -/
lemma HasDistinctNames.slots_rendered (hs : s.HasKeys) (h : s.HasDistinctNames) :
    s.rendered.slots = s.entries.map fun e => ⟨e.1, some e.2⟩ := by
  have hnodup : ((Mapping.empty .document).slotKeys ++ s.entries.map (·.1.key?)).Nodup := by
    rw [entries, List.map_map]
    exact h
  exact Mapping.slots_storeAll_of_nodup (fun e he => (hs.isHashable_entries e he).1) hnodup

/-- A set with distinct names comes back with the same labels in the same order. -/
lemma HasDistinctNames.readBack_eq (hs : s.HasKeys) (h : s.HasDistinctNames) :
    s.readBack = s := by
  have hentries : s.rendered.entries = s.entries := by
    rw [Mapping.entries, h.slots_rendered hs, List.filterMap_map]
    exact List.filterMap_some
  have hlabels : (s.entries.map fun e => (⟨e.1, e.2⟩ : Label)) = s.labels := by
    rw [entries, List.map_map]
    refine (List.map_congr_left fun l _ => ?_).trans (List.map_id s.labels)
    cases l
    rfl
  rw [readBack, hentries, hlabels]
  cases s
  rfl

/-- A tag set comes back with the same labels exactly if no name occurs twice in it.

**Proof sketch.** What comes back has each name once, and having the same labels it would have the
same names. -/
theorem sameLabels_readBack_iff (hs : s.HasKeys) :
    s.readBack.sameLabels s = true ↔ s.HasDistinctNames := by
  constructor
  · exact fun h => HasDistinctNames.congr hs.readBack hs h hs.hasDistinctNames_readBack
  · intro h
    rw [h.readBack_eq hs, sameLabels_iff]

/-- Several tag sets come back as they were exactly if no name occurs twice in any of them. -/
lemma sameAll_readBack_iff {sets : List LabelSet} (h : ∀ s ∈ sets, s.HasKeys) :
    sameAll (sets.map readBack) sets = true ↔ ∀ s ∈ sets, s.HasDistinctNames := by
  induction sets with
  | nil => simp [sameAll]
  | cons s rest ih =>
    have hrest := ih fun t ht => h t (List.mem_cons_of_mem s ht)
    rw [List.map_cons, sameAll, Bool.and_eq_true,
      sameLabels_readBack_iff (h s List.mem_cons_self), hrest, List.forall_mem_cons]

end LabelSet

/-! ## Writing and reading a read preference -/

/-- The mode of the name of a mode is that mode. -/
lemma Mode.ofName?_name (m : Mode) : Mode.ofName? m.name = some m := by
  cases m <;> decide

namespace Preference

variable {p : Preference} {mode : Mode} {tagSets : Value}

/-- All labels have keys, and there are no tag sets where they would not count. -/
structure WellFormed (p : Preference) : Prop where
  hasKeys : ∀ s ∈ p.tagSets, s.HasKeys
  primary : p.mode = .primary → p.tagSets = []

/-- Every read preference is well-formed when it is made, if the label sets are that it is made
from. -/
theorem wellFormed_of_ofMode (h : ofMode mode tagSets = .ok p)
    (hsets : ∀ items, tagSets.items = .ok items → ∀ s, .labels s ∈ items → s.HasKeys) :
    p.WellFormed := by
  obtain ⟨sets, hchecked, h⟩ := Checked.bind_eq_ok h
  cases h
  have hkeys : ∀ s ∈ sets, s.HasKeys := by
    intro s hs
    obtain ⟨items, hitems, hchecked⟩ : ∃ items, tagSets.items = .ok items ∧
        items.mapM (Checked.tagSet (.text "tag_sets")) = .ok sets := by
      unfold Checked.tagSets at hchecked
      split at hchecked
      · cases hchecked
      · cases hchecked
      · exact Checked.bind_eq_ok hchecked
    obtain ⟨v, hv, hvs⟩ := Checked.exists_of_mem_mapM hchecked hs
    exact LabelSet.hasKeys_of_tagSet hvs fun t ht => hsets items hitems t (ht ▸ hv)
  constructor
  · intro s hs
    by_cases hprimary : mode = .primary
    · simp [hprimary] at hs
    · exact hkeys s (by simpa [hprimary] using hs)
  · exact fun hprimary => if_pos hprimary

/-- The entries of the document of a read preference. -/
def renderedEntries (p : Preference) : List (Value × Value) :=
  if p.tagSets = [] then [(.text "mode", .text p.mode.name)]
  else [(.text "mode", .text p.mode.name),
    (.text "tags", .ofList (p.tagSets.map fun s => .mapping s.rendered))]

/-- The document of a read preference. -/
def rendered (p : Preference) : Mapping := (Mapping.empty .document).storeAll p.renderedEntries

/-- The read preference that is read from the document of one. -/
def readBack (p : Preference) : Preference := ⟨p.mode, p.tagSets.map LabelSet.readBack⟩

/-- The names in the document of a read preference have keys. -/
lemma isHashable_renderedEntries (p : Preference) :
    ∀ e ∈ p.renderedEntries, e.1.isHashable = true := by
  unfold renderedEntries
  split <;> simp [Value.isHashable, Value.key?]

/-- Writing a read preference succeeds if the labels of its tag sets have keys. -/
theorem toDocument_eq (h : ∀ s ∈ p.tagSets, s.HasKeys) : p.toDocument = .ok p.rendered := by
  have hentries : p.entries = .ok p.renderedEntries := by
    have htags : p.tagSets.mapM LabelSet.toDocument = .ok (p.tagSets.map LabelSet.rendered) := by
      rw [Checked.mapM_eq_ok_iff, List.forall₂_map_right_iff, List.forall₂_same]
      exact fun s hs => LabelSet.toDocument_eq (h s hs)
    rw [entries, htags]
    simp [renderedEntries, List.map_map, Function.comp_def, bind, Except.bind, pure, Except.pure]
  rw [toDocument, hentries]
  exact Mapping.ofEntries_eq .document p.isHashable_renderedEntries

/-- The document of a read preference holds its entries. -/
lemma lookup?_rendered (p : Preference) (k : Key) :
    p.rendered.lookup? k = Mapping.lastStored? p.renderedEntries k := by
  have hnone : (Mapping.empty .document).lookup? k = none := rfl
  rw [rendered, Mapping.lookup?_storeAll p.isHashable_renderedEntries, hnone, Option.or_none]

/-- The document names the mode. -/
lemma lookup?_mode (p : Preference) :
    p.rendered.lookup? (.text "mode") = some (.text p.mode.name) := by
  rw [lookup?_rendered, renderedEntries]
  split <;> simp [Mapping.lastStored?, List.findRev?, Value.key?]

/-- The document holds the tag sets, if there are any. -/
lemma lookup?_tags (p : Preference) : p.rendered.lookup? (.text "tags") =
    if p.tagSets = [] then none
    else some (.ofList (p.tagSets.map fun s => .mapping s.rendered)) := by
  rw [lookup?_rendered, renderedEntries]
  split <;> simp [Mapping.lastStored?, List.findRev?, Value.key?]

/-- The document holds nothing else. -/
lemma lookup?_of_ne {k : Key} (hmode : k ≠ .text "mode") (htags : k ≠ .text "tags") :
    p.rendered.lookup? k = none := by
  rw [lookup?_rendered, renderedEntries]
  split <;> simp [Mapping.lastStored?, List.findRev?, Value.key?, hmode.symm, htags.symm]

/-- Whatever yields items counts as true if there are any. -/
lemma isTrue_of_items? {v : Value} {xs : List Value} (h : v.items? = some xs) (hne : xs ≠ []) :
    v.isTrue = true := by
  have hlength : v.length? = some xs.length := by rw [Value.length?, h, Option.map_some]
  have hpos : (xs.length != 0) = true := by simpa using hne
  cases v <;> simp only [Value.isTrue, hlength] <;> first | exact hpos | cases h

section Reading

variable {tags : List Mapping} (hkeys : ∀ n ∈ tags, n.labelSet.HasKeys)
  (hprimary : mode = .primary → tags = [])
include hkeys hprimary

/-- Mappings whose entries have keys are accepted as tag sets. -/
lemma ofMode_eq : ofMode mode (.tuple (tags.map .mapping)) =
    .ok ⟨mode, tags.map Mapping.labelSet⟩ := by
  have hsets : (tags.map Value.mapping).mapM (Checked.tagSet (.text "tag_sets")) =
      .ok (tags.map Mapping.labelSet) := by
    rw [Checked.mapM_eq_ok_iff, List.forall₂_map_left_iff, List.forall₂_map_right_iff,
      List.forall₂_same]
    exact fun n hn => LabelSet.ofMapping_eq (hkeys n hn)
  have hdropped : (if mode = .primary then [] else tags.map Mapping.labelSet) =
      tags.map Mapping.labelSet := by
    split
    · next h => rw [hprimary h, List.map_nil]
    · rfl
  have hchecked : Checked.tagSets (.text "tag_sets") (.tuple (tags.map .mapping)) =
      .ok (tags.map Mapping.labelSet) := hsets
  rw [ofMode, hchecked]
  exact congrArg (fun sets => Except.ok (Preference.mk mode sets)) hdropped

/-- Reading a document succeeds if it names a mode, and holds mappings whose entries have keys, or
nothing, as the tag sets. -/
theorem ofDocument_eq {d : Mapping} (hmode : d.lookup? (.text "mode") = some (.text mode.name))
    (hnone : tags = [] → d.lookup? (.text "tags") = none)
    (hsome : tags ≠ [] →
      ∃ v, d.lookup? (.text "tags") = some v ∧ v.items? = some (tags.map .mapping)) :
    ofDocument (.mapping d) = .ok ⟨mode, tags.map Mapping.labelSet⟩ := by
  have hread : ofName (.text mode.name) (tags.map .mapping) =
      .ok ⟨mode, tags.map Mapping.labelSet⟩ := by
    rw [ofName, Mode.ofName?_name]
    exact ofMode_eq hkeys hprimary
  rw [ofDocument, hmode]
  by_cases hempty : tags = []
  · rw [hnone hempty]
    rw [hempty] at hread ⊢
    exact hread
  · obtain ⟨v, hv, hitems⟩ := hsome hempty
    have htrue : v.isTrue = true := isTrue_of_items? hitems (by simpa using hempty)
    simp only [hv, Option.getD_some, htrue, if_true, Value.items, hitems]
    exact hread

end Reading

/-- Reading the document of a well-formed read preference succeeds. -/
lemma ofDocument_rendered (h : p.WellFormed) :
    ofDocument (.mapping p.rendered) = .ok p.readBack := by
  have hkeys : ∀ n ∈ p.tagSets.map LabelSet.rendered, n.labelSet.HasKeys := by
    intro n hn
    obtain ⟨s, hs, rfl⟩ := List.mem_map.mp hn
    exact (h.hasKeys s hs).readBack
  have hprimary : p.mode = .primary → p.tagSets.map LabelSet.rendered = [] :=
    fun hmode => List.map_eq_nil_iff.mpr (h.primary hmode)
  have hnone : p.tagSets.map LabelSet.rendered = [] →
      p.rendered.lookup? (.text "tags") = none := by
    intro hempty
    rw [lookup?_tags, if_pos (List.map_eq_nil_iff.mp hempty)]
  have hsome : p.tagSets.map LabelSet.rendered ≠ [] →
      ∃ v, p.rendered.lookup? (.text "tags") = some v ∧
        v.items? = some ((p.tagSets.map LabelSet.rendered).map .mapping) := by
    intro hne
    rw [lookup?_tags, if_neg (mt List.map_eq_nil_iff.mpr hne), List.map_map]
    exact ⟨_, rfl, rfl⟩
  rw [ofDocument_eq hkeys hprimary p.lookup?_mode hnone hsome, List.map_map]
  rfl

/-- What is read back is well-formed. -/
lemma WellFormed.readBack (h : p.WellFormed) : p.readBack.WellFormed := by
  constructor
  · intro s hs
    obtain ⟨t, ht, rfl⟩ := List.mem_map.mp hs
    exact (h.hasKeys t ht).readBack
  · intro hprimary
    rw [Preference.readBack, h.primary hprimary, List.map_nil]

/-- **Writing and reading a read preference.** A well-formed read preference is written as a
document, and read from it, without fail; what is read is well-formed, and it is the same read
preference exactly if each tag set has each of its names once. -/
theorem ofDocument_toDocument (h : p.WellFormed) :
    ∃ d q, p.toDocument = .ok d ∧ ofDocument (.mapping d) = .ok q ∧ q.WellFormed ∧
      ((Value.preference q).equals (.preference p)).Decides
        (∀ s ∈ p.tagSets, s.HasDistinctNames) := by
  refine ⟨p.rendered, p.readBack, toDocument_eq h.hasKeys, ofDocument_rendered h, h.readBack, ?_⟩
  have hsame : p.readBack.same p =
      LabelSet.sameAll (p.tagSets.map LabelSet.readBack) p.tagSets := by
    rw [same, readBack, beq_self_eq_true, Bool.true_and]
  have hequals : (Value.preference p.readBack).equals (.preference p) = .ok (p.readBack.same p) :=
    rfl
  rw [hequals, hsame]
  exact Checked.decides_ok (LabelSet.sameAll_readBack_iff h.hasKeys)

/-- Two tag sets of two labels each; and one that has a name twice, which comes back without the
first of its labels. -/
theorem ofDocument_toDocument_repeated_name :
    let label (name value : String) : Label := ⟨.text name, .text value⟩
    let distinct : Preference := ⟨.nearest, [⟨[label "dc" "ny", label "rack" "1"]⟩,
      ⟨[label "rack" "2", label "dc" "sf"]⟩]⟩
    let repeated : Preference := ⟨.secondary, [⟨[label "dc" "ny", label "dc" "sf"]⟩]⟩
    distinct.WellFormed ∧ repeated.WellFormed ∧
      (∃ d q, distinct.toDocument = .ok d ∧ ofDocument (.mapping d) = .ok q ∧
        (Value.preference q).equals (.preference distinct) = .ok true) ∧
      (∃ d q, repeated.toDocument = .ok d ∧ ofDocument (.mapping d) = .ok q ∧
        (Value.preference q).equals (.preference repeated) = .ok false) := by
  intro label distinct repeated
  have hdistinct : distinct.WellFormed := by
    refine ⟨?_, nofun⟩
    simp [distinct, label, LabelSet.HasKeys, Label.key?, Value.key?]
  have hrepeated : repeated.WellFormed := by
    refine ⟨?_, nofun⟩
    simp [repeated, label, LabelSet.HasKeys, Label.key?, Value.key?]
  have hnames : ∀ s ∈ distinct.tagSets, s.HasDistinctNames := by
    simp [distinct, label, LabelSet.HasDistinctNames, LabelSet.nameKeys, Value.key?]
  have hnames' : ¬ ∀ s ∈ repeated.tagSets, s.HasDistinctNames := by
    simp [repeated, label, LabelSet.HasDistinctNames, LabelSet.nameKeys, Value.key?]
  obtain ⟨d, q, hd, hq, -, hsame⟩ := ofDocument_toDocument hdistinct
  obtain ⟨d', q', hd', hq', -, r, hr, hdecides⟩ := ofDocument_toDocument hrepeated
  have hfalse : r = false := Bool.eq_false_iff.mpr fun h => hnames' (hdecides.mp h)
  exact ⟨hdistinct, hrepeated, ⟨d, q, hd, hq, hsame.eq_ok_true_iff.mpr hnames⟩,
    ⟨d', q', hd', hq', hfalse ▸ hr⟩⟩

end Preference

end ReadRouting
