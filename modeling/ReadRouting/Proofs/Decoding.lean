import ReadRouting.Preference
import ReadRouting.Proofs.Comparison
import ReadRouting.Proofs.RoundTrip
import ReadRouting.Proofs.SameKey

set_option autoImplicit false
set_option relaxedAutoImplicit false

/-!
# Decoding equal documents

Documents that are equal, whatever their kinds, the order of their keys and the kinds of sequences
and numbers in them, are read as equal read preferences: what is alike in the documents has the same
keys in the label sets that are made from it, and the items of alike sequences come in the same
order.

A mapping in place of the sequence of tag sets has no such order. It is accepted all the same if its
keys are label sets, and is then gone through in its own order.

## Main definitions

* `ReadRouting.Value.ItemsCorrespond` — how the items of two values correspond.
* `ReadRouting.Value.tagItems` — the items of what stands in the place of the tag sets.

## Main results

* `ReadRouting.Mapping.exists_entry_of_alike` — what an alike mapping stores under the same key.
* `ReadRouting.LabelSet.sameLabels_of_alike` — alike mappings have equal label sets.
* `ReadRouting.Value.itemsCorrespond_of_alike` — the items of alike values correspond.
* `ReadRouting.Preference.ofDocument_eq_ok` — what a document says that is read.
* `ReadRouting.Preference.ofDocument_of_alike` — equal documents are read as equal read preferences.
-/

namespace ReadRouting

/-! ## Alike mappings -/

namespace Mapping

variable {m n : Mapping} {e : Value × Value} {k : Key} {v w : Value}

/-- An entry is what a slot stores. -/
lemma mem_entries_iff : e ∈ m.entries ↔ ⟨e.1, some e.2⟩ ∈ m.slots := by
  obtain ⟨name, v⟩ := e
  simp only [entries, List.mem_filterMap, Option.map_eq_some_iff]
  constructor
  · rintro ⟨⟨key, value⟩, hs, u, hu, heq⟩
    cases heq
    cases hu
    exact hs
  · exact fun h => ⟨_, h, v, rfl, rfl⟩

/-- What is found under a key is that of an entry. -/
lemma exists_entry_of_lookup? (h : m.lookup? k = some v) :
    ∃ name, (name, v) ∈ m.entries ∧ name.key? = some k := by
  obtain ⟨⟨name, value⟩, hs, hv⟩ := Option.bind_eq_some_iff.mp h
  cases hv
  refine ⟨name, mem_entries_iff.mpr (List.mem_of_find?_eq_some hs), ?_⟩
  simpa [Slot.isAt] using List.find?_some hs

/-- Two mappings are alike if they have the same keys, and each slot of the first one stores
something alike what the second one has under its key. -/
lemma compareTo_of_alike (h : m.alike n = .ok true) :
    m.sameKeys n = true ∧ ∀ s ∈ m.slots, s.compareTo .structural false n = .ok true := by
  obtain ⟨kind, ident, slots⟩ := m
  simp only [alike, compare, Likeness.mappingRule, Slot.compareAll_eq_map, List.map_map] at h
  split at h
  · next hsame =>
    refine ⟨hsame, fun s hs => ?_⟩
    exact Checked.all_eq_ok_true.mp h _ (List.mem_map.mpr ⟨s, hs, rfl⟩)
  · cases h

/-- To each entry an alike mapping has one with the same key and an alike value. -/
theorem exists_entry_of_alike (h : m.alike n = .ok true) (he : e ∈ m.entries) :
    ∃ k f, f ∈ n.entries ∧ e.1.key? = some k ∧ f.1.key? = some k ∧ n.lookup? k = some f.2 ∧
      e.2.alike f.2 = .ok true := by
  have hslot := (compareTo_of_alike h).2 _ (mem_entries_iff.mp he)
  unfold Slot.compareTo at hslot
  simp only [Likeness.exempt_structural, Bool.false_eq_true, if_false] at hslot
  split at hslot
  · cases hslot
  · next w hw =>
    obtain ⟨k, hk, hlookup⟩ := Option.bind_eq_some_iff.mp hw
    obtain ⟨name, hf, hname⟩ := exists_entry_of_lookup? hlookup
    exact ⟨k, (name, w), hf, hk, hname, hlookup, hslot⟩

/-- To each entry of an alike mapping there is one with the same key. -/
lemma exists_entry_of_alike_right (h : m.alike n = .ok true) {f : Value × Value}
    (hf : f ∈ n.entries) : ∃ e ∈ m.entries, e.1.key? = f.1.key? := by
  have hkeys := (Bool.and_eq_true_iff.mp (compareTo_of_alike h).1).2
  have hmem := List.all_eq_true.mp hkeys _ (List.mem_map.mpr ⟨f, hf, rfl⟩)
  obtain ⟨e, he, heq⟩ := List.mem_map.mp (List.contains_iff_mem.mp hmem)
  exact ⟨e, he, heq⟩

/-- Entries with one key are one entry if nothing is stored under a key twice. -/
lemma eq_of_key?_eq (hnodup : m.keys.Nodup) {f : Value × Value} (he : e ∈ m.entries)
    (hf : f ∈ m.entries) (h : e.1.key? = f.1.key?) : e = f :=
  List.inj_on_of_nodup_map hnodup he hf h

/-- Alike mappings hold nothing under a key, or alike values. -/
lemma lookup?_of_alike (h : m.alike n = .ok true) (k : Key) :
    (m.lookup? k = none ∧ n.lookup? k = none) ∨
      ∃ v w, m.lookup? k = some v ∧ n.lookup? k = some w ∧ v.alike w = .ok true := by
  -- every slot of the left mapping stores something, so that the first one with a key does
  have hstored : ∀ e ∈ m.entries, e.1.key? = some k → ∃ v, m.lookup? k = some v := by
    intro e he hk
    have hat : Slot.isAt k ⟨e.1, some e.2⟩ = true := beq_iff_eq.mpr hk
    obtain ⟨s, hs⟩ := Option.isSome_iff_exists.mp
      (List.find?_isSome.mpr ⟨_, mem_entries_iff.mp he, hat⟩)
    have hslot := (compareTo_of_alike h).2 s (List.mem_of_find?_eq_some hs)
    obtain ⟨name, _ | v⟩ := s
    · cases hslot
    · exact ⟨v, by rw [lookup?, hs, Option.bind_some]⟩
  cases hv : m.lookup? k with
  | some v =>
    obtain ⟨name, he, hk⟩ := exists_entry_of_lookup? hv
    obtain ⟨k', f, -, hk', -, hlookup, halike⟩ := exists_entry_of_alike h he
    obtain rfl : k = k' := Option.some.inj (hk.symm.trans hk')
    exact Or.inr ⟨v, f.2, rfl, hlookup, halike⟩
  | none =>
    refine Or.inl ⟨rfl, ?_⟩
    by_contra hw
    obtain ⟨w, hw⟩ := Option.ne_none_iff_exists'.mp hw
    obtain ⟨name, hf, hk⟩ := exists_entry_of_lookup? hw
    obtain ⟨e, he, heq⟩ := exists_entry_of_alike_right h hf
    obtain ⟨v, hstored⟩ := hstored e he (heq.trans hk)
    rw [hv] at hstored
    cases hstored

end Mapping

/-- What a genuine mapping holds is genuine. -/
lemma Value.Genuine.of_lookup? {floats : Nat → Float} {m : Mapping} {k : Key} {v : Value}
    (h : (Value.mapping m).Genuine floats) (hv : m.lookup? k = some v) : v.Genuine floats := by
  obtain ⟨name, he, -⟩ := Mapping.exists_entry_of_lookup? hv
  exact h.of_mem_parts (List.mem_map.mpr ⟨_, he, rfl⟩)

/-! ## Label sets of alike mappings -/

namespace LabelSet

variable {floats : Nat → Float} {m n : Mapping} {s t : LabelSet}

/-- The label set of a mapping has its entries as labels, all with keys. -/
lemma ofMapping_eq_ok (h : ofMapping m = .ok s) : s = m.labelSet ∧ m.labelSet.HasKeys := by
  have hkeys := hasKeys_of_ofLabels h
  unfold ofMapping ofLabels at h
  split at h
  · cases h
    exact ⟨rfl, hkeys⟩
  · cases h

/-- The keys of the labels of a mapping. -/
lemma keys_labelSet (m : Mapping) :
    m.labelSet.keys = m.entries.map fun e => Label.key? ⟨e.1, e.2⟩ := by
  rw [keys, Mapping.labelSet, List.map_map]
  rfl

/-- The label that an entry stands for, in a set whose labels have keys. -/
lemma HasKeys.isHashable_of_mem (h : m.labelSet.HasKeys) {e : Value × Value}
    (he : e ∈ m.entries) : e.1.isHashable = true ∧ e.2.isHashable = true :=
  (isSome_labelKey_iff _).mp (h _ (List.mem_map.mpr ⟨e, he, rfl⟩))

/-- Labels have one key if their names have, and their values. -/
lemma labelKey_congr {l l' : Label} (hname : l.name.key? = l'.name.key?)
    (hvalue : l.value.key? = l'.value.key?) : l.key? = l'.key? := by
  rw [l.key?_eq_runKey?, l'.key?_eq_runKey?]
  exact Value.runKey?_eq_of_map_eq (by rw [Label.fields, Label.fields, List.map_cons, List.map_cons,
    List.map_cons, List.map_cons, hname, hvalue])

/-- A mapping that stores nothing under one key twice has no label twice. -/
lemma nodup_keys_labelSet (hkeys : m.labelSet.HasKeys) (hnodup : m.keys.Nodup) :
    m.labelSet.keys.Nodup := by
  have hnames : m.labelSet.nameKeys = m.keys := by
    rw [nameKeys, Mapping.labelSet, List.map_map]
    rfl
  rw [← hnames, hkeys.nameKeys_eq] at hnodup
  exact List.Nodup.of_map _ hnodup

/-- **Alike mappings have equal label sets.** The label sets that are made from alike mappings have
the same labels.

**Proof sketch.** No label occurs twice in either of them, so that it is enough that both have the
same labels. To a label of the left one, the right one has one with the same name and an alike
value. To a label of the right one, the left one has one with its name, and to that the right one
has none but the label itself. -/
theorem sameLabels_of_alike (hm : (Value.mapping m).Genuine floats)
    (hn : (Value.mapping n).Genuine floats) (h : m.alike n = .ok true)
    (hs : ofMapping m = .ok s) (ht : ofMapping n = .ok t) : s.sameLabels t = true := by
  obtain ⟨rfl, hskeys⟩ := ofMapping_eq_ok hs
  obtain ⟨rfl, htkeys⟩ := ofMapping_eq_ok ht
  have hlabel : ∀ e ∈ m.entries, ∃ f ∈ n.entries, e.1.key? = f.1.key? ∧
      Label.key? ⟨e.1, e.2⟩ = Label.key? ⟨f.1, f.2⟩ := by
    intro e he
    obtain ⟨k, f, hf, hek, hfk, -, halike⟩ := Mapping.exists_entry_of_alike h he
    have hname : e.1.key? = f.1.key? := hek.trans hfk.symm
    have hvalue : e.2.key? = f.2.key? :=
      Value.sameKey_of_compare (hm.of_mem_parts (List.mem_map.mpr ⟨e, he, rfl⟩))
        (hn.of_mem_parts (List.mem_map.mpr ⟨f, hf, rfl⟩)) halike
        (hskeys.isHashable_of_mem he).2 (htkeys.isHashable_of_mem hf).2
    exact ⟨f, hf, hname, labelKey_congr hname hvalue⟩
  rw [sameLabels_iff, List.perm_ext_iff_of_nodup (nodup_keys_labelSet hskeys hm.nodup_keys)
    (nodup_keys_labelSet htkeys hn.nodup_keys)]
  intro κ
  rw [keys_labelSet, keys_labelSet, List.mem_map, List.mem_map]
  constructor
  · rintro ⟨e, he, rfl⟩
    obtain ⟨f, hf, -, heq⟩ := hlabel e he
    exact ⟨f, hf, heq.symm⟩
  · rintro ⟨f, hf, rfl⟩
    obtain ⟨e, he, hname⟩ := Mapping.exists_entry_of_alike_right h hf
    obtain ⟨f', hf', hname', heq⟩ := hlabel e he
    obtain rfl : f' = f :=
      Mapping.eq_of_key?_eq hn.nodup_keys hf' hf (hname'.symm.trans hname)
    exact ⟨e, he, heq⟩

/-- Values that are accepted as tag sets are equal as such if they are alike. -/
lemma sameLabels_of_tagSet {option v w : Value} (hv : v.Genuine floats) (hw : w.Genuine floats)
    (h : v.alike w = .ok true) (hs : Checked.tagSet option v = .ok s)
    (ht : Checked.tagSet option w = .ok t) : s.sameLabels t = true := by
  cases v with
  | labels u =>
    cases w with
    | labels u' =>
      cases hs
      cases ht
      exact Except.ok.inj h
    | _ => cases h
  | mapping m =>
    cases w with
    | mapping n => exact sameLabels_of_alike hv hw h hs ht
    | _ => cases h
  | _ => cases hs

/-- The same for several values, position by position. -/
lemma sameAll_of_tagSets {option : Value} {xs ys : List Value} {ss ts : List LabelSet}
    (hxs : ∀ x ∈ xs, x.Genuine floats) (hys : ∀ y ∈ ys, y.Genuine floats)
    (h : List.Forall₂ (fun x y => x.alike y = .ok true) xs ys)
    (hs : List.Forall₂ (fun x s => Checked.tagSet option x = .ok s) xs ss)
    (ht : List.Forall₂ (fun y t => Checked.tagSet option y = .ok t) ys ts) :
    sameAll ss ts = true := by
  induction h generalizing ss ts with
  | nil =>
    cases hs
    cases ht
    rfl
  | cons hxy _ ih =>
    obtain ⟨hx, hxs⟩ := List.forall_mem_cons.mp hxs
    obtain ⟨hy, hys⟩ := List.forall_mem_cons.mp hys
    cases hs with
    | cons hs hss =>
      cases ht with
      | cons ht hts =>
        rw [sameAll, sameLabels_of_tagSet hx hy hxy hs ht, ih hxs hys hss hts]
        rfl

end LabelSet

/-! ## The items of alike values -/

/-- A comparison that is made only under a condition holds if it comes out so. -/
lemma Checked.eq_ok_true_of_ite {c : Prop} [Decidable c] {x : Checked Bool}
    (h : (if c then x else .ok false) = .ok true) : x = .ok true := by
  split at h
  · exact h
  · cases h

namespace Value

variable {v w : Value}

/-- The value is no tag set: neither a mapping nor a label set. -/
def IsNoTagSet (v : Value) : Prop := ∀ option s, Checked.tagSet option v ≠ .ok s

/-- Alike sequences have alike items. -/
lemma forall₂_alike_of_compareItems {xs ys : List Value}
    (h : compareItems .structural false xs ys = .ok true) :
    List.Forall₂ (fun x y => x.alike y = .ok true) xs ys := by
  refine (compareItems_eq_ok_true.mp h).imp fun x y hxy => ?_
  rw [compareHeld, Likeness.exempt_structural] at hxy
  exact hxy

/-- How the items of two values correspond: there are none, or none that is a tag set, or they are
the items of sequences and alike one by one. -/
inductive ItemsCorrespond (v w : Value) : Prop
  | nothing (hv : v.items? = none) (hw : w.items? = none)
  | noTagSets {xs ys : List Value} (hv : v.items? = some xs) (hw : w.items? = some ys)
      (hxs : ∀ x ∈ xs, x.IsNoTagSet) (hys : ∀ y ∈ ys, y.IsNoTagSet)
  | sequence {xs ys : List Value} (hv : v.items? = some xs) (hw : w.items? = some ys)
      (hvparts : v.parts = xs) (hwparts : w.parts = ys)
      (hitems : List.Forall₂ (fun x y => x.alike y = .ok true) xs ys)

/-- The items correspond if they are all made alike, and nothing made so is a tag set. -/
lemma ItemsCorrespond.of_map {α : Type} {make : α → Value} {as bs : List α}
    (hmake : ∀ a, (make a).IsNoTagSet) (hv : v.items? = some (as.map make))
    (hw : w.items? = some (bs.map make)) : ItemsCorrespond v w :=
  .noTagSets hv hw (List.forall_mem_map.mpr fun a _ => hmake a)
    (List.forall_mem_map.mpr fun b _ => hmake b)

/-- The items of alike values correspond, unless these are mappings. -/
theorem itemsCorrespond_of_alike (h : v.alike w = .ok true) (hv : ∀ m, v ≠ .mapping m) :
    ItemsCorrespond v w := by
  have hsequence : ∀ {xs ys : List Value}, v.items? = some xs → w.items? = some ys →
      v.parts = xs → w.parts = ys → compareItems .structural false xs ys = .ok true →
      ItemsCorrespond v w :=
    fun hv hw hvparts hwparts hitems =>
      .sequence hv hw hvparts hwparts (forall₂_alike_of_compareItems hitems)
  cases v with
  | mapping m => exact absurd rfl (hv m)
  | text s =>
    cases w with
    | text t =>
      exact .of_map (fun c option s hs => by cases hs) rfl rfl
    | _ => cases h
  | bytes bs =>
    cases w with
    | bytes cs =>
      exact .of_map (fun b option s hs => by cases hs) rfl rfl
    | _ => cases h
  | labels s =>
    cases w with
    | labels t =>
      exact .of_map (fun l option s hs => by cases hs) rfl rfl
    | _ => cases h
  | list i xs =>
    cases w with
    | list j ys => exact hsequence rfl rfl rfl rfl (Checked.eq_ok_true_of_ite h)
    | tuple ys => exact hsequence rfl rfl rfl rfl (Checked.eq_ok_true_of_ite h)
    | label l => exact hsequence rfl rfl rfl rfl (Checked.eq_ok_true_of_ite h)
    | _ => cases h
  | tuple xs =>
    cases w with
    | list j ys => exact hsequence rfl rfl rfl rfl (Checked.eq_ok_true_of_ite h)
    | tuple ys => exact hsequence rfl rfl rfl rfl (Checked.eq_ok_true_of_ite h)
    | label l => exact hsequence rfl rfl rfl rfl (Checked.eq_ok_true_of_ite h)
    | _ => cases h
  | label l =>
    cases w with
    | list j ys => exact hsequence rfl rfl rfl rfl (compareItems_of_compareFields h)
    | tuple ys => exact hsequence rfl rfl rfl rfl (compareItems_of_compareFields h)
    | label l' => exact hsequence rfl rfl rfl rfl (compareItems_of_compareFields h)
    | _ => cases h
  | _ => cases w <;> first | exact .nothing rfl rfl | cases h

/-- The items of what stands in the place of the tag sets. -/
def tagItems (v : Value) : Checked (List Value) := if v.isTrue then v.items else .ok []

/-- A value with items has these as tag sets. -/
lemma tagItems_of_items? {xs : List Value} (h : v.items? = some xs) : v.tagItems = .ok xs := by
  unfold tagItems
  split
  · rw [items, h]
  · next hfalse =>
    have hxs : xs = [] := by
      by_contra hne
      exact hfalse (Preference.isTrue_of_items? h hne)
    rw [hxs]

/-- A value without items has no tag sets, or is refused. -/
lemma eq_nil_of_tagItems {xs : List Value} (hv : v.items? = none) (h : v.tagItems = .ok xs) :
    xs = [] := by
  unfold tagItems at h
  split at h
  · rw [items, hv] at h
    cases h
  · cases h
    rfl

end Value

/-! ## Read preferences -/

namespace Preference

variable {floats : Nat → Float} {m n : Mapping} {p q : Preference}

/-- No tag sets come from values that are none. -/
lemma eq_nil_of_isNoTagSet {option : Value} {xs : List Value} {ss : List LabelSet}
    (hxs : ∀ x ∈ xs, x.IsNoTagSet)
    (h : List.Forall₂ (fun x s => Checked.tagSet option x = .ok s) xs ss) : ss = [] := by
  cases h with
  | nil => rfl
  | cons hx _ => exact absurd hx (hxs _ List.mem_cons_self option _)

/-- What corresponds is read as equal tag sets. -/
lemma sameAll_of_itemsCorrespond {option v w : Value} {xs ys : List Value}
    {ss ts : List LabelSet} (hv : v.Genuine floats) (hw : w.Genuine floats)
    (h : v.ItemsCorrespond w) (hxs : v.tagItems = .ok xs) (hys : w.tagItems = .ok ys)
    (hss : List.Forall₂ (fun x s => Checked.tagSet option x = .ok s) xs ss)
    (hts : List.Forall₂ (fun y t => Checked.tagSet option y = .ok t) ys ts) :
    LabelSet.sameAll ss ts = true := by
  cases h with
  | nothing hvnone hwnone =>
    rw [Value.eq_nil_of_tagItems hvnone hxs] at hss
    rw [Value.eq_nil_of_tagItems hwnone hys] at hts
    cases hss
    cases hts
    rfl
  | noTagSets hvitems hwitems hnox hnoy =>
    rw [Value.tagItems_of_items? hvitems] at hxs
    rw [Value.tagItems_of_items? hwitems] at hys
    cases hxs
    cases hys
    rw [eq_nil_of_isNoTagSet hnox hss, eq_nil_of_isNoTagSet hnoy hts]
    rfl
  | sequence hvitems hwitems hvparts hwparts hitems =>
    rw [Value.tagItems_of_items? hvitems] at hxs
    rw [Value.tagItems_of_items? hwitems] at hys
    cases hxs
    cases hys
    subst hvparts hwparts
    exact LabelSet.sameAll_of_tagSets (fun _ => hv.of_mem_parts) (fun _ => hw.of_mem_parts) hitems
      hss hts

/-- What a document says that is read as a read preference. -/
theorem ofDocument_eq_ok (h : ofDocument (.mapping m) = .ok p) :
    ∃ name items sets, m.lookup? (.text "mode") = some (.text name) ∧
      Mode.ofName? name = some p.mode ∧
      ((m.lookup? (.text "tags")).getD .null).tagItems = .ok items ∧
      List.Forall₂ (fun v s => Checked.tagSet (.text "tag_sets") v = .ok s) items sets ∧
      p.tagSets = if p.mode = .primary then [] else sets := by
  have hread : ofDocument (.mapping m) =
      (((m.lookup? (.text "tags")).getD .null).tagItems >>= fun items =>
        ofName ((m.lookup? (.text "mode")).getD .null) items) := by
    unfold ofDocument Value.tagItems
    dsimp only
    split <;> rfl
  rw [hread] at h
  obtain ⟨items, hitems, h⟩ := Checked.bind_eq_ok h
  cases hmode : m.lookup? (.text "mode") with
  | none =>
    rw [hmode] at h
    cases h
  | some v =>
    rw [hmode, Option.getD_some] at h
    unfold ofName at h
    split at h
    · next name =>
      split at h
      · next mode hname =>
        obtain ⟨sets, hsets, h⟩ := Checked.bind_eq_ok h
        cases h
        exact ⟨name, items, sets, rfl, hname, hitems, Checked.mapM_eq_ok_iff.mp hsets, rfl⟩
      · cases h
    · cases h

/-- **Equal documents are read as equal read preferences.** If two mappings are equal as documents
and both are read as read preferences, these are equal, unless the tag sets stand there as the keys
of a mapping; even then they have the same mode. So neither the order of keys counts, nor the kinds
of mappings, of sequences and of numbers.

**Proof sketch.** Equal documents have the same name for the mode, and alike values for the tag
sets. Alike sequences have alike items, which are label sets with the same labels, or mappings.
Alike mappings have equal label sets. -/
theorem ofDocument_of_alike (hm : (Value.mapping m).Genuine floats)
    (hn : (Value.mapping n).Genuine floats) (h : m.alike n = .ok true)
    (hp : ofDocument (.mapping m) = .ok p) (hq : ofDocument (.mapping n) = .ok q) :
    p.mode = q.mode ∧
      ((∀ t, m.lookup? (.text "tags") ≠ some (.mapping t)) →
        (Value.preference p).equals (.preference q) = .ok true) := by
  obtain ⟨name, xs, ss, hname, hmode, hxs, hss, hpsets⟩ := ofDocument_eq_ok hp
  obtain ⟨name', ys, ts, hname', hmode', hys, hts, hqsets⟩ := ofDocument_eq_ok hq
  have hmodes : p.mode = q.mode := by
    rcases Mapping.lookup?_of_alike h (.text "mode") with ⟨hnone, -⟩ | ⟨v, w, hv, hw, halike⟩
    · rw [hname] at hnone
      cases hnone
    · rw [hname] at hv
      rw [hname'] at hw
      cases hv
      cases hw
      rw [beq_iff_eq.mp (Except.ok.inj halike), hmode'] at hmode
      exact (Option.some.inj hmode).symm
  refine ⟨hmodes, fun htags => ?_⟩
  have hsets : LabelSet.sameAll ss ts = true := by
    rcases Mapping.lookup?_of_alike h (.text "tags") with ⟨hv, hw⟩ | ⟨v, w, hv, hw, halike⟩
    · -- neither document has tag sets
      rw [hv] at hxs
      rw [hw] at hys
      cases hxs
      cases hys
      cases hss
      cases hts
      rfl
    · have hnot : ∀ t, v ≠ .mapping t := fun t ht => htags t (by rw [hv, ht])
      have hcorrespond := Value.itemsCorrespond_of_alike halike hnot
      rw [hv] at hxs
      rw [hw] at hys
      exact sameAll_of_itemsCorrespond (hm.of_lookup? hv) (hn.of_lookup? hw) hcorrespond hxs hys hss
        hts
  have hsame : p.same q = true := by
    rw [same, Bool.and_eq_true, beq_iff_eq]
    refine ⟨hmodes, ?_⟩
    rw [hpsets, hqsets, hmodes]
    split
    · rfl
    · exact hsets
  exact congrArg Except.ok hsame

/-- Two kinds of mapping, with keys in two orders; a list and a tuple; an integer and a float. -/
theorem ofDocument_of_alike_across_kinds :
    let entry (name : String) (v : Value) : Slot := ⟨.text name, some v⟩
    let label (name : String) (v : Value) : Label := ⟨.text name, v⟩
    let rack : Mapping := ⟨.plain, none, [entry "dc" (.text "ny"), entry "rack" (.ofInt 1)]⟩
    let rack' : Mapping := ⟨.ordered, none, [entry "rack" (.ofFloat 1.0), entry "dc" (.text "ny")]⟩
    let anyone : Mapping := ⟨.plain, none, []⟩
    let m : Mapping := ⟨.document, none, [entry "mode" (.text "nearest"),
      entry "tags" (.list none [.mapping rack, .mapping anyone])]⟩
    let n : Mapping := ⟨.plain, none, [entry "tags" (.tuple [.mapping rack', .mapping anyone]),
      entry "mode" (.text "nearest")]⟩
    let p : Preference :=
      ⟨.nearest, [⟨[label "dc" (.text "ny"), label "rack" (.ofInt 1)]⟩, ⟨[]⟩]⟩
    let q : Preference :=
      ⟨.nearest, [⟨[label "rack" (.ofFloat 1.0), label "dc" (.text "ny")]⟩, ⟨[]⟩]⟩
    (Value.mapping m).Genuine (fun _ => 0) ∧ (Value.mapping n).Genuine (fun _ => 0) ∧
      m.alike n = .ok true ∧ ofDocument (.mapping m) = .ok p ∧ ofDocument (.mapping n) = .ok q ∧
      (∀ t, m.lookup? (.text "tags") ≠ some (.mapping t)) ∧
      (Value.preference p).equals (.preference q) = .ok true := by
  intro entry label rack rack' anyone m n p q
  let floats : Nat → Float := fun _ => 0
  have hrack : (Value.mapping rack).Genuine floats :=
    .of_mapping (by decide)
      (by simp [rack, entry, Mapping.entries, Value.ofInt, Value.Genuine.of_text,
        Value.Genuine.of_int])
  have hrack' : (Value.mapping rack').Genuine floats :=
    .of_mapping (by decide)
      (by simp [rack', entry, Mapping.entries, Value.ofFloat, Value.Genuine.of_text,
        Value.Genuine.of_unnumbered])
  have hanyone : (Value.mapping anyone).Genuine floats :=
    .of_mapping (by decide) (by simp [anyone, Mapping.entries])
  have hlist : (Value.list none [.mapping rack, .mapping anyone]).Genuine floats :=
    .of_list (by simp [hrack, hanyone])
  have htuple : (Value.tuple [.mapping rack', .mapping anyone]).Genuine floats :=
    .of_tuple (by simp [hrack', hanyone])
  have hm : (Value.mapping m).Genuine floats :=
    .of_mapping (by decide) (by simp [m, entry, Mapping.entries, Value.Genuine.of_text, hlist])
  have hn : (Value.mapping n).Genuine floats :=
    .of_mapping (by decide) (by simp [n, entry, Mapping.entries, Value.Genuine.of_text, htuple])
  have halike : m.alike n = .ok true := rfl
  have hp : ofDocument (.mapping m) = .ok p := rfl
  have hq : ofDocument (.mapping n) = .ok q := rfl
  have htags : ∀ t, m.lookup? (.text "tags") ≠ some (.mapping t) := by
    intro t h
    cases h
  exact ⟨hm, hn, halike, hp, hq, htags, (ofDocument_of_alike hm hn halike hp hq).2 htags⟩

/-- Label sets as the keys of a mapping are read in the order of the mapping, which does not count
when documents are compared. -/
example :
    let set (name : String) : LabelSet := ⟨[⟨.text name, .text "1"⟩]⟩
    let slot (name : String) : Slot := ⟨.labels (set name), some (.ofInt 1)⟩
    let document (tags : List Slot) : Mapping := ⟨.plain, none,
      [⟨.text "mode", some (.text "secondary")⟩,
        ⟨.text "tags", some (.mapping ⟨.plain, none, tags⟩)⟩]⟩
    let p : Preference := ⟨.secondary, [set "a", set "b"]⟩
    let q : Preference := ⟨.secondary, [set "b", set "a"]⟩
    (document [slot "a", slot "b"]).alike (document [slot "b", slot "a"]) = .ok true ∧
      ofDocument (.mapping (document [slot "a", slot "b"])) = .ok p ∧
      ofDocument (.mapping (document [slot "b", slot "a"])) = .ok q ∧
      (Value.preference p).equals (.preference q) = .ok false :=
  ⟨rfl, rfl, rfl, rfl⟩

end Preference

end ReadRouting
