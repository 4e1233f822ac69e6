import ReadRouting.Proofs.Comparison
import ReadRouting.Proofs.RoundTrip

set_option autoImplicit false
set_option relaxedAutoImplicit false

/-!
# Documents of equal read preferences

Two read preferences are equal if they have the same mode and, position by position, tag sets with
the same labels in whatever order. Their documents need not be equal: where a name occurs several
times in a tag set, only the value of its last label is written, and which one is the last depends
on the order. So the documents of equal read preferences whose labels are texts are equal exactly
if each name ends with the same value in both of every two corresponding tag sets, which is always
so where a name has only one value.

## Main definitions

* `ReadRouting.LabelSet.IsTextual`, `ReadRouting.Preference.IsTextual` — all names and values are
  texts.
* `ReadRouting.LabelSet.lastValue?` — the value of the last label with a name.
* `ReadRouting.LabelSet.IsSingleValued` — no name has two values.

## Main results

* `ReadRouting.LabelSet.alike_rendered_iff` — when the documents of two tag sets are alike.
* `ReadRouting.Preference.alike_rendered_iff` — when those of two read preferences are.
* `ReadRouting.Preference.toDocument_equals` — when the documents of equal read preferences are
  equal.
-/

namespace ReadRouting

/-- A mapping made from texts and document values is a document value. -/
lemma Mapping.isData_storeAll {entries : List (Value × Value)} (kind : MappingKind)
    (h : ∀ e ∈ entries, (∃ name, e.1 = .text name) ∧ e.2.IsData) :
    (Value.mapping ((empty kind).storeAll entries)).IsData := by
  have hslots := forall_slots_storeAll (m := empty kind) (P := fun v => ∃ name, v = .text name)
    (Q := Value.IsData) (fun s hs => by cases hs) h
  have hkeys : ∀ e ∈ entries, e.1.isHashable = true := by
    intro e he
    obtain ⟨⟨name, hname⟩, -⟩ := h e he
    rw [hname]
    rfl
  refine .of_slots ⟨fun s hs => ?_, nodup_slotKeys_storeAll hkeys List.nodup_nil⟩
    fun s hs v hv => ?_
  · obtain ⟨⟨name, hname⟩, v, hv, -⟩ := hslots s hs
    obtain ⟨key, value⟩ := s
    cases hname
    cases hv
    exact ⟨name, v, rfl⟩
  · obtain ⟨-, w, hw, hdata⟩ := hslots s hs
    rw [hv] at hw
    cases hw
    exact hdata

/-- Sequences are alike if they are so position by position. -/
lemma Alike.elements_iff {a b : Value} {xs ys : List Value} (ha : a.elements? = some xs)
    (hb : b.elements? = some ys) : Alike a b ↔ List.Forall₂ Alike xs ys := by
  rw [Alike.sequence_iff ha, List.forall₂_iff_get]
  constructor
  · rintro ⟨_, hys, hlength, hitems⟩
    rw [hb] at hys
    cases hys
    exact ⟨hlength, fun i hx hy =>
      hitems i _ _ (List.getElem?_eq_getElem hx) (List.getElem?_eq_getElem hy)⟩
  · rintro ⟨hlength, hitems⟩
    refine ⟨ys, hb, hlength, fun i x y hx hy => ?_⟩
    obtain ⟨hi, rfl⟩ := List.getElem?_eq_some_iff.mp hx
    obtain ⟨hi', rfl⟩ := List.getElem?_eq_some_iff.mp hy
    exact hitems i hi hi'

/-- Lists are alike if they are so position by position. -/
lemma Alike.list_iff {xs ys : List Value} :
    Alike (.ofList xs) (.ofList ys) ↔ List.Forall₂ Alike xs ys :=
  Alike.elements_iff rfl rfl

namespace LabelSet

variable {s t : LabelSet} {name : String}

/-! ## Tag sets of texts -/

/-- All names and values of the set are texts. -/
def IsTextual (s : LabelSet) : Prop :=
  ∀ l ∈ s.labels, ∃ name value, l = ⟨.text name, .text value⟩

/-- The value of the last label with a name. -/
def lastValue? (s : LabelSet) (name : String) : Option Value :=
  Mapping.lastStored? s.entries (.text name)

/-- No name has two values in the set. -/
def IsSingleValued (s : LabelSet) : Prop :=
  ∀ l ∈ s.labels, ∀ l' ∈ s.labels, l.name = l'.name → l.value = l'.value

/-- Texts have keys. -/
lemma IsTextual.hasKeys (hs : s.IsTextual) : s.HasKeys := by
  intro l hl
  obtain ⟨name, value, rfl⟩ := hs l hl
  rfl

/-- The last label with a name is one of the labels of the set. -/
lemma IsTextual.of_lastStored? (hs : s.IsTextual) {k : Key} {v : Value}
    (h : Mapping.lastStored? s.entries k = some v) :
    ∃ name value, k = .text name ∧ v = .text value ∧ ⟨.text name, .text value⟩ ∈ s.labels := by
  obtain ⟨e, he, hk, rfl⟩ := Mapping.exists_of_lastStored? h
  obtain ⟨l, hl, rfl⟩ := List.mem_map.mp he
  obtain ⟨name, value, rfl⟩ := hs l hl
  exact ⟨name, value, (Option.some.inj hk).symm, rfl, hl⟩

/-- If no name has two values, any label with a name has the last value. -/
lemma IsTextual.lastValue?_of_mem (hs : s.IsTextual) (hsingle : s.IsSingleValued) {value : String}
    (hl : ⟨.text name, .text value⟩ ∈ s.labels) : s.lastValue? name = some (.text value) := by
  have hsome : (Mapping.lastStored? s.entries (.text name)).isSome = true :=
    Mapping.isSome_lastStored? (List.mem_map_of_mem hl) rfl
  obtain ⟨v, hv⟩ := Option.isSome_iff_exists.mp hsome
  obtain ⟨name', value', hname, rfl, hl'⟩ := hs.of_lastStored? hv
  cases hname
  have hvalue : Value.text value' = .text value := hsingle _ hl' _ hl rfl
  rw [lastValue?, ← hvalue]
  exact hv

/-- Sets of texts with the same labels have the same labels one by one. -/
lemma IsTextual.mem_of_sameLabels (hs : s.IsTextual) (ht : t.IsTextual)
    (h : s.sameLabels t = true) {l : Label} (hl : l ∈ t.labels) : l ∈ s.labels := by
  have hkey : l.key? ∈ s.keys :=
    ((sameLabels_iff s t).mp h).mem_iff.mpr (List.mem_map_of_mem hl)
  obtain ⟨l', hl', hkeys⟩ := List.mem_map.mp hkey
  obtain ⟨name, value, rfl⟩ := ht l hl
  obtain ⟨name', value', rfl⟩ := hs l' hl'
  cases hkeys
  exact hl'

/-- Sets of texts with the same labels have the same last value for each name, if no name has two
values. -/
lemma IsTextual.lastValue?_eq (hs : s.IsTextual) (ht : t.IsTextual) (h : s.sameLabels t = true)
    (hsingle : s.IsSingleValued) (name : String) : s.lastValue? name = t.lastValue? name := by
  have hts : ∀ l ∈ t.labels, l ∈ s.labels := fun l => hs.mem_of_sameLabels ht h
  have hst : ∀ l ∈ s.labels, l ∈ t.labels := fun l =>
    ht.mem_of_sameLabels hs ((sameLabels_iff t s).mpr ((sameLabels_iff s t).mp h).symm)
  have hsingle' : t.IsSingleValued := fun l hl l' hl' => hsingle l (hts l hl) l' (hts l' hl')
  cases hv : s.lastValue? name with
  | some v =>
    obtain ⟨_, value, hname, rfl, hl⟩ := hs.of_lastStored? hv
    cases hname
    exact (ht.lastValue?_of_mem hsingle' (hst _ hl)).symm
  | none =>
    cases hv' : t.lastValue? name with
    | none => rfl
    | some v =>
      obtain ⟨_, value, hname, rfl, hl⟩ := ht.of_lastStored? hv'
      cases hname
      rw [hs.lastValue?_of_mem hsingle (hts _ hl)] at hv
      cases hv

/-! ## Their documents -/

/-- The document of a set of texts is a document value. -/
lemma IsTextual.isData_rendered (hs : s.IsTextual) : (Value.mapping s.rendered).IsData := by
  refine Mapping.isData_storeAll .document fun e he => ?_
  obtain ⟨l, hl, rfl⟩ := List.mem_map.mp he
  obtain ⟨name, value, rfl⟩ := hs l hl
  exact ⟨⟨name, rfl⟩, .scalar rfl⟩

/-- The documents of two sets of texts are alike if each name has the same last value in both. -/
theorem alike_rendered_iff (hs : s.IsTextual) (ht : t.IsTextual) :
    Alike (.mapping s.rendered) (.mapping t.rendered) ↔
      ∀ name, s.lastValue? name = t.lastValue? name := by
  rw [Alike.mapping_iff]
  simp only [hs.hasKeys.lookup?_rendered, ht.hasKeys.lookup?_rendered]
  constructor
  · rintro ⟨hkeys, hvalues⟩ name
    have hsome := hkeys (.text name)
    unfold lastValue?
    cases hv : Mapping.lastStored? s.entries (.text name) with
    | none =>
      rw [hv] at hsome
      exact (Option.isSome_eq_false_iff.mp hsome.symm |> Option.isNone_iff_eq_none.mp).symm
    | some v =>
      rw [hv] at hsome
      obtain ⟨w, hw⟩ := Option.isSome_iff_exists.mp hsome.symm
      obtain ⟨_, value, -, rfl, -⟩ := hs.of_lastStored? hv
      obtain ⟨_, value', -, rfl, -⟩ := ht.of_lastStored? hw
      obtain ⟨hscalar, -⟩ := (Alike.scalar_iff rfl).mp (hvalues _ _ _ hv hw)
      cases hscalar
      exact hw.symm
  · intro h
    have hall : ∀ k, Mapping.lastStored? s.entries k = Mapping.lastStored? t.entries k := by
      intro k
      cases hv : Mapping.lastStored? s.entries k with
      | some v =>
        obtain ⟨name, _, rfl, -⟩ := hs.of_lastStored? hv
        exact hv.symm.trans (h name)
      | none =>
        cases hw : Mapping.lastStored? t.entries k with
        | none => rfl
        | some w =>
          obtain ⟨name, _, rfl, -⟩ := ht.of_lastStored? hw
          exact hv.symm.trans ((h name).trans hw)
    refine ⟨fun k => by rw [hall], fun k v w hv hw => ?_⟩
    rw [hall, hw] at hv
    cases hv
    obtain ⟨_, value, -, rfl, -⟩ := ht.of_lastStored? hw
    exact .scalar rfl rfl nofun

end LabelSet

namespace Preference

variable {p q : Preference}

/-- All names and values in the tag sets are texts. -/
def IsTextual (p : Preference) : Prop := ∀ s ∈ p.tagSets, s.IsTextual

/-- The document of a read preference is a document value if those of its tag sets are. -/
lemma isData_rendered (h : ∀ s ∈ p.tagSets, (Value.mapping s.rendered).IsData) :
    (Value.mapping p.rendered).IsData := by
  have hsets : ∀ v ∈ p.tagSets.map fun s => Value.mapping s.rendered, v.IsData := by
    intro v hv
    obtain ⟨s, hs, rfl⟩ := List.mem_map.mp hv
    exact h s hs
  refine Mapping.isData_storeAll .document fun e he => ?_
  unfold renderedEntries at he
  split at he
  · rw [List.mem_singleton.mp he]
    exact ⟨⟨_, rfl⟩, .scalar rfl⟩
  · rcases List.mem_pair.mp he with rfl | rfl
    · exact ⟨⟨_, rfl⟩, .scalar rfl⟩
    · exact ⟨⟨_, rfl⟩, .sequence rfl hsets⟩

/-- The document of a read preference with tag sets of texts is a document value. -/
lemma IsTextual.isData_rendered (hp : p.IsTextual) : (Value.mapping p.rendered).IsData :=
  Preference.isData_rendered fun s hs => (hp s hs).isData_rendered

/-- Lists of documents of tag sets are alike if each name has the same last value, position by
position. -/
lemma alike_tags_iff (hp : p.IsTextual) (hq : q.IsTextual) :
    Alike (.ofList (p.tagSets.map fun s => .mapping s.rendered))
        (.ofList (q.tagSets.map fun s => .mapping s.rendered)) ↔
      List.Forall₂ (fun s t => ∀ name, s.lastValue? name = t.lastValue? name)
        p.tagSets q.tagSets := by
  rw [Alike.list_iff, List.forall₂_map_left_iff, List.forall₂_map_right_iff, List.forall₂_iff_zip,
    List.forall₂_iff_zip]
  refine and_congr_right fun _ => forall_congr' fun s => forall_congr' fun t =>
    forall_congr' fun hmem => ?_
  obtain ⟨hs, ht⟩ := List.of_mem_zip hmem
  exact LabelSet.alike_rendered_iff (hp s hs) (hq t ht)

/-- Documents of read preferences of one mode, both with tag sets or both without, are alike if the
lists of documents of the tag sets are. -/
theorem alike_rendered_iff (hmode : p.mode = q.mode) (hempty : p.tagSets = [] ↔ q.tagSets = []) :
    Alike (.mapping p.rendered) (.mapping q.rendered) ↔
      Alike (.ofList (p.tagSets.map fun s => .mapping s.rendered))
        (.ofList (q.tagSets.map fun s => .mapping s.rendered)) := by
  rw [Alike.mapping_iff]
  constructor
  · rintro ⟨-, hvalues⟩
    by_cases hp : p.tagSets = []
    · rw [hp, hempty.mp hp]
      exact Alike.list_iff.mpr .nil
    · have hq : q.tagSets ≠ [] := fun hq => hp (hempty.mpr hq)
      refine hvalues (.text "tags") _ _ ?_ ?_
      · rw [lookup?_tags, if_neg hp]
      · rw [lookup?_tags, if_neg hq]
  · intro htags
    -- what both documents hold under one key is there in both, and alike
    suffices hkey : ∀ k, (p.rendered.lookup? k).isSome = (q.rendered.lookup? k).isSome ∧
        ∀ v w, p.rendered.lookup? k = some v → q.rendered.lookup? k = some w → Alike v w from
      ⟨fun k => (hkey k).1, fun k => (hkey k).2⟩
    intro k
    by_cases hk : k = .text "mode"
    · rw [hk, lookup?_mode, lookup?_mode, hmode]
      refine ⟨rfl, fun v w hv hw => ?_⟩
      cases hv
      cases hw
      exact .scalar rfl rfl nofun
    · by_cases hk' : k = .text "tags"
      · rw [hk', lookup?_tags, lookup?_tags]
        by_cases hp : p.tagSets = []
        · rw [if_pos hp, if_pos (hempty.mp hp)]
          exact ⟨rfl, nofun⟩
        · rw [if_neg hp, if_neg fun hq => hp (hempty.mpr hq)]
          refine ⟨rfl, fun v w hv hw => ?_⟩
          cases hv
          cases hw
          exact htags
      · rw [lookup?_of_ne hk hk', lookup?_of_ne hk hk']
        exact ⟨rfl, nofun⟩

/-- Equal lists of tag sets have the same labels position by position. -/
lemma sameAll_iff (ss ts : List LabelSet) : LabelSet.sameAll ss ts = true ↔
    List.Forall₂ (fun s t => s.sameLabels t = true) ss ts := by
  induction ss generalizing ts with
  | nil => cases ts <;> simp [LabelSet.sameAll]
  | cons s ss ih => cases ts <;> simp [LabelSet.sameAll, ih]

/-- **Documents of equal read preferences.** Two equal read preferences with tag sets of texts are
written without fail, and comparing the documents does not fail. The documents are equal exactly if,
position by position, each name has the same last value in both tag sets; so they are if no name has
two values in a tag set of the first. -/
theorem toDocument_equals (hp : p.IsTextual) (hq : q.IsTextual)
    (h : (Value.preference p).equals (.preference q) = .ok true) :
    ∃ d e, p.toDocument = .ok d ∧ q.toDocument = .ok e ∧
      ((Value.mapping d).equals (.mapping e)).Decides
        (List.Forall₂ (fun s t => ∀ name, s.lastValue? name = t.lastValue? name)
          p.tagSets q.tagSets) ∧
      ((∀ s ∈ p.tagSets, s.IsSingleValued) → (Value.mapping d).equals (.mapping e) = .ok true) := by
  have hsame : p.same q = true := Except.ok.inj h
  rw [same, Bool.and_eq_true, beq_iff_eq, sameAll_iff] at hsame
  obtain ⟨hmode, hsets⟩ := hsame
  have hempty : p.tagSets = [] ↔ q.tagSets = [] := by
    rw [← List.length_eq_zero_iff, hsets.length_eq, List.length_eq_zero_iff]
  have hdecides : ((Value.mapping p.rendered).equals (.mapping q.rendered)).Decides
      (List.Forall₂ (fun s t => ∀ name, s.lastValue? name = t.lastValue? name)
        p.tagSets q.tagSets) := by
    refine (Value.document_equals hp.isData_rendered hq.isData_rendered ?_).1.congr ?_
    · exact Mapping.kind_storeAll _ _
    · rw [alike_rendered_iff hmode hempty, alike_tags_iff hp hq]
  refine ⟨p.rendered, q.rendered, toDocument_eq fun s hs => (hp s hs).hasKeys,
    toDocument_eq fun s hs => (hq s hs).hasKeys, hdecides, fun hsingle => ?_⟩
  rw [hdecides.eq_ok_true_iff, List.forall₂_iff_zip]
  refine ⟨hsets.length_eq, fun hmem => ?_⟩
  obtain ⟨hs, ht⟩ := List.of_mem_zip hmem
  exact (hp _ hs).lastValue?_eq (hq _ ht) (List.forall₂_zip hsets hmem) (hsingle _ hs)

/-- Two labels in either order: with two names, they make equal documents; with one name, they do
not. -/
theorem toDocument_equals_reordered :
    let secondary (labels : List (String × String)) : Preference :=
      ⟨.secondary, [⟨labels.map fun l => ⟨.text l.1, .text l.2⟩⟩]⟩
    let p := secondary [("dc", "ny"), ("rack", "1")]
    let q := secondary [("rack", "1"), ("dc", "ny")]
    let r := secondary [("dc", "ny"), ("dc", "sf")]
    let r' := secondary [("dc", "sf"), ("dc", "ny")]
    (Value.preference p).equals (.preference q) = .ok true ∧
      (Value.preference r).equals (.preference r') = .ok true ∧
      (∃ d e, p.toDocument = .ok d ∧ q.toDocument = .ok e ∧
        (Value.mapping d).equals (.mapping e) = .ok true) ∧
      (∃ d e, r.toDocument = .ok d ∧ r'.toDocument = .ok e ∧
        (Value.mapping d).equals (.mapping e) = .ok false) := by
  intro secondary p q r r'
  have htextual : ∀ labels, (secondary labels).IsTextual := by
    intro labels s hs l hl
    rw [List.mem_singleton.mp hs] at hl
    obtain ⟨pair, -, rfl⟩ := List.mem_map.mp hl
    exact ⟨_, _, rfl⟩
  have hpq : (Value.preference p).equals (.preference q) = .ok true := by rfl
  have hr : (Value.preference r).equals (.preference r') = .ok true := by rfl
  have hsingle : ∀ s ∈ p.tagSets, s.IsSingleValued := by
    simp [p, secondary, LabelSet.IsSingleValued]
  have hlast : ¬ List.Forall₂ (fun s t => ∀ name, s.lastValue? name = t.lastValue? name)
      r.tagSets r'.tagSets := by
    intro h
    cases h with
    | cons h _ => exact absurd (Value.text.inj (Option.some.inj (h "dc"))) (by decide)
  obtain ⟨d, e, hd, he, -, hequal⟩ := toDocument_equals (htextual _) (htextual _) hpq
  obtain ⟨d', e', hd', he', ⟨b, hb, hdecides⟩, -⟩ :=
    toDocument_equals (htextual _) (htextual _) hr
  have hfalse : b = false := Bool.eq_false_iff.mpr fun h => hlast (hdecides.mp h)
  exact ⟨hpq, hr, ⟨d, e, hd, he, hequal hsingle⟩, ⟨d', e', hd', he', hfalse ▸ hb⟩⟩

end Preference

end ReadRouting
