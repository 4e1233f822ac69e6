import Mathlib.Data.List.Dedup
import Mathlib.Data.Multiset.Defs
import ReadRouting.Proofs.Equivalent
import ReadRouting.Proofs.HeldEquality
import ReadRouting.Proofs.Rendering

set_option autoImplicit false
set_option relaxedAutoImplicit false

/-!
# Equality of label sets

A label set is three things at once: labels in an order, how often each occurs, and which occur at
all. Equality goes by the second, inclusion by the third, and hashes are computed from the second.
In terms of the equality of labels, two sets are equal exactly if the labels of one can be
rearranged to equal those of the other one by one. Equal sets have one hash and include each other;
sets that include each other and repeat no label are equal. Read preferences are equal if they have
one mode and, position by position, equal tag sets.

## Main definitions

* `ReadRouting.Label.Equals` — equality of labels.
* `ReadRouting.LabelSet.Met` — a label set that can be met.
* `ReadRouting.LabelSet.Rearranges` — the labels of one set are those of another, in some order.
* `ReadRouting.LabelSet.hashBy`, `ReadRouting.Preference.hashBy` — the hash, for any hash of labels.

## Main results

* `ReadRouting.LabelSet.sameLabels_iff_rearranges` — equality is rearrangement.
* `ReadRouting.LabelSet.includes_iff_equals` — inclusion goes by the equality of labels.
* `ReadRouting.LabelSet.equality_laws` — all laws of equality, hashes and inclusion.
-/

namespace ReadRouting

variable {floats : Nat → Float} {objects : Nat → Value}

/-- Two labels are equal: their names are, and their values. -/
def Label.Equals (k l : Label) : Prop := (Value.label k).equals (.label l) = .ok true

namespace LabelSet

variable {s t u : LabelSet}

/-- A label set that can be met where the numbers of objects stand for given ones: its labels may be
used as keys. -/
structure Met (floats : Nat → Float) (objects : Nat → Value) (s : LabelSet) : Prop where
  hasKeys : s.HasKeys
  genuine : ∀ l ∈ s.labels, (Value.label l).Genuine floats
  registered : ∀ l ∈ s.labels, (Value.label l).Registered objects

/-- The labels of the set, each as often, are equal to those of the other in some order. -/
def Rearranges (s t : LabelSet) : Prop :=
  ∃ labels, labels.Perm t.labels ∧ List.Forall₂ Label.Equals s.labels labels

/-- No two labels of the set are equal. -/
def RepeatsNone (s : LabelSet) : Prop := s.labels.Pairwise fun k l => ¬ k.Equals l

/-- Labels that can be met are equal exactly if their keys are. -/
lemma Met.equals_iff (hs : s.Met floats objects) (ht : t.Met floats objects) {k l : Label}
    (hk : k ∈ s.labels) (hl : l ∈ t.labels) : k.Equals l ↔ k.key? = l.key? :=
  Value.heldEquals_iff_key?_eq (hs.genuine k hk) (ht.genuine l hl) (hs.registered k hk)
    (ht.registered l hl) (hs.hasKeys k hk) (ht.hasKeys l hl)

/-- Labels are equal one by one exactly if their keys are the same. -/
lemma Met.forall₂_equals_iff (hs : s.Met floats objects) (ht : t.Met floats objects)
    {labels : List Label} (hlabels : ∀ l ∈ labels, l ∈ t.labels) :
    List.Forall₂ Label.Equals s.labels labels ↔
      s.labels.map Label.key? = labels.map Label.key? := by
  rw [← List.forall₂_eq_eq_eq, List.forall₂_map_left_iff, List.forall₂_map_right_iff,
    List.forall₂_iff_zip, List.forall₂_iff_zip]
  refine and_congr_right fun _ => forall_congr' fun k => forall_congr' fun l => ?_
  refine forall_congr' fun hkl => ?_
  obtain ⟨hk, hl⟩ := List.of_mem_zip hkl
  exact hs.equals_iff ht hk (hlabels l hl)

/-- Equality of label sets is rearrangement.

**Proof sketch.** The keys of the labels can be rearranged exactly if the labels can, and labels
with the same key are equal. -/
theorem sameLabels_iff_rearranges (hs : s.Met floats objects) (ht : t.Met floats objects) :
    s.sameLabels t = true ↔ s.Rearranges t := by
  rw [sameLabels_iff]
  constructor
  · intro hperm
    have hkeys : List.Forall₂ (fun k (l : Label) => k = l.key?) t.keys t.labels := by
      rw [keys, List.forall₂_map_left_iff, List.forall₂_same]
      exact fun _ _ => rfl
    obtain ⟨labels, hlabels, hrest⟩ := List.perm_comp_forall₂ hperm hkeys
    refine ⟨labels, hrest, (hs.forall₂_equals_iff ht fun l hl => hrest.mem_iff.mp hl).mpr ?_⟩
    rwa [← List.forall₂_eq_eq_eq, List.forall₂_map_right_iff]
  · rintro ⟨labels, hrest, hequal⟩
    unfold keys
    rw [(hs.forall₂_equals_iff ht fun l hl => hrest.mem_iff.mp hl).mp hequal]
    exact hrest.map _

/-- Inclusion goes by the equality of labels. -/
theorem includes_iff_equals (hs : s.Met floats objects) (ht : t.Met floats objects) :
    s.includes t = true ↔ ∀ l ∈ t.labels, ∃ k ∈ s.labels, k.Equals l := by
  rw [includes_iff, keys, keys, List.forall_mem_map]
  simp only [List.mem_map]
  refine forall₂_congr fun l hl => exists_congr fun k => and_congr_right fun hk => ?_
  exact (hs.equals_iff ht hk hl).symm

/-- Sets that include each other and repeat no label are equal. -/
lemma sameLabels_of_includes (hs : s.Met floats objects) (ht : t.Met floats objects)
    (hsonce : s.RepeatsNone) (htonce : t.RepeatsNone)
    (hst : s.includes t = true) (hts : t.includes s = true) : s.sameLabels t = true := by
  have hnodup : ∀ {u : LabelSet}, u.Met floats objects → u.RepeatsNone → u.keys.Nodup := by
    intro u hu honce
    refine List.pairwise_map.mpr (honce.imp_of_mem fun {k l} hk hl hne => ?_)
    exact mt (hu.equals_iff hu hk hl).mpr hne
  rw [sameLabels_iff]
  refine (List.perm_ext_iff_of_nodup (hnodup hs hsonce) (hnodup ht htonce)).mpr fun k => ?_
  exact ⟨(includes_iff t s).mp hts k, (includes_iff s t).mp hst k⟩

/-- The hash of a label set, for any hash of labels, of pairs, and of sets by the hashes of their
elements: that of the set of its labels with their numbers of occurrences. -/
def hashBy (label : Option Key → Nat) (pair : Nat → Nat → Nat) (set : Multiset Nat → Nat)
    (s : LabelSet) : Nat :=
  set (s.keys.dedup.map fun k => pair (label k) (s.keys.count k))

/-- Equal label sets have one hash. -/
lemma hashBy_eq_of_sameLabels (h : s.sameLabels t = true) (label : Option Key → Nat)
    (pair : Nat → Nat → Nat) (set : Multiset Nat → Nat) :
    s.hashBy label pair set = t.hashBy label pair set := by
  have hperm : s.keys.Perm t.keys := (sameLabels_iff s t).mp h
  have hcount : ∀ k, s.keys.count k = t.keys.count k := fun k => hperm.count_eq k
  unfold hashBy
  simp only [hcount]
  exact congrArg set (Multiset.coe_eq_coe.mpr (hperm.dedup.map _))

/-- Labels with keys are a label set with a key. -/
lemma HasKeys.exists_key? (h : s.HasKeys) : ∃ k, s.key? = some k := by
  have hall : (s.labels.map Label.key?).all Option.isSome = true := by
    rw [List.all_map, List.all_eq_true]
    exact h
  obtain ⟨labels⟩ := s
  rw [key?, keysOf?_eq, if_pos hall]
  exact ⟨_, rfl⟩

/-- Label sets of labels with keys have a key together. -/
lemma exists_runKey? {ss : List LabelSet} (h : ∀ s ∈ ss, s.HasKeys) :
    ∃ k, runKey? ss = some k := by
  induction ss with
  | nil => exact ⟨_, rfl⟩
  | cons s ss ih =>
    obtain ⟨hs, hss⟩ := List.forall_mem_cons.mp h
    obtain ⟨k, hk⟩ := hs.exists_key?
    obtain ⟨ks, hks⟩ := ih hss
    rw [runKey?, hk, hks]
    exact ⟨_, rfl⟩

end LabelSet

/-- Values with the same key fall together as keys. -/
lemma Value.sharesKey?_of_key?_eq {a b : Value} {k : Key} (ha : a.key? = some k)
    (h : a.key? = b.key?) : a.sharesKey? b = some true := by
  unfold sharesKey?
  rw [← h, ha]
  exact congrArg some (beq_self_eq_true k)

/-! ## Read preferences -/

namespace Preference

variable {p q : Preference}

/-- A read preference that can be met: its tag sets can. -/
def Met (floats : Nat → Float) (objects : Nat → Value) (p : Preference) : Prop :=
  ∀ s ∈ p.tagSets, s.Met floats objects

/-- A read preference with keys for all labels has a key. -/
lemma exists_key? (h : ∀ s ∈ p.tagSets, s.HasKeys) : ∃ k, p.key? = some k := by
  obtain ⟨mode, tagSets⟩ := p
  obtain ⟨ks, hks⟩ := LabelSet.exists_runKey? h
  exact ⟨.preference mode ks, congrArg (Option.map _) hks⟩

/-- Read preferences are equal if they have one mode and equal tag sets, position by position. -/
lemma same_iff_rearranges (hp : p.Met floats objects) (hq : q.Met floats objects) :
    p.same q = true ↔ p.mode = q.mode ∧ List.Forall₂ LabelSet.Rearranges p.tagSets q.tagSets := by
  rw [same, Bool.and_eq_true, beq_iff_eq, sameAll_iff, List.forall₂_iff_zip, List.forall₂_iff_zip]
  refine and_congr_right fun _ => and_congr_right fun _ => ?_
  refine forall_congr' fun s => forall_congr' fun t => forall_congr' fun hst => ?_
  obtain ⟨hs, ht⟩ := List.of_mem_zip hst
  exact LabelSet.sameLabels_iff_rearranges (hp s hs) (hq t ht)

/-- The hash of a read preference, for any hash of label sets: that of its mode with those of its
tag sets in order. -/
def hashBy (tagSet : LabelSet → Nat) (both : Mode → List Nat → Nat) (p : Preference) : Nat :=
  both p.mode (p.tagSets.map tagSet)

/-- Equal read preferences have one hash if equal label sets have. -/
lemma hashBy_eq_of_same (h : p.same q = true) {tagSet : LabelSet → Nat}
    (htagSet : ∀ s t : LabelSet, s.sameLabels t = true → tagSet s = tagSet t)
    (both : Mode → List Nat → Nat) : p.hashBy tagSet both = q.hashBy tagSet both := by
  rw [same, Bool.and_eq_true, beq_iff_eq, sameAll_iff] at h
  obtain ⟨hmode, hsets⟩ := h
  have hhashes : p.tagSets.map tagSet = q.tagSets.map tagSet := by
    rw [← List.forall₂_eq_eq_eq, List.forall₂_map_left_iff, List.forall₂_map_right_iff]
    exact hsets.imp htagSet
  rw [hashBy, hashBy, hmode, hhashes]

end Preference

namespace LabelSet

variable (floats objects)

/-- **The laws of equality of label sets.** Equality never fails, and is an equivalence; two sets
are equal exactly if the labels of one are those of the other in some order, each as often. Equal
sets have one hash, and one key. A set includes another exactly if it has an equal label for each of
its labels; so it includes itself and what is included by what it includes, and neither order nor
repetition counts on either side. Equal sets include each other, and sets that include each other
and repeat no label are equal. Read preferences are equal exactly if they have one mode and tag sets
of which those at one position are equal; then they have one hash, and one key.

**Proof sketch.** The labels of sets that can be met are equal exactly if their keys are. Equality
is that of the keys up to order, and inclusion that of the sets of keys. -/
theorem equality_laws :
    (∀ s t : LabelSet, s.Met floats objects → t.Met floats objects →
      ((Value.labels s).equals (.labels t) = .ok true ↔ s.Rearranges t)) ∧
    ((∀ s t : LabelSet, ∃ r, (Value.labels s).equals (.labels t) = .ok r) ∧
      Equivalence fun s t : LabelSet => (Value.labels s).equals (.labels t) = .ok true) ∧
    (∀ s t : LabelSet, (Value.labels s).equals (.labels t) = .ok true →
      (∀ label pair set, s.hashBy label pair set = t.hashBy label pair set) ∧
      (s.HasKeys → (Value.labels s).sharesKey? (.labels t) = some true) ∧
      s.includes t = true ∧ t.includes s = true) ∧
    (∀ s t : LabelSet, s.Met floats objects → t.Met floats objects →
      (s.includes t = true ↔ ∀ l ∈ t.labels, ∃ k ∈ s.labels, k.Equals l)) ∧
    ((∀ s : LabelSet, s.includes s = true) ∧
      (∀ s t u : LabelSet, s.includes t = true → t.includes u = true → s.includes u = true) ∧
      ∀ s t : LabelSet, (∀ l, l ∈ s.labels ↔ l ∈ t.labels) →
        ∀ u, s.includes u = t.includes u ∧ u.includes s = u.includes t) ∧
    (∀ s t : LabelSet, s.Met floats objects → t.Met floats objects →
      s.RepeatsNone → t.RepeatsNone → s.includes t = true → t.includes s = true →
      (Value.labels s).equals (.labels t) = .ok true) ∧
    (∀ p q : Preference, p.Met floats objects → q.Met floats objects →
      ((Value.preference p).equals (.preference q) = .ok true ↔
        p.mode = q.mode ∧ List.Forall₂ Rearranges p.tagSets q.tagSets)) ∧
    (∀ p q : Preference, (Value.preference p).equals (.preference q) = .ok true →
      (∀ label pair set both, p.hashBy (hashBy label pair set) both =
        q.hashBy (hashBy label pair set) both) ∧
      ((∀ s ∈ p.tagSets, s.HasKeys) →
        (Value.preference p).sharesKey? (.preference q) = some true)) := by
  have hequal : ∀ {s t : LabelSet},
      (Value.labels s).equals (.labels t) = .ok true ↔ s.sameLabels t = true := by
    intro s t
    exact ⟨fun h => Except.ok.inj h, fun h => congrArg Except.ok h⟩
  have hsame : ∀ {p q : Preference},
      (Value.preference p).equals (.preference q) = .ok true ↔ p.same q = true := by
    intro p q
    exact ⟨fun h => Except.ok.inj h, fun h => congrArg Except.ok h⟩
  refine ⟨fun s t hs ht => hequal.trans (sameLabels_iff_rearranges hs ht),
    ⟨fun s t => ⟨_, rfl⟩, ?_, ?_, ?_⟩, fun s t h => ⟨fun label pair set => ?_, fun hkeys => ?_, ?_⟩,
    fun s t => includes_iff_equals, ⟨fun s => (Equivalent.refl s).1, fun s t u => includes_trans,
      fun s t hlabels u => ?_⟩, fun s t hs ht hsonce htonce hst hts => ?_,
    fun p q hp hq => hsame.trans (Preference.same_iff_rearranges hp hq),
    fun p q h => ⟨fun label pair set both => ?_, fun hkeys => ?_⟩⟩
  · intro s
    exact hequal.mpr ((sameLabels_iff s s).mpr (List.Perm.refl _))
  · intro s t h
    rw [hequal, sameLabels_iff] at h ⊢
    exact h.symm
  · intro s t u hst htu
    rw [hequal, sameLabels_iff] at hst htu ⊢
    exact hst.trans htu
  · exact hashBy_eq_of_sameLabels (hequal.mp h) label pair set
  · obtain ⟨k, hk⟩ := hkeys.exists_key?
    exact Value.sharesKey?_of_key?_eq hk (key?_eq_of_sameLabels (hequal.mp h))
  · exact equivalent_of_sameLabels (hequal.mp h)
  · have hequivalent := equivalent_of_mem_iff hlabels
    exact ⟨hequivalent.eq_includes u, hequivalent.includes_eq u⟩
  · exact hequal.mpr (sameLabels_of_includes hs ht hsonce htonce hst hts)
  · exact Preference.hashBy_eq_of_same (hsame.mp h)
      (fun s t hst => hashBy_eq_of_sameLabels hst label pair set) both
  · obtain ⟨k, hk⟩ := Preference.exists_key? hkeys
    exact Value.sharesKey?_of_key?_eq hk (Preference.key?_eq_of_same (hsame.mp h))

/-- A set with a label twice, one in another order in which a truth value stands for one of the two,
and one with each label once: the first two are equal, the last includes them and is included, but
is equal to neither. -/
theorem equality_laws_truth_value :
    let floats : Nat → Float := fun _ => 0
    let objects : Nat → Value := fun _ => .null
    let one : Label := ⟨.text "a", .ofInt 1⟩
    let yes : Label := ⟨.text "a", .bool true⟩
    let other : Label := ⟨.text "b", .text "x"⟩
    let s : LabelSet := ⟨[one, other, one]⟩
    let t : LabelSet := ⟨[other, yes, one]⟩
    let u : LabelSet := ⟨[yes, other]⟩
    s.Met floats objects ∧ t.Met floats objects ∧ u.Met floats objects ∧
      s.Rearranges t ∧ s.includes u = true ∧ u.includes s = true ∧ ¬ s.Rearranges u ∧
      (∀ label pair set, s.hashBy label pair set = t.hashBy label pair set) ∧
      (Value.preference ⟨.nearest, [s, u]⟩).equals (.preference ⟨.nearest, [t, u]⟩) = .ok true := by
  intro floats objects one yes other s t u
  have hplain : ∀ v ∈ [Value.text "a", .ofInt 1, .bool true, .text "b", .text "x"],
      v.Genuine floats ∧ v.Registered objects := by
    simp only [List.forall_mem_cons, Value.ofInt]
    refine ⟨?_, ?_, ?_, ?_, ?_, List.forall_mem_nil _⟩ <;>
      exact ⟨.of_parts (by simp) (by simp) (by simp) (by simp [Value.parts]),
        .of_parts rfl id (by simp) (by simp [Value.parts])⟩
  have hlabel : ∀ l ∈ [one, yes, other], l.key?.isSome = true ∧
      (Value.label l).Genuine floats ∧ (Value.label l).Registered objects := by
    have hfields : ∀ l ∈ [one, yes, other], ∀ v ∈ l.fields,
        v ∈ [Value.text "a", .ofInt 1, .bool true, .text "b", .text "x"] := by
      simp [one, yes, other, Label.fields]
    intro l hl
    refine ⟨?_, .of_parts (by simp) (by simp) (by simp)
        fun v hv => (hplain v (hfields l hl v hv)).1,
      .of_parts rfl id (by simp) fun v hv => (hplain v (hfields l hl v hv)).2⟩
    revert l
    simp only [List.forall_mem_cons]
    exact ⟨rfl, rfl, rfl, List.forall_mem_nil _⟩
  have hmet : ∀ labels : List Label, labels ⊆ [one, yes, other] → Met floats objects ⟨labels⟩ :=
    fun labels hlabels => ⟨fun l hl => (hlabel l (hlabels hl)).1,
      fun l hl => (hlabel l (hlabels hl)).2.1, fun l hl => (hlabel l (hlabels hl)).2.2⟩
  have hs : s.Met floats objects := hmet _ (by simp)
  have ht : t.Met floats objects := hmet _ (by simp)
  have hu : u.Met floats objects := hmet _ (by simp)
  obtain ⟨hequal, ⟨-, hequivalence⟩, hhash, -, -, -, hpreference, -⟩ :=
    equality_laws floats objects
  have hst : (Value.labels s).equals (.labels t) = .ok true := rfl
  have hsu : (Value.labels s).equals (.labels u) = .ok false := rfl
  have hrearranges := (hequal s t hs ht).mp hst
  refine ⟨hs, ht, hu, hrearranges, rfl, rfl, fun hsu' => ?_, (hhash s t hst).1, ?_⟩
  · rw [(hequal s u hs hu).mpr hsu'] at hsu
    cases hsu
  · refine (hpreference _ _ ?_ ?_).mpr ⟨rfl, .cons hrearranges (.cons ?_ .nil)⟩
    · exact List.forall_mem_cons.mpr ⟨hs, List.forall_mem_singleton.mpr hu⟩
    · exact List.forall_mem_cons.mpr ⟨ht, List.forall_mem_singleton.mpr hu⟩
    · exact (hequal u u hu hu).mp (hequivalence.refl u)

end LabelSet

end ReadRouting
