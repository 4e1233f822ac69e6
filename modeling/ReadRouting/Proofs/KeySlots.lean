import Mathlib.Data.List.Pairwise
import ReadRouting.Proofs.Decoding
import ReadRouting.Proofs.Edits

set_option autoImplicit false
set_option relaxedAutoImplicit false

/-!
# One slot for each key

In a document that edits lead to, a key has at most one slot, so that what stands in a slot is what
is found under its key. Hence documents are alike exactly if they hold alike values under each key,
or nothing, as long as the one that is gone through has no name with nothing stored under it.

## Main definitions

* `ReadRouting.Mapping.HasDistinctKeys` — no key has two slots.
* `ReadRouting.Mapping.Regular` — a sound document with distinct keys.

## Main results

* `ReadRouting.Mapping.IsReached.regular` — a document that edits lead to is regular.
* `ReadRouting.Mapping.alike_iff` — likeness of documents, key by key.
* `ReadRouting.Mapping.equals_eq_alike` — equality of documents is likeness.
-/

namespace ReadRouting

namespace Mapping

variable {m n : Mapping} {s t : Slot} {k : Key} {name v : Value} {slots rest : List Slot}

/-- Two slots have different keys, or one of them has none. -/
def DifferInKey (s t : Slot) : Prop := ∀ k, s.key.key? = some k → t.key.key? ≠ some k

instance : Std.Symm DifferInKey := ⟨fun _ _ h k htk hsk => h k hsk htk⟩

/-- No two slots have the same key. Names that cannot be used as keys may be there more often. -/
def HasDistinctKeys (m : Mapping) : Prop := m.slots.Pairwise DifferInKey

/-- Slots with the same key are one slot. -/
lemma HasDistinctKeys.eq_of_key? (h : m.HasDistinctKeys) (hs : s ∈ m.slots) (ht : t ∈ m.slots)
    (hsk : s.key.key? = some k) (htk : t.key.key? = some k) : s = t := by
  by_contra hne
  exact List.Pairwise.forall h hs ht hne k hsk htk

/-- What is found under a key is what stands in its slot. -/
lemma HasDistinctKeys.lookup?_of_mem (h : m.HasDistinctKeys) (hs : s ∈ m.slots)
    (hk : s.key.key? = some k) : m.lookup? k = s.value := by
  have hat : s.isAt k = true := beq_iff_eq.mpr hk
  obtain ⟨t, ht⟩ := Option.isSome_iff_exists.mp (List.find?_isSome.mpr ⟨s, hs, hat⟩)
  have htk : t.key.key? = some k := beq_iff_eq.mp (List.find?_some (p := Slot.isAt k) ht)
  rw [h.eq_of_key? hs (List.mem_of_find?_eq_some ht) hk htk, lookup?, ht]
  rfl

/-- What an entry stores is found under the key of its name. -/
lemma HasDistinctKeys.lookup?_of_mem_entries (h : m.HasDistinctKeys) {e : Value × Value}
    (he : e ∈ m.entries) (hk : e.1.key? = some k) : m.lookup? k = some e.2 :=
  h.lookup?_of_mem (mem_entries_iff.mp he) hk

/-! ## Edits keep the keys distinct -/

/-- Storing gives no key a second slot. -/
lemma pairwise_storeSlots (hk : name.key? = some k) (v : Value)
    (h : slots.Pairwise DifferInKey) : (storeSlots k name v slots).Pairwise DifferInKey := by
  induction slots with
  | nil => exact List.pairwise_singleton _ _
  | cons s rest ih =>
    obtain ⟨hs, hrest⟩ := List.pairwise_cons.mp h
    rw [storeSlots]
    split
    · exact List.pairwise_cons.mpr ⟨hs, hrest⟩
    · next hat =>
      refine List.pairwise_cons.mpr ⟨fun t ht j hj => ?_, ih hrest⟩
      rcases key?_of_mem_storeSlots hk ht with ht | htk
      · exact hs t ht j hj
      · -- the slot that holds the new value has another key than the first one
        rw [htk]
        rintro ⟨⟩
        exact hat (beq_iff_eq.mpr hj)

/-- A document as edits leave it: it stores something only under names that can be used as keys, and
no key has two slots. -/
structure Regular (m : Mapping) : Prop extends m.Sound where
  distinct : m.HasDistinctKeys

/-- A document stays regular if a value is stored. -/
lemma Regular.store (h : m.Regular) (hk : name.key? = some k) (v : Value) :
    (m.store k name v).Regular :=
  ⟨h.toSound.store hk v, pairwise_storeSlots hk v h.distinct⟩

/-- To be regular is stable. -/
lemma isStable_regular : IsStable Regular where
  kind_ne_plain h := h.kind_ne_plain
  store h := h.store
  noted {m name} h hname := by
    refine ⟨h.toSound.noted name,
      List.pairwise_append.mpr ⟨h.distinct, List.pairwise_singleton _ _, ?_⟩⟩
    intro s _ t ht k _
    rw [List.mem_singleton.mp ht, hname]
    nofun
  of_sublist h hslots := ⟨h.toSound.of_sublist hslots, List.Pairwise.sublist hslots h.distinct⟩

/-- A document that edits lead to is regular. -/
theorem IsReached.regular (h : m.IsReached) : m.Regular := by
  refine h.of_isStable isStable_regular (fun ident => ⟨⟨rfl, nofun⟩, List.Pairwise.nil⟩)
    fun m change hm => ⟨hm.toSound.altered change, ?_⟩
  exact List.pairwise_map.mpr hm.distinct

/-- A document stays regular if entries are stored one after the other. -/
lemma Regular.storeAll {entries : List (Value × Value)}
    (h : ∀ e ∈ entries, e.1.isHashable = true) (hm : m.Regular) : (m.storeAll entries).Regular := by
  induction entries generalizing m with
  | nil => exact hm
  | cons e rest ih =>
    obtain ⟨k, hk⟩ := Option.isSome_iff_exists.mp (h e List.mem_cons_self)
    rw [storeAll_cons hk]
    exact ih (fun e he => h e (List.mem_cons_of_mem _ he)) (hm.store hk e.2)

/-! ## Likeness, key by key -/

/-- Something is stored under every name. -/
def StoresThroughout (m : Mapping) : Prop := ∀ s ∈ m.slots, s.value.isSome = true

/-- What two mappings hold under a key: alike values, or nothing. -/
def SameFound (found found' : Option Value) : Prop :=
  Option.Rel (fun v w => v.alike w = .ok true) found found'

/-- Something is found in both places, or in none. -/
lemma SameFound.isSome_eq {found found' : Option Value} (h : SameFound found found') :
    found.isSome = found'.isSome := by
  cases h <;> rfl

/-- Of two places to look in one after the other, it is enough that the same is found in each. -/
lemma SameFound.or {first first' second second' : Option Value} (h : SameFound first first')
    (hsecond : SameFound second second') : SameFound (first.or second) (first'.or second') := by
  cases h with
  | none => exact hsecond
  | some hvw => exact .some hvw

/-- Each key of a regular document is one of a mapping in which something is found under it too. -/
lemma Regular.all_keys (hm : m.Regular)
    (h : ∀ k, (m.lookup? k).isSome = true → (n.lookup? k).isSome = true) :
    m.keys.all n.keys.contains = true := by
  refine List.all_eq_true.mpr fun j hj => List.contains_iff_mem.mpr ?_
  obtain ⟨e, he, rfl⟩ := List.mem_map.mp hj
  obtain ⟨k, hk⟩ := Option.isSome_iff_exists.mp (hm.isHashable _ (mem_entries_iff.mp he) rfl)
  have hlookup : m.lookup? k = some e.2 := hm.distinct.lookup?_of_mem_entries he hk
  obtain ⟨w, hw⟩ := Option.isSome_iff_exists.mp (h k (Option.isSome_of_eq_some hlookup))
  obtain ⟨name, hf, hname⟩ := exists_entry_of_lookup? hw
  exact List.mem_map.mpr ⟨_, hf, hname.trans hk.symm⟩

/-- Two mappings with the same keys are alike if each slot of the first one compares. -/
lemma alike_of_compareTo (hkeys : m.sameKeys n = true)
    (h : ∀ s ∈ m.slots, s.compareTo .structural false n = .ok true) : m.alike n = .ok true := by
  obtain ⟨kind, ident, slots⟩ := m
  simp only [alike, compare, Likeness.mappingRule, Slot.compareAll_eq_map, List.map_map]
  rw [if_pos hkeys]
  exact Checked.all_eq_ok_true.mpr (List.forall_mem_map.mpr h)

/-- A slot that stores something compares if the other mapping holds something alike under its
key. -/
lemma Regular.compareTo_eq_ok_true (hm : m.Regular) (hs : s ∈ m.slots)
    (hvalue : s.value.isSome = true) (h : ∀ k, SameFound (m.lookup? k) (n.lookup? k)) :
    s.compareTo .structural false n = .ok true := by
  obtain ⟨k, hk⟩ := Option.isSome_iff_exists.mp (hm.isHashable s hs hvalue)
  obtain ⟨v, hv⟩ := Option.isSome_iff_exists.mp hvalue
  have hfound := h k
  rw [hm.distinct.lookup?_of_mem hs hk, hv] at hfound
  cases hw : n.lookup? k with
  | none =>
    rw [hw] at hfound
    cases hfound
  | some w =>
    rw [hw] at hfound
    obtain ⟨hvw⟩ := hfound
    simp only [Slot.compareTo, hv, hk, Option.bind_some, hw, Likeness.exempt_structural,
      Bool.false_eq_true, if_false]
    exact hvw

/-- **Likeness, key by key.** A regular document is alike another one exactly if it stores something
under every name, and both hold alike values under each key, or nothing. -/
theorem alike_iff (hm : m.Regular) (hn : n.Regular) :
    m.alike n = .ok true ↔ m.StoresThroughout ∧ ∀ k, SameFound (m.lookup? k) (n.lookup? k) := by
  constructor
  · intro h
    refine ⟨fun s hs => ?_, fun k => ?_⟩
    · have hslot := (compareTo_of_alike h).2 s hs
      unfold Slot.compareTo at hslot
      split at hslot
      · cases hslot
      · next v hv => exact Option.isSome_of_eq_some hv
    · rcases lookup?_of_alike h k with ⟨hv, hw⟩ | ⟨v, w, hv, hw, hvw⟩
      · rw [hv, hw]
        exact .none
      · rw [hv, hw]
        exact .some hvw
  · rintro ⟨hstores, hfound⟩
    have hsome : ∀ k, (m.lookup? k).isSome = (n.lookup? k).isSome := fun k => (hfound k).isSome_eq
    have hkeys : m.sameKeys n = true := Bool.and_eq_true_iff.mpr
      ⟨hm.all_keys fun k hk => hsome k ▸ hk, hn.all_keys fun k hk => (hsome k).symm ▸ hk⟩
    exact alike_of_compareTo hkeys fun s hs => hm.compareTo_eq_ok_true hs (hstores s hs) hfound

/-- Equality of documents is likeness. -/
theorem equals_eq_alike (hm : m.kind = .document) (hn : n.kind = .document) :
    (Value.mapping m).equals (.mapping n) = m.alike n := by
  obtain ⟨kind, ident, slots⟩ := m
  obtain rfl : kind = .document := hm
  simp only [Value.equals, Value.compare, alike, compare, Likeness.mappingRule, hn, decide_true,
    Bool.and_self, if_true]

end Mapping

end ReadRouting
