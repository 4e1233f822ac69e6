import ReadRouting.Proofs.HeldEquality
import ReadRouting.Proofs.KeySlots

set_option autoImplicit false
set_option relaxedAutoImplicit false

/-!
# Equality to itself

A value is equal to itself, and alike, unless something in it is not a number. This is so for
whatever a document may hold, also for labels and for server descriptions, whose fields may be
anything, as long as the mappings in it are dictionaries: a name with nothing stored under it, which
a failed edit leaves behind, makes the comparison of a mapping with itself fail.

## Main definitions

* `ReadRouting.Value.Throughout` — what holds of a value and of everything in it.
* `ReadRouting.Value.IsNaNFree` — nothing in a value is not a number.
* `ReadRouting.Mapping.IsDictionary` — every name of a mapping is a key of its own, and has a value.

## Main results

* `ReadRouting.Mapping.compare_self` — a dictionary compares with itself if its values do.
* `ReadRouting.Value.compare_self` — every value without what is not a number does.
-/

namespace ReadRouting

/-! ## Dictionaries -/

/-- A slot passes that is read off from comparisons that all pass, if one was made for its key. -/
lemma Slot.readOff_eq_ok_true {s : Slot} {compared : List (Option Key × Checked Bool)}
    (hvalue : s.value.isSome = true) (hname : s.key.isHashable = true)
    (hall : ∀ r ∈ compared, r.2 = .ok true) (hmem : ∃ r ∈ compared, r.1 = s.key.key?) :
    s.readOff compared = .ok true := by
  obtain ⟨v, hv⟩ := Option.isSome_iff_exists.mp hvalue
  obtain ⟨k, hk⟩ := Option.isSome_iff_exists.mp hname
  obtain ⟨r, hr, hrk⟩ := hmem
  have hfound : (compared.find? fun r => r.1 == some k).isSome = true :=
    List.find?_isSome.mpr ⟨r, hr, beq_iff_eq.mpr (hrk.trans hk)⟩
  obtain ⟨q, hq⟩ := Option.isSome_iff_exists.mp hfound
  simp only [readOff, hv, hk, hq, Option.map_some, Option.getD_some]
  exact hall q (List.mem_of_find?_eq_some hq)

namespace Mapping

variable {m : Mapping}

/-- Every name of the mapping can be used as a key, no key is there twice, and something is stored
under each. -/
structure IsDictionary (m : Mapping) : Prop where
  stores : m.StoresThroughout
  isHashable : ∀ s ∈ m.slots, s.key.isHashable = true
  distinct : m.HasDistinctKeys

/-- A dictionary that is a document is regular. -/
lemma IsDictionary.regular (h : m.IsDictionary) (hkind : m.kind = .document) : m.Regular :=
  ⟨⟨hkind, fun s hs _ => h.isHashable s hs⟩, h.distinct⟩

/-- A mapping has its own keys. -/
lemma sameKeys_self (m : Mapping) : m.sameKeys m = true := by
  have hall : m.keys.all m.keys.contains = true :=
    List.all_eq_true.mpr fun _ hk => List.contains_iff_mem.mpr hk
  rw [sameKeys, hall]
  rfl

section CompareSelf

variable (hm : m.IsDictionary)
  (h : ∀ v ∈ (Value.mapping m).parts, ∀ how reversed, Value.compareHeld how reversed v v = .ok true)
include hm h

/-- A slot of a dictionary compares with what the dictionary holds under its key, which is what the
slot stores. -/
lemma compareTo_self (how : Likeness) (reversed : Bool) {s : Slot} (hs : s ∈ m.slots) :
    s.compareTo how reversed m = .ok true := by
  obtain ⟨v, hv⟩ := Option.isSome_iff_exists.mp (hm.stores s hs)
  obtain ⟨k, hk⟩ := Option.isSome_iff_exists.mp (hm.isHashable s hs)
  have hlookup : m.lookup? k = some v := (hm.distinct.lookup?_of_mem hs hk).trans hv
  have hpart : v ∈ (Value.mapping m).parts := by
    obtain ⟨name, _⟩ := s
    cases hv
    exact List.mem_map.mpr ⟨(name, v), mem_entries_iff.mpr hs, rfl⟩
  simp only [Slot.compareTo, hv, hk, Option.bind_some, hlookup]
  exact h v hpart how reversed

/-- A dictionary compares with itself if what it stores does, by whatever rule.

**Proof sketch.** Every comparison that is made for a slot passes, and one is made for each slot, so
that reading them off in the order of the slots passes too. -/
theorem compare_self (how : Likeness) (reversed : Bool) :
    Mapping.compare how reversed m m = .ok true := by
  let compared (how : Likeness) (reversed : Bool) : List (Option Key × Checked Bool) :=
    m.slots.map fun s => (s.key.key?, s.compareTo how reversed m)
  have hall : ∀ how reversed, ∀ r ∈ compared how reversed, r.2 = .ok true := fun how reversed =>
    List.forall_mem_map.mpr fun s hs => compareTo_self hm h how reversed hs
  have hread : ∀ how reversed, ∀ s ∈ m.slots, s.readOff (compared how reversed) = .ok true :=
    fun how reversed s hs => Slot.readOff_eq_ok_true (hm.stores s hs) (hm.isHashable s hs)
      (hall how reversed) ⟨_, List.mem_map_of_mem hs, rfl⟩
  -- no slot is left out because of its key
  have hfilter : ∀ how reversed,
      (compared how reversed).filter (fun r => r.1.isSome) = compared how reversed :=
    fun how reversed => List.filter_eq_self.mpr (List.forall_mem_map.mpr hm.isHashable)
  obtain ⟨kind, ident, slots⟩ := m
  cases hrule : how.mappingRule reversed kind kind with
  | structural fromLeft =>
    simp only [Mapping.compare, hrule, Slot.compareAll_eq_map, sameKeys_self, if_true]
    refine Checked.all_eq_ok_true.mpr ?_
    cases fromLeft with
    | true => exact List.forall_mem_map.mpr (hall .structural false)
    | false => exact List.forall_mem_map.mpr (hread .structural true)
  | inOrder =>
    simp only [Mapping.compare, hrule, Slot.compareAll_eq_map, decide_true, beq_self_eq_true,
      Bool.and_self, if_true]
    refine Checked.all_eq_ok_true.mpr (List.forall_mem_map.mpr ?_)
    exact fun r hr => hall .strict reversed r (List.mem_of_mem_filter hr)
  | byKey =>
    simp only [Mapping.compare, hrule, Slot.compareAll_eq_map, if_true]
    refine Checked.all_eq_ok_true.mpr ?_
    cases reversed with
    | true =>
      refine List.forall_mem_map.mpr fun s hs => ?_
      change s.readOff ((compared .strict true).filter fun r => r.1.isSome) = .ok true
      rw [hfilter]
      exact hread .strict true s (List.mem_of_mem_filter hs)
    | false =>
      refine List.forall_mem_map.mpr ?_
      exact fun r hr => hall .strict false r (List.mem_of_mem_filter hr)

end CompareSelf

end Mapping
/-- Label sets are the same as themselves, position by position. -/
lemma LabelSet.sameAll_self (sets : List LabelSet) : sameAll sets sets = true := by
  induction sets with
  | nil => rfl
  | cons s rest ih =>
    rw [sameAll, (sameLabels_iff s s).mpr (List.Perm.refl _), ih]
    rfl

/-! ## All values -/

/-- A number is equal to itself if it is one. -/
lemma Number.eqv_self {z : Number} (h : z.exact ≠ .nan) : z.eqv z = true :=
  (Extended.eqv_iff z.exact z.exact).mpr ⟨rfl, h⟩

namespace Value

variable {P : Value → Prop} {v x : Value} {m : Mapping}

/-- What holds of a value and of everything in it, at whatever depth. -/
inductive Throughout (P : Value → Prop) : Value → Prop
  | intro {v : Value} (h : P v) (hparts : ∀ u ∈ v.parts, Throughout P u) : Throughout P v

/-- What holds of a value that holds nothing else holds throughout it. -/
lemma Throughout.of_parts_eq_nil (h : P v) (hparts : v.parts = []) : v.Throughout P :=
  .intro h (by simp [hparts])

/-- What holds throughout a value holds of it. -/
lemma Throughout.self (h : v.Throughout P) : P v := by
  obtain ⟨h, -⟩ := h
  exact h

/-- What holds throughout a value holds throughout what it holds. -/
lemma Throughout.of_mem_parts (h : v.Throughout P) (hx : x ∈ v.parts) : x.Throughout P := by
  obtain ⟨-, hparts⟩ := h
  exact hparts x hx

/-- Nothing in the value is not a number. -/
def IsNaNFree (v : Value) : Prop :=
  v.Throughout fun u => ∀ x i, u = .float x i → Binary64.exact x ≠ .nan

/-- All mappings in the value are dictionaries. -/
def HoldsDictionaries (v : Value) : Prop :=
  v.Throughout fun u => ∀ m, u = .mapping m → m.IsDictionary

/-- **A value is equal to itself, and alike,** if nothing in it is not a number and the mappings in
it are dictionaries. The comparison does not fail, whichever side leads it.

**Proof sketch.** Induction on what the value holds. What it holds compares with itself where it is
held, so that sequences, labels, server descriptions and mappings do; all else is compared as a
whole. -/
theorem compare_self (hnumber : v.IsNaNFree) (hdict : v.HoldsDictionaries) (how : Likeness)
    (reversed : Bool) : compare how reversed v v = .ok true := by
  unfold IsNaNFree at hnumber
  induction hnumber generalizing how reversed with
  | @intro v hnan _ ih =>
    have hheld : ∀ u ∈ v.parts, ∀ how reversed, compareHeld how reversed u u = .ok true :=
      fun u hu how reversed => compareHeld_of_compare (ih u hu (hdict.of_mem_parts hu) how reversed)
    have hparts : ∀ how reversed, List.Forall₂ (fun x y => compareHeld how reversed x y = .ok true)
        v.parts v.parts :=
      fun how reversed => List.forall₂_same.mpr fun u hu => hheld u hu how reversed
    cases v with
    | null => rfl
    | bool p => exact congrArg Except.ok (beq_self_eq_true p)
    | int n => exact congrArg Except.ok (Number.eqv_self (z := .int n.value) nofun)
    | float x i => exact congrArg Except.ok (Number.eqv_self (z := .float x) (hnan x i rfl))
    | text s => exact congrArg Except.ok (beq_self_eq_true s)
    | bytes bs => exact congrArg Except.ok (beq_self_eq_true bs)
    | list i xs =>
      have hitems := compareItems_eq_ok_true.mpr (hparts how reversed)
      cases how <;> exact (if_pos rfl).trans hitems
    | tuple xs =>
      have hitems := compareItems_eq_ok_true.mpr (hparts how reversed)
      cases how with
      | strict => exact hitems
      | structural =>
        have hlength : (false || decide (xs.length = xs.length)) = true := by simp
        exact (if_pos hlength).trans hitems
    | mapping m => exact Mapping.compare_self (hdict.self m rfl) hheld how reversed
    | regex p flags =>
      cases how with
      | strict => exact congrArg Except.ok (by simp [Likeness.regexAgainst])
      | structural => exact congrArg Except.ok (beq_self_eq_true _)
    | compiled p flags =>
      cases how with
      | strict => exact congrArg Except.ok (by simp [Likeness.compiledAgainst])
      | structural => exact congrArg Except.ok (beq_self_eq_true _)
    | label l =>
      have hfields := compareFields_of_forall₂ (hparts how reversed)
      cases how <;> exact hfields
    | labels s => exact congrArg Except.ok ((LabelSet.sameLabels_iff s s).mpr (List.Perm.refl _))
    | server s =>
      have hlabels := (LabelSet.sameLabels_iff s.labels s.labels).mpr (List.Perm.refl _)
      exact compare_server_of_forall₂ (hparts .strict reversed) hlabels
    | preference p =>
      exact congrArg Except.ok
        (Bool.and_eq_true_iff.mpr ⟨beq_self_eq_true p.mode, LabelSet.sameAll_self p.tagSets⟩)
    | source r => exact congrArg Except.ok (beq_self_eq_true _)
    | builder b => exact compare_self_of_isObject (a := .builder b) trivial how
    | cluster c => exact compare_self_of_isObject (a := .cluster c) trivial how
    | average a => exact compare_self_of_isObject (a := .average a) trivial how
    | reply r => exact compare_self_of_isObject (a := .reply r) trivial how
    | settings s => exact compare_self_of_isObject (a := .settings s) trivial how
    | stranger i => exact compare_self_of_isObject (a := .stranger i) trivial how
    | mode m => exact congrArg Except.ok (beq_self_eq_true m)
    | serverType t => exact congrArg Except.ok (beq_self_eq_true t)
    | clusterType t => exact congrArg Except.ok (beq_self_eq_true t)

end Value

end ReadRouting
