import Mathlib.Data.List.Nodup
import ReadRouting.Mapping.Edit
import ReadRouting.Proofs.Results

set_option autoImplicit false
set_option relaxedAutoImplicit false

/-!
# Mappings made from entries

What a mapping holds after entries have been stored in it one after the other: a slot for each key
that occurs, and in it the value of the last entry with that key. Where no key occurs twice, the
slots are the entries.

## Main definitions

* `ReadRouting.Mapping.storeAll` — the mapping with all entries stored.
* `ReadRouting.Mapping.lastStored?` — the value of the last entry with a key.

## Main results

* `ReadRouting.Mapping.ofEntries_eq` — making a mapping from entries whose names have keys succeeds.
* `ReadRouting.Mapping.lookup?_storeAll` — the last entry with a key counts.
* `ReadRouting.Mapping.nodup_slotKeys_storeAll` — each key has one slot.
* `ReadRouting.Mapping.slots_storeAll_of_nodup` — the slots, where no key occurs twice.
-/

namespace ReadRouting

namespace Mapping

variable {m : Mapping} {entries : List (Value × Value)} {e : Value × Value} {k l : Key}
  {name v : Value} {slots : List Slot} {s : Slot}

/-- The keys of the slots of a mapping. -/
def slotKeys (m : Mapping) : List (Option Key) := m.slots.map (·.key.key?)

/-- The mapping with entries stored one after the other. -/
def storeAll (m : Mapping) (entries : List (Value × Value)) : Mapping :=
  entries.foldl (fun m e => m.store (e.1.key?.getD .null) e.1 e.2) m

/-- The value of the last entry with a key. -/
def lastStored? (entries : List (Value × Value)) (k : Key) : Option Value :=
  (entries.findRev? fun e => e.1.key? == some k).map (·.2)

/-- The last entry with a key is one of the entries with it. -/
lemma exists_of_lastStored? (h : lastStored? entries k = some v) :
    ∃ e ∈ entries, e.1.key? = some k ∧ e.2 = v := by
  rw [lastStored?, List.findRev?_eq_find?_reverse, Option.map_eq_some_iff] at h
  obtain ⟨e, he, hv⟩ := h
  refine ⟨e, List.mem_reverse.mp (List.mem_of_find?_eq_some he), ?_, hv⟩
  exact beq_iff_eq.mp (List.find?_some (p := fun e : Value × Value => e.1.key? == some k) he)

/-- There is a last entry with a key if there is any. -/
lemma isSome_lastStored? (he : e ∈ entries) (hk : e.1.key? = some k) :
    (lastStored? entries k).isSome = true := by
  rw [lastStored?, List.findRev?_eq_find?_reverse, Option.isSome_map, List.find?_isSome]
  exact ⟨e, List.mem_reverse.mpr he, beq_iff_eq.mpr hk⟩

/-! ## Setting entries never fails if their names have keys -/

/-- A value is stored under a name that has a key. -/
lemma run_set (hk : name.key? = some k) (m : Mapping) :
    (set name v).run.run m = (.ok (), m.store k name v) := by
  unfold set
  rw [hk]
  rfl

/-- The names under which a mapping stores something are those of its slots if each slot stores
something. -/
lemma keys_eq_slotKeys (h : ∀ s ∈ m.slots, ∃ v, s.value = some v) : m.keys = m.slotKeys := by
  obtain ⟨kind, ident, slots⟩ := m
  simp only [keys, entries, slotKeys] at h ⊢
  induction slots with
  | nil => rfl
  | cons s rest ih =>
    obtain ⟨v, hv⟩ := h s List.mem_cons_self
    rw [List.filterMap_cons, hv, Option.map_some, List.map_cons,
      ih fun t ht => h t (List.mem_cons_of_mem s ht), List.map_cons]

/-- One entry is stored, and then the others. -/
lemma storeAll_cons (hk : e.1.key? = some k) (m : Mapping) :
    m.storeAll (e :: entries) = (m.store k e.1 e.2).storeAll entries := by
  rw [storeAll, List.foldl_cons, hk]
  rfl

/-- Setting all entries stores all of them. -/
lemma run_setAll (h : ∀ e ∈ entries, e.1.isHashable = true) (m : Mapping) :
    (setAll entries).run.run m = (.ok (), m.storeAll entries) := by
  induction entries generalizing m with
  | nil => rfl
  | cons e rest ih =>
    obtain ⟨k, hk⟩ := Option.isSome_iff_exists.mp (h e List.mem_cons_self)
    have hrest : ∀ e ∈ rest, e.1.isHashable = true := fun e he => h e (List.mem_cons_of_mem _ he)
    rw [storeAll_cons hk, ← ih hrest]
    exact run_bind_ok (run_set hk m)

/-- A mapping made from entries has all of them stored. -/
theorem ofEntries_eq (kind : MappingKind) (h : ∀ e ∈ entries, e.1.isHashable = true) :
    ofEntries kind entries = .ok ((empty kind).storeAll entries) := by
  rw [ofEntries, run_setAll h]

/-! ## The slots after one value is stored -/

/-- Storing under a key that has no slot adds one at the end. -/
lemma storeSlots_of_not_mem (h : some k ∉ slots.map (·.key.key?)) (name v : Value) :
    storeSlots k name v slots = slots ++ [⟨name, some v⟩] := by
  induction slots with
  | nil => rfl
  | cons s rest ih =>
    rw [List.map_cons, List.mem_cons, not_or] at h
    have hs : s.isAt k = false := beq_eq_false_iff_ne.mpr fun heq => h.1 heq.symm
    rw [storeSlots, hs, ih h.2]
    rfl

/-- Storing leaves the names as they are, and adds one at the end if the key has no slot. -/
lemma map_key_storeSlots (k : Key) (name v : Value) (slots : List Slot) :
    (storeSlots k name v slots).map (·.key) =
      if slots.any (Slot.isAt k) then slots.map (·.key) else slots.map (·.key) ++ [name] := by
  induction slots with
  | nil => rfl
  | cons s rest ih =>
    rw [storeSlots, List.any_cons]
    by_cases hs : s.isAt k = true
    · rw [if_pos hs, hs, Bool.true_or, if_pos rfl]
      rfl
    · rw [if_neg hs, eq_false_of_ne_true hs, Bool.false_or, List.map_cons, ih]
      split <;> rfl

/-- Storing under a key that has a slot leaves all keys as they are. -/
lemma map_key?_storeSlots_of_mem (h : some k ∈ slots.map (·.key.key?)) (name v : Value) :
    (storeSlots k name v slots).map (·.key.key?) = slots.map (·.key.key?) := by
  obtain ⟨s, hs, hk⟩ := List.mem_map.mp h
  have hany : slots.any (Slot.isAt k) = true := List.any_eq_true.mpr ⟨s, hs, beq_iff_eq.mpr hk⟩
  have hnames := congrArg (List.map Value.key?) (map_key_storeSlots k name v slots)
  rwa [if_pos hany, List.map_map, List.map_map] at hnames

/-- A key that has no slot gets one at the end. -/
lemma slotKeys_store (hk : name.key? = some k) (m : Mapping) (v : Value) :
    (m.store k name v).slotKeys =
      if some k ∈ m.slotKeys then m.slotKeys else m.slotKeys ++ [some k] := by
  split
  · next h => exact map_key?_storeSlots_of_mem h name v
  · next h =>
    rw [slotKeys, store, storeSlots_of_not_mem h, List.map_append, List.map_singleton, hk]
    rfl

/-- A slot after storing is one that was there before, or stores the new value under the new name
or under the one that was there. -/
lemma mem_storeSlots (h : s ∈ storeSlots k name v slots) :
    s ∈ slots ∨ s.value = some v ∧ (s.key = name ∨ ∃ t ∈ slots, s.key = t.key) := by
  induction slots with
  | nil =>
    rw [List.mem_singleton.mp h]
    exact Or.inr ⟨rfl, Or.inl rfl⟩
  | cons t rest ih =>
    rw [storeSlots] at h
    split at h
    · rcases List.mem_cons.mp h with rfl | h
      · exact Or.inr ⟨rfl, Or.inr ⟨t, List.mem_cons_self, rfl⟩⟩
      · exact Or.inl (List.mem_cons_of_mem t h)
    · rcases List.mem_cons.mp h with rfl | h
      · exact Or.inl List.mem_cons_self
      · rcases ih h with h | ⟨hv, hkey | ⟨u, hu, hkey⟩⟩
        · exact Or.inl (List.mem_cons_of_mem t h)
        · exact Or.inr ⟨hv, Or.inl hkey⟩
        · exact Or.inr ⟨hv, Or.inr ⟨u, List.mem_cons_of_mem t hu, hkey⟩⟩

/-! ## The slots after all entries are stored -/

/-- What holds of the names and values in a mapping, and of those of the entries, holds of the names
and values in the mapping with the entries stored. -/
lemma forall_slots_storeAll {P Q : Value → Prop}
    (hm : ∀ s ∈ m.slots, P s.key ∧ ∃ v, s.value = some v ∧ Q v)
    (he : ∀ e ∈ entries, P e.1 ∧ Q e.2) :
    ∀ s ∈ (m.storeAll entries).slots, P s.key ∧ ∃ v, s.value = some v ∧ Q v := by
  induction entries generalizing m with
  | nil => exact hm
  | cons e rest ih =>
    refine ih (m := m.store (e.1.key?.getD .null) e.1 e.2) (fun s hs => ?_)
      fun e' he' => he e' (List.mem_cons_of_mem e he')
    obtain ⟨hname, hvalue⟩ := he e List.mem_cons_self
    rcases mem_storeSlots hs with hs | ⟨hv, hkey | ⟨t, ht, hkey⟩⟩
    · exact hm s hs
    · exact ⟨hkey ▸ hname, _, hv, hvalue⟩
    · exact ⟨hkey ▸ (hm t ht).1, _, hv, hvalue⟩

/-- Storing does not change the kind of a mapping. -/
lemma kind_storeAll (m : Mapping) (entries : List (Value × Value)) :
    (m.storeAll entries).kind = m.kind := by
  induction entries generalizing m with
  | nil => rfl
  | cons e rest ih => exact ih (m.store (e.1.key?.getD .null) e.1 e.2)

section Keys

variable (h : ∀ e ∈ entries, e.1.isHashable = true)
include h

/-- No key has two slots if none had before. -/
theorem nodup_slotKeys_storeAll (hm : m.slotKeys.Nodup) : (m.storeAll entries).slotKeys.Nodup := by
  induction entries generalizing m with
  | nil => exact hm
  | cons e rest ih =>
    obtain ⟨k, hk⟩ := Option.isSome_iff_exists.mp (h e List.mem_cons_self)
    rw [storeAll_cons hk]
    refine ih (fun e he => h e (List.mem_cons_of_mem _ he)) ?_
    rw [slotKeys_store hk]
    split
    · exact hm
    · next hmem => exact List.nodup_append_comm.mp (List.nodup_cons.mpr ⟨hmem, hm⟩)

/-- Entries whose keys are all new, and all different, become slots in their order. -/
theorem slots_storeAll_of_nodup (hnodup : (m.slotKeys ++ entries.map (·.1.key?)).Nodup) :
    (m.storeAll entries).slots = m.slots ++ entries.map fun e => ⟨e.1, some e.2⟩ := by
  induction entries generalizing m with
  | nil => simp [storeAll]
  | cons e rest ih =>
    obtain ⟨k, hk⟩ := Option.isSome_iff_exists.mp (h e List.mem_cons_self)
    rw [List.map_cons, hk, List.append_cons] at hnodup
    have hmem : some k ∉ m.slotKeys :=
      (List.nodup_cons.mp (List.nodup_append_comm.mp (List.nodup_append.mp hnodup).1)).1
    have hslots : (m.store k e.1 e.2).slots = m.slots ++ [⟨e.1, some e.2⟩] :=
      storeSlots_of_not_mem hmem e.1 e.2
    have hkeys : (m.store k e.1 e.2).slotKeys = m.slotKeys ++ [some k] := by
      rw [slotKeys_store hk, if_neg hmem]
    rw [storeAll_cons hk, ih (fun e he => h e (List.mem_cons_of_mem _ he)) (hkeys ▸ hnodup), hslots,
      List.map_cons, ← List.append_cons]

/-- Under each key the last entry counts, and what was there before where there is none. -/
theorem lookup?_storeAll (l : Key) :
    (m.storeAll entries).lookup? l = (lastStored? entries l).or (m.lookup? l) := by
  induction entries generalizing m with
  | nil => simp [storeAll, lastStored?]
  | cons e rest ih =>
    obtain ⟨k, hk⟩ := Option.isSome_iff_exists.mp (h e List.mem_cons_self)
    have hlast : lastStored? (e :: rest) l =
        (lastStored? rest l).or (if e.1.key? == some l then some e.2 else none) := by
      simp only [lastStored?, List.findRev?_eq_find?_reverse, List.reverse_cons, List.find?_append,
        Option.map_or, List.find?_singleton]
      split <;> rfl
    have hstep : (m.store k e.1 e.2).lookup? l =
        (if e.1.key? == some l then some e.2 else none).or (m.lookup? l) := by
      by_cases hkl : k = l
      · rw [← hkl, lookup?_store_self m k e.1 e.2 hk, hk, if_pos (beq_self_eq_true _)]
        rfl
      · have hne : ¬ (some k == some l) = true := by simpa using hkl
        rw [lookup?_store_of_ne m (Ne.symm hkl) e.1 e.2 hk, hk, if_neg hne]
        rfl
    rw [storeAll_cons hk, ih fun e he => h e (List.mem_cons_of_mem _ he), hlast, hstep,
      Option.or_assoc]

end Keys

end Mapping

end ReadRouting
