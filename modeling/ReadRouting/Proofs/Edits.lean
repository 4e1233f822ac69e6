import ReadRouting.Proofs.Entries

set_option autoImplicit false
set_option relaxedAutoImplicit false

/-!
# What edits do

What each edit of a mapping yields and leaves behind, also where it fails, and what any sequence of
edits makes of a new document: the names under which it stores something can be used as keys. The
names in its order need not: setting fails for one that cannot be used as a key, but notes it.

## Main definitions

* `ReadRouting.Editing.Keeps` — what holds of a mapping before an edit holds after it.
* `ReadRouting.KeyedEdit`, `ReadRouting.DocumentEdit` — the edits under a name, and all edits.
* `ReadRouting.Mapping.IsReached` — a document that edits lead to from a new one.
* `ReadRouting.Mapping.IsStable` — what storing, noting and removing keep.
* `ReadRouting.Mapping.Sound` — what any edits keep of a document.

## Main results

* `ReadRouting.Mapping.run_set_of_not_hashable`, `ReadRouting.Mapping.run_erase_of_not_hashable` —
  setting and removing under a name that cannot be used as a key.
* `ReadRouting.Mapping.run_put`, `run_setDefault`, `run_pop` — the edits composed of these.
* `ReadRouting.DocumentEdit.keeps` — what one edit preserves.
* `ReadRouting.Mapping.IsReached.of_isStable` — what any sequence of edits preserves.
* `ReadRouting.Mapping.IsReached.sound` — a document that edits lead to is sound.
-/

namespace ReadRouting

/-- An edit that looks at the mapping first goes on with what it sees. -/
lemma Editing.run_get_bind {α : Type} (f : Mapping → Editing α) (m : Mapping) :
    ((get : Editing Mapping) >>= f).run.run m = (f m).run.run m := rfl

namespace Mapping

variable {m : Mapping} {k : Key} {name v : Value} {slots rest : List Slot}

/-- The mapping with the place of a name noted, and nothing stored under it. -/
def noted (m : Mapping) (name : Value) : Mapping := { m with slots := m.slots ++ [⟨name, none⟩] }

/-! ## Slots -/

/-- What is stored under a key is in a slot. -/
lemma any_isAt_of_lookup? (h : m.lookup? k = some v) : m.slots.any (Slot.isAt k) = true := by
  obtain ⟨s, hs, -⟩ := Option.bind_eq_some_iff.mp h
  exact List.any_eq_true.mpr ⟨s, List.mem_of_find?_eq_some hs, List.find?_some hs⟩

/-- A slot after storing is one that was there before, or has the key. -/
lemma key?_of_mem_storeSlots (hk : name.key? = some k) {s : Slot}
    (h : s ∈ storeSlots k name v slots) : s ∈ slots ∨ s.key.key? = some k := by
  induction slots with
  | nil =>
    rw [List.mem_singleton.mp h]
    exact Or.inr hk
  | cons t rest ih =>
    rw [storeSlots] at h
    split at h
    · next hat =>
      rcases List.mem_cons.mp h with rfl | h
      · exact Or.inr (beq_iff_eq.mp hat)
      · exact Or.inl (List.mem_cons_of_mem t h)
    · rcases List.mem_cons.mp h with rfl | h
      · exact Or.inl List.mem_cons_self
      · exact (ih h).imp_left (List.mem_cons_of_mem t)

/-- Removing the slot of a key adds none. -/
lemma removeSlot_sublist (k : Key) (slots : List Slot) :
    (removeSlot k slots).Sublist slots := by
  induction slots with
  | nil => exact List.Sublist.slnil
  | cons s rest ih =>
    rw [removeSlot]
    split
    · exact List.sublist_cons_self s rest
    · exact ih.cons_cons s

/-- The slot that is left out is the one of a name that equals the given one. -/
lemma withoutName?_eq_some (h : withoutName? name slots = .ok (some rest)) :
    ∃ before s after, slots = before ++ s :: after ∧ rest = before ++ after ∧
      s.key.heldEquals name = .ok true := by
  induction slots generalizing rest with
  | nil => cases h
  | cons s slots ih =>
    obtain ⟨found, hfound, h⟩ := Checked.bind_eq_ok h
    cases found with
    | true =>
      cases h
      exact ⟨[], s, slots, rfl, rfl, hfound⟩
    | false =>
      obtain ⟨left, hleft, h⟩ := Checked.bind_eq_ok h
      obtain ⟨rest, rfl, rfl⟩ := Option.map_eq_some_iff.mp (Except.ok.inj h)
      obtain ⟨before, t, after, rfl, rfl, ht⟩ := ih hleft
      exact ⟨s :: before, t, after, rfl, rfl, ht⟩

/-- A slot is left out exactly if the name is found in the order. -/
lemma isAmong_order (name : Value) (m : Mapping) :
    name.isAmong m.order = (withoutName? name m.slots).map Option.isSome := by
  unfold order
  induction m.slots with
  | nil => rfl
  | cons s slots ih =>
    rw [List.map_cons, Value.isAmong, withoutName?, ih]
    rcases s.key.heldEquals name with f | _ | _
    · rfl
    · rcases withoutName? name slots with f | _ | _ <;> rfl
    · rfl

/-! ## Setting and removing -/

/-- Setting fails under a name that cannot be used as a key. The name is noted if it is not in the
order yet, which its comparison with the names there has to tell. -/
theorem run_set_of_not_hashable (hname : name.key? = none) (hkind : m.kind ≠ .plain) :
    (set name v).run.run m =
      match name.isAmong m.order with
      | .ok true => (.error .unsupported, m)
      | .ok false => (.error .unsupported, m.noted name)
      | .error f => (.error f, m) := by
  have hordered : (m.kind != .plain) = true := bne_iff_ne.mpr hkind
  unfold set
  rw [Editing.run_get_bind, hname]
  simp only [hordered, if_true]
  rcases name.isAmong m.order with f | _ | _ <;> rfl

/-- Removing takes the slot of the key. -/
lemma run_erase (hk : name.key? = some k) (h : m.slots.any (Slot.isAt k) = true) :
    (erase name).run.run m = (.ok (), { m with slots := removeSlot k m.slots }) := by
  unfold erase
  rw [Editing.run_get_bind, hk]
  simp only [h, if_true]
  rfl

/-- Removing fails for a key that has no slot. -/
lemma run_erase_of_missing (hk : name.key? = some k) (h : ¬ m.slots.any (Slot.isAt k) = true) :
    ∃ f, (erase name).run.run m = (.error f, m) := by
  refine ⟨if m.kind = .plain then .missingKey else .illFormed, ?_⟩
  unfold erase
  rw [Editing.run_get_bind, hk]
  simp only [if_neg h]
  rfl

/-- Removing fails for a name that cannot be used as a key. Where it is in the order, it is taken
out of it. -/
theorem run_erase_of_not_hashable (hname : name.key? = none) (hkind : m.kind ≠ .plain) :
    (erase name).run.run m =
      match withoutName? name m.slots with
      | .ok none => (.error .illFormed, m)
      | .ok (some rest) => (.error .unsupported, { m with slots := rest })
      | .error f => (.error f, m) := by
  unfold erase
  rw [Editing.run_get_bind, hname]
  simp only [if_neg hkind]
  rcases withoutName? name m.slots with f | _ | _ <;> rfl

/-! ## Edits that look first -/

/-- Putting looks for what is stored under the key, and fails before it stores anything. -/
theorem run_put (name v : Value) (m : Mapping) :
    (put name v).run.run m =
      match name.key? with
      | none => (.error .unsupported, m)
      | some k => (.ok ((m.lookup? k).getD .null), m.store k name v) := by
  unfold put
  rw [Editing.run_get_bind, getD, fetch]
  cases hk : name.key? with
  | none => rfl
  | some k =>
    cases hlookup : m.lookup? k <;> simp only [hlookup] <;> exact run_bind_ok (run_set hk m)

/-- Setting a default looks for what is stored under the key, and fails before it stores
anything. -/
theorem run_setDefault (name v : Value) (m : Mapping) :
    (setDefault name v).run.run m =
      match name.key? with
      | none => (.error .unsupported, m)
      | some k =>
        match m.lookup? k with
        | some old => (.ok old, m)
        | none => (.ok v, m.store k name v) := by
  unfold setDefault
  rw [Editing.run_get_bind, fetch]
  cases hk : name.key? with
  | none => rfl
  | some k =>
    cases hlookup : m.lookup? k with
    | some old =>
      simp only [hlookup]
      rfl
    | none =>
      simp only [hlookup]
      exact run_bind_ok (run_set hk m)

/-- Popping looks for what is stored under the key, and fails before it removes anything. -/
theorem run_pop (hkind : m.kind ≠ .plain) (name : Value) (fallback : Option Value) :
    (pop name fallback).run.run m =
      match name.key? with
      | none => (.error .unsupported, m)
      | some k =>
        match m.lookup? k, fallback with
        | some old, _ => (.ok old, { m with slots := removeSlot k m.slots })
        | none, some v => (.ok v, m)
        | none, none => (.error .missingKey, m) := by
  have hordered : decide (m.kind = .plain) = false := decide_eq_false hkind
  unfold pop
  rw [Editing.run_get_bind, fetchToRemove, hordered, Bool.false_and, fetch]
  cases hk : name.key? with
  | none => cases fallback <;> rfl
  | some k =>
    cases hlookup : m.lookup? k with
    | some old =>
      simp only [hlookup]
      exact run_bind_ok (run_erase hk (any_isAt_of_lookup? hlookup))
    | none =>
      simp only [hlookup]
      cases fallback <;> rfl

end Mapping

/-! ## What edits keep -/

namespace Editing

variable {α β : Type} {P : Mapping → Prop} {x : Editing α} {f : α → Editing β}

/-- What holds of a mapping before an edit holds after it, also when the edit fails. -/
def Keeps (P : Mapping → Prop) (x : Editing α) : Prop := ∀ m, P m → P (x.run.run m).2

/-- A check keeps everything. -/
lemma keeps_ofChecked (c : Checked α) : Keeps P (ofChecked c) := fun _ hm => hm

/-- What two edits keep, they keep one after the other. -/
lemma Keeps.bind (hx : Keeps P x) (hf : ∀ a, Keeps P (f a)) : Keeps P (x >>= f) := by
  intro m hm
  have hafter := hx m hm
  rcases hrun : x.run.run m with ⟨e | a, after⟩
  · rw [hrun] at hafter
    rwa [run_bind_error hrun]
  · rw [hrun] at hafter
    rw [run_bind_ok hrun]
    exact hf a after hafter

/-- What edits a mapping by the look of it is one of several edits. -/
lemma Keeps.of_get {f : Mapping → Editing β} (hf : ∀ m, Keeps P (f m)) :
    Keeps P (get >>= f) :=
  Keeps.bind (fun _ hm => hm) hf

end Editing

/-! ## Documents that edits lead to -/

/-- An edit under a name. -/
inductive KeyedEdit
  | set (name v : Value)
  /-- Sets, and hands the document back. -/
  | append (name v : Value)
  | put (name v : Value)
  | setDefault (name v : Value)
  | pop (name : Value) (fallback : Option Value)
  | erase (name : Value)

/-- Makes an edit under a name, and yields what it yields, if anything. -/
def KeyedEdit.perform : KeyedEdit → Editing (Option Value)
  | set name v => do
    Mapping.set name v
    return none
  | append name v => do
    Mapping.set name v
    return some (.mapping (← get))
  | put name v => do return some (← Mapping.put name v)
  | setDefault name v => do return some (← Mapping.setDefault name v)
  | pop name fallback => do return some (← Mapping.pop name fallback)
  | erase name => do
    Mapping.erase name
    return none

/-- An edit of a document. -/
inductive DocumentEdit
  | keyed (e : KeyedEdit)
  | popItem
  | update (other : Value)
  | clear

/-- Makes an edit. -/
def DocumentEdit.perform : DocumentEdit → Editing Unit
  | keyed e => do
    let _ ← e.perform
  | popItem => do
    let _ ← Mapping.popItem
  | update other => Mapping.update other
  | clear => Mapping.clear

namespace Mapping

/-- A document that edits lead to from a new one, whether they succeed or fail. What it stores may
have been edited in itself in between. -/
inductive IsReached : Mapping → Prop
  | new (ident : Ident) : IsReached { empty .document with ident := ident }
  | edit {m : Mapping} (h : IsReached m) (e : DocumentEdit) : IsReached (e.perform.run.run m).2
  | altered {m : Mapping} (h : IsReached m) (change : Slot → Value → Value) :
    IsReached { m with slots := m.slots.map fun s => { s with value := s.value.map (change s) } }

/-- What holds of a document whatever is stored in it, noted or removed. -/
structure IsStable (P : Mapping → Prop) : Prop where
  kind_ne_plain {m : Mapping} (hm : P m) : m.kind ≠ .plain
  store {m : Mapping} {k : Key} {name : Value} (hm : P m) (hk : name.key? = some k) (v : Value) :
    P (m.store k name v)
  noted {m : Mapping} {name : Value} (hm : P m) (hname : name.key? = none) : P (m.noted name)
  of_sublist {m : Mapping} {slots : List Slot} (hm : P m) (hslots : slots.Sublist m.slots) :
    P { m with slots := slots }

open Editing

section Stable

variable {P : Mapping → Prop} (h : IsStable P)
include h

/-- Setting stores something, or notes the name, or does nothing. -/
lemma keeps_set (name v : Value) : Keeps P (set name v) := by
  intro m hm
  cases hk : name.key? with
  | some k =>
    rw [run_set hk]
    exact h.store hm hk v
  | none =>
    rw [run_set_of_not_hashable hk (h.kind_ne_plain hm)]
    rcases name.isAmong m.order with f | _ | _
    · exact hm
    · exact h.noted hm hk
    · exact hm

/-- Removing takes a slot away, or does nothing. -/
lemma keeps_erase (name : Value) : Keeps P (erase name) := by
  intro m hm
  cases hk : name.key? with
  | some k =>
    by_cases hat : m.slots.any (Slot.isAt k) = true
    · rw [run_erase hk hat]
      exact h.of_sublist hm (removeSlot_sublist k m.slots)
    · obtain ⟨f, hf⟩ := run_erase_of_missing hk hat
      rwa [hf]
  | none =>
    rw [run_erase_of_not_hashable hk (h.kind_ne_plain hm)]
    rcases hwithout : withoutName? name m.slots with f | _ | rest
    · exact hm
    · exact hm
    · obtain ⟨before, s, after, hslots, rfl, -⟩ := withoutName?_eq_some hwithout
      refine h.of_sublist hm ?_
      rw [hslots]
      exact (List.Sublist.refl before).append (List.sublist_cons_self s after)

/-- Setting several entries is setting each. -/
lemma keeps_setAll (entries : List (Value × Value)) : Keeps P (setAll entries) := by
  induction entries with
  | nil => exact keeps_ofChecked (.ok ())
  | cons e rest ih => exact (keeps_set h e.1 e.2).bind fun _ => ih

/-- Setting several pairs is setting each, up to the first that is none. -/
lemma keeps_setPairs (items : List Value) : Keeps P (setPairs items) := by
  induction items with
  | nil => exact keeps_ofChecked (.ok ())
  | cons item rest ih =>
    exact (keeps_ofChecked item.pair).bind fun e => (keeps_set h e.1 e.2).bind fun _ => ih

/-- Updating is setting several entries, or pairs. -/
lemma keeps_update (other : Value) : Keeps P (update other) := by
  unfold update
  split
  · exact keeps_setAll h _
  · refine Keeps.of_get fun m => ?_
    split
    · exact keeps_ofChecked (.error .unsupported)
    · exact keeps_ofChecked (.ok ())
  · exact (keeps_ofChecked _).bind (keeps_setPairs h)

/-- Removing the first entry is removing it. -/
lemma keeps_popItem : Keeps P popItem := by
  refine Keeps.of_get fun m => ?_
  split
  · exact keeps_ofChecked (.error .missingKey)
  · exact (keeps_erase h _).bind fun _ => keeps_ofChecked (.ok _)

/-- Putting is setting, after a look. -/
lemma keeps_put (name v : Value) : Keeps P (put name v) :=
  Keeps.of_get fun _ => (keeps_ofChecked _).bind fun _ =>
    (keeps_set h name v).bind fun _ => keeps_ofChecked (.ok _)

/-- Setting a default is setting, or nothing. -/
lemma keeps_setDefault (name v : Value) : Keeps P (setDefault name v) := by
  refine Keeps.of_get fun m => ?_
  split
  · exact keeps_ofChecked (.ok _)
  · exact (keeps_set h name v).bind fun _ => keeps_ofChecked (.ok v)
  · exact keeps_ofChecked (.error _)

/-- Popping is removing, or nothing. -/
lemma keeps_pop (name : Value) (fallback : Option Value) : Keeps P (pop name fallback) := by
  refine Keeps.of_get fun m => ?_
  split
  · exact (keeps_erase h name).bind fun _ => keeps_ofChecked (.ok _)
  · exact keeps_ofChecked (.ok _)
  · exact keeps_ofChecked (.error _)

end Stable

end Mapping

open Editing Mapping

section Stable

variable {P : Mapping → Prop} (h : IsStable P)
include h

/-- An edit under a name keeps what is stable. -/
lemma KeyedEdit.keeps (e : KeyedEdit) : Keeps P e.perform := by
  cases e with
  | set name v => exact (keeps_set h name v).bind fun _ => keeps_ofChecked (.ok none)
  | append name v =>
    exact (keeps_set h name v).bind fun _ => Keeps.of_get fun m => keeps_ofChecked (.ok (some _))
  | put name v => exact (keeps_put h name v).bind fun old => keeps_ofChecked (.ok (some old))
  | setDefault name v =>
    exact (keeps_setDefault h name v).bind fun old => keeps_ofChecked (.ok (some old))
  | pop name fallback =>
    exact (keeps_pop h name fallback).bind fun old => keeps_ofChecked (.ok (some old))
  | erase name => exact (keeps_erase h name).bind fun _ => keeps_ofChecked (.ok none)

/-- **What one edit preserves.** Whatever is stable holds after it, also when it fails. -/
theorem DocumentEdit.keeps (e : DocumentEdit) : Keeps P e.perform := by
  cases e with
  | keyed e => exact (e.keeps h).bind fun _ => keeps_ofChecked (.ok ())
  | popItem => exact (keeps_popItem h).bind fun _ => keeps_ofChecked (.ok ())
  | update other => exact keeps_update h other
  | clear => exact fun m hm => h.of_sublist hm (List.nil_sublist m.slots)

/-- **What any sequence of edits preserves.** Whatever is stable, holds of a new document and does
not depend on the values that are stored, holds of every document that edits lead to. -/
theorem Mapping.IsReached.of_isStable (hnew : ∀ ident, P { empty .document with ident := ident })
    (haltered : ∀ m (change : Slot → Value → Value), P m →
      P { m with slots := m.slots.map fun s => { s with value := s.value.map (change s) } })
    {m : Mapping} (hm : m.IsReached) : P m := by
  induction hm with
  | new ident => exact hnew ident
  | edit _ e ih => exact e.keeps h _ ih
  | altered _ change ih => exact haltered _ change ih

end Stable

/-! ## Sound documents -/

namespace Mapping

variable {m : Mapping} {k : Key} {name v : Value} {slots : List Slot}

/-- What any edits keep of a document: it stores something only under names that can be used as
keys. -/
structure Sound (m : Mapping) : Prop where
  kind : m.kind = .document
  isHashable : ∀ s ∈ m.slots, s.value.isSome = true → s.key.isHashable = true

/-- A document is not plain. -/
lemma Sound.kind_ne_plain (h : m.Sound) : m.kind ≠ .plain := by
  rw [h.kind]
  exact MappingKind.noConfusion

/-- A document stays sound if a value is stored. -/
lemma Sound.store (h : m.Sound) (hk : name.key? = some k) (v : Value) :
    (m.store k name v).Sound where
  kind := h.kind
  isHashable s hs hvalue := by
    rcases key?_of_mem_storeSlots hk hs with hs | hkey
    · exact h.isHashable s hs hvalue
    · exact Option.isSome_of_eq_some hkey

/-- A document stays sound if a name is noted. -/
lemma Sound.noted (h : m.Sound) (name : Value) : (m.noted name).Sound where
  kind := h.kind
  isHashable s hs hvalue := by
    rcases List.mem_append.mp hs with hs | hs
    · exact h.isHashable s hs hvalue
    · rw [List.mem_singleton.mp hs] at hvalue
      cases hvalue

/-- A document stays sound if slots are removed. -/
lemma Sound.of_sublist (h : m.Sound) (hslots : slots.Sublist m.slots) :
    Sound { m with slots := slots } where
  kind := h.kind
  isHashable s hs := h.isHashable s (hslots.subset hs)

/-- A document stays sound if other values are stored in its slots. -/
lemma Sound.altered (h : m.Sound) (change : Slot → Value → Value) :
    Sound { m with slots := m.slots.map fun s => { s with value := s.value.map (change s) } } where
  kind := h.kind
  isHashable s hs hvalue := by
    obtain ⟨t, ht, rfl⟩ := List.mem_map.mp hs
    exact h.isHashable t ht (by simpa using hvalue)

/-- To be sound is stable. -/
lemma isStable_sound : IsStable Sound where
  kind_ne_plain := Sound.kind_ne_plain
  store h := h.store
  noted h _ := h.noted _
  of_sublist := Sound.of_sublist

/-- A document that edits lead to is sound. -/
theorem IsReached.sound (h : m.IsReached) : m.Sound :=
  h.of_isStable isStable_sound (fun _ => ⟨rfl, nofun⟩) fun _ change hm => hm.altered change

end Mapping

end ReadRouting
