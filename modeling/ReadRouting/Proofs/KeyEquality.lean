import ReadRouting.Proofs.SameKey

set_option autoImplicit false
set_option relaxedAutoImplicit false

/-!
# Equality and what can be used as a key

What equals a value that can be used as a key can be used as one itself. So what cannot be used as
a key is never found among the keys under which a mapping stores something: where it is found in
the order of a mapping, nothing is stored under it.

## Main results

* `ReadRouting.Value.induction_parts` — induction on what a value holds.
* `ReadRouting.Value.isHashable_of_compare` — what equals a key can be used as one.
* `ReadRouting.Value.isHashable_of_heldEquals` — the same of what is held by a container.
-/

namespace ReadRouting.Value

variable {a b : Value} {xs ys : List Value} {reversed : Bool}

/-! ## Induction on what a value holds -/

/-- What a value holds is smaller than it. -/
lemma sizeOf_lt_of_mem_parts {u v : Value} (h : u ∈ v.parts) : sizeOf u < sizeOf v := by
  cases v with
  | list i xs =>
    have hx : sizeOf u < sizeOf xs := List.sizeOf_lt_of_mem h
    simp only [list.sizeOf_spec]
    omega
  | tuple xs =>
    have hx : sizeOf u < sizeOf xs := List.sizeOf_lt_of_mem h
    simp only [tuple.sizeOf_spec]
    omega
  | mapping m =>
    obtain ⟨kind, ident, slots⟩ := m
    obtain ⟨e, he, rfl⟩ := List.mem_map.mp h
    obtain ⟨s, hs, heq⟩ := List.mem_filterMap.mp he
    obtain ⟨w, hw, rfl⟩ := Option.map_eq_some_iff.mp heq
    have hslot := List.sizeOf_lt_of_mem hs
    obtain ⟨key, value⟩ := s
    obtain rfl : value = some w := hw
    simp only [mapping.sizeOf_spec, Mapping.mk.sizeOf_spec, Slot.mk.sizeOf_spec,
      Option.some.sizeOf_spec] at hslot ⊢
    omega
  | label l =>
    obtain ⟨name, value⟩ := l
    simp only [label.sizeOf_spec, Label.mk.sizeOf_spec]
    rcases List.mem_pair.mp h with rfl | rfl <;> omega
  | server s =>
    obtain ⟨ident, address, reachable, primary, secondary, ping, labels, maxDocumentSize⟩ := s
    simp only [server.sizeOf_spec, Server.mk.sizeOf_spec]
    simp only [parts, List.mem_cons, List.not_mem_nil, or_false] at h
    rcases h with rfl | rfl | rfl | rfl | rfl | rfl <;> omega
  | _ => cases h

/-- What holds of a value if it holds of all that the value holds, holds of all values. -/
theorem induction_parts {P : Value → Prop} (h : ∀ v, (∀ u ∈ v.parts, P u) → P v) (v : Value) :
    P v :=
  h v fun u _ => induction_parts h u
termination_by sizeOf v
decreasing_by exact sizeOf_lt_of_mem_parts ‹_›

/-! ## What can be used as a key -/

/-- A number can be used as a key. -/
lemma isHashable_of_number? {z : Number} (h : b.number? = some z) : b.isHashable = true := by
  cases b <;> first | rfl | cases h

/-- A label can be used as a key exactly if its fields can. -/
lemma isHashable_label_iff {l : Label} :
    (label l).isHashable = true ↔ ∀ x ∈ l.fields, x.isHashable = true := by
  rw [isHashable, key?, l.key?_eq_runKey?, isSome_runKey?_iff]

/-! ## What equals a key -/

/-- One and the same object can be used as a key on both sides, or on none. -/
lemma isHashable_of_exempt {how : Likeness} (h : how.exempt a b = true)
    (ha : a.isHashable = true) : b.isHashable = true := by
  unfold Likeness.exempt at h
  split at h
  · rfl
  · cases ha
  · cases h

/-- What equals the items of a run item by item can be used as keys if they can. -/
lemma forall_isHashable_of_forall₂
    (h : List.Forall₂ (fun x y => compareHeld .strict reversed x y = .ok true) xs ys)
    (hcompare : ∀ x ∈ xs, ∀ y, compare .strict reversed x y = .ok true → y.isHashable = true)
    (hxs : ∀ x ∈ xs, x.isHashable = true) : ∀ y ∈ ys, y.isHashable = true := by
  induction h with
  | nil => exact nofun
  | @cons x y xs ys hxy _ ih =>
    obtain ⟨hx, hxs⟩ := List.forall_mem_cons.mp hxs
    obtain ⟨hfirst, hrest⟩ := List.forall_mem_cons.mp hcompare
    refine List.forall_mem_cons.mpr ⟨?_, ih hrest hxs⟩
    unfold compareHeld at hxy
    split at hxy
    · next hexempt => exact isHashable_of_exempt hexempt hx
    · exact hfirst y hxy

/-- **What equals a key can be used as one**, whichever side leads the comparison. -/
theorem isHashable_of_compare (h : compare .strict reversed a b = .ok true)
    (ha : a.isHashable = true) : b.isHashable = true := by
  induction a using induction_parts generalizing b reversed with
  | h a ih =>
    have hheld : ∀ {reversed : Bool} {ys : List Value},
        List.Forall₂ (fun x y => compareHeld .strict reversed x y = .ok true) a.parts ys →
        (∀ x ∈ a.parts, x.isHashable = true) → ∀ y ∈ ys, y.isHashable = true :=
      fun hcompare hparts => forall_isHashable_of_forall₂ hcompare
        (fun x hx y hxy => ih x hx hxy (hparts x hx)) hparts
    cases a with
    | null => cases b <;> first | rfl | cases h
    | bool p =>
      obtain ⟨w, hw, -⟩ := eqv_of_boolAgainst (Except.ok.inj h)
      exact isHashable_of_number? hw
    | int n =>
      obtain ⟨w, hw, -⟩ := eqv_of_numberAgainst (Except.ok.inj h)
      exact isHashable_of_number? hw
    | float x i =>
      obtain ⟨w, hw, -⟩ := eqv_of_numberAgainst (Except.ok.inj h)
      exact isHashable_of_number? hw
    | list i xs => cases ha
    | tuple xs =>
      replace ha := isSome_runKey?_iff.mp ha
      cases b with
      | tuple ys =>
        exact isSome_runKey?_iff.mpr (hheld (compareItems_eq_ok_true.mp h) ha)
      | label l =>
        exact isHashable_label_iff.mpr (hheld (compareItems_eq_ok_true.mp h) ha)
      | _ => cases h
    | mapping m => cases ha
    | regex p flags => cases ha
    | label l =>
      rw [isHashable_label_iff] at ha
      cases b with
      | tuple ys =>
        exact isSome_runKey?_iff.mpr
          (hheld (compareItems_eq_ok_true.mp (compareItems_of_compareFields h)) ha)
      | label l' =>
        exact isHashable_label_iff.mpr
          (hheld (compareItems_eq_ok_true.mp (compareItems_of_compareFields h)) ha)
      | _ => cases h
    | labels s =>
      cases b with
      | labels t =>
        have hkey : (labels s).key? = (labels t).key? :=
          LabelSet.key?_eq_of_sameLabels (Except.ok.inj h)
        rwa [isHashable, ← hkey]
      | _ => cases h
    | server s =>
      cases b with
      | server t =>
        obtain ⟨hfields, hlabels⟩ := compareHeld_of_compare_server h
        obtain ⟨hparts, hkey⟩ := isHashable_server_iff.mp ha
        refine isHashable_server_iff.mpr ⟨hheld hfields hparts, ?_⟩
        rwa [← LabelSet.key?_eq_of_sameLabels hlabels]
      | _ => cases h
    | preference p =>
      cases b with
      | preference q =>
        have hkey : (preference p).key? = (preference q).key? :=
          Preference.key?_eq_of_same (Except.ok.inj h)
        rwa [isHashable, ← hkey]
      | _ => cases h
    | _ => cases b <;> first | rfl | cases h

/-- What equals a key that is held by a container can be used as one. -/
theorem isHashable_of_heldEquals (h : a.heldEquals b = .ok true) (ha : a.isHashable = true) :
    b.isHashable = true := by
  unfold heldEquals at h
  split at h
  · next hexempt => exact isHashable_of_exempt hexempt ha
  · exact isHashable_of_compare h ha

end ReadRouting.Value
