import ReadRouting.Proofs.Alike
import ReadRouting.Proofs.Results

set_option autoImplicit false
set_option relaxedAutoImplicit false

/-!
# The comparison of document values

The comparison by structure never fails on document values, and it decides their likeness, whichever
of the two leads it. What it is therefore follows from what likeness is: it does not depend on the
side, what is alike one and the same is alike, and a value is like itself exactly if nothing in it
is not a number. Equality with a document is likeness.

## Main definitions

* `ReadRouting.Slot.compareTo` — what one slot contributes to the comparison of two mappings.

## Main results

* `ReadRouting.Mapping.compare_decides` — two mappings, by whatever side they are gone through.
* `ReadRouting.Value.compare_decides` — the comparison decides likeness.
* `ReadRouting.Value.document_equals` — equality with a document does too.
* `ReadRouting.Value.alike_partial_equivalence` — the laws of the comparison.
-/

namespace ReadRouting

/-! ## Scalars -/

namespace Likeness

/-- By structure no two values are taken for the same object unseen. -/
lemma exempt_structural (a b : Value) : structural.exempt a b = false := by
  cases a <;> cases b <;> rfl

/-- A number is alike what stands for the same number. -/
lemma numberAgainst_iff (x : Number) (b : Value) :
    structural.numberAgainst x b = true ↔
      some (.number x.exact) = b.scalar? ∧ Scalar.number x.exact ≠ .number .nan := by
  cases b <;>
    simp [numberAgainst, Value.number?, Value.scalar?, Number.eqv, Number.exact, Extended.eqv_iff]

/-- An expression is alike what stands for the same expression. -/
lemma expression_beq_iff (e : Pattern × PatternFlags) (b : Value) :
    (some e == b.expression?) = true ↔ some (.expression e) = b.scalar? := by
  cases b <;> simp [Value.expression?, Value.scalar?]

/-- A tuple compares with what a list compares with. -/
lemma againstTuple_structural (b : Value) :
    structural.againstTuple b = structural.againstList b := by
  cases b <;> rfl

end Likeness

namespace Value

variable {a b : Value}

/-- The comparison of a scalar, with whatever it is compared. -/
lemma compare_scalar {x : Scalar} (ha : a.scalar? = some x) (reversed : Bool) (b : Value) :
    (compare .structural reversed a b).Decides (some x = b.scalar? ∧ x ≠ .number .nan) := by
  cases a <;> cases ha <;> refine Checked.decides_ok ?_
  case null => cases b <;> simp [scalar?]
  case bool p => cases b <;> simp [scalar?, Likeness.boolAgainst]
  case int n => exact Likeness.numberAgainst_iff (.int n.value) b
  case float y i => exact Likeness.numberAgainst_iff (.float y) b
  case text s => cases b <;> simp [scalar?]
  case bytes bs => cases b <;> simp [scalar?]
  case regex p flags => exact (Likeness.expression_beq_iff _ b).trans (by simp)
  case compiled p flags => exact (Likeness.expression_beq_iff _ b).trans (by simp)

/-! ## Sequences -/

/-- Among document values, what a list compares with is what has items. -/
lemma IsData.againstList_eq (hb : b.IsData) :
    Likeness.structural.againstList b = b.elements? := by
  cases hb with
  | scalar h => cases b <;> cases h <;> rfl
  | sequence h => cases b <;> cases h <;> rfl
  | mapping => rfl

/-- A sequence is compared with another one item by item, if they have one length. -/
lemma compare_sequence {xs : List Value} (ha : a.elements? = some xs) (hb : b.IsData)
    (reversed : Bool) :
    compare .structural reversed a b =
      match b.elements? with
      | some ys =>
        if xs.length = ys.length then compareItems .structural reversed xs ys else .ok false
      | none => .ok false := by
  cases a <;> cases ha
  case list i =>
    cases hys : b.elements? with
    | none => simp only [compare, hb.againstList_eq, hys]
    | some ys => simp only [compare, hb.againstList_eq, hys]
  case tuple =>
    rw [compare, Likeness.againstTuple_structural, hb.againstList_eq]
    cases b.elements? with
    | none => rfl
    | some ys => by_cases hlength : xs.length = ys.length <;> simp [hlength, Likeness.ledByRight]

/-- The comparison of items decides whether they are alike position by position, if the comparison
of any two of them does. -/
lemma compareItems_decides {reversed : Bool} {xs ys : List Value}
    (hlength : xs.length = ys.length)
    (h : ∀ x ∈ xs, ∀ y ∈ ys, (compare .structural reversed x y).Decides (Alike x y)) :
    (compareItems .structural reversed xs ys).Decides
      (∀ (i : Nat) (x y : Value), xs[i]? = some x → ys[i]? = some y → Alike x y) := by
  induction xs generalizing ys with
  | nil =>
    cases ys with
    | nil => exact Checked.decides_ok (by simp)
    | cons y ys => cases hlength
  | cons x xs ih =>
    cases ys with
    | nil => cases hlength
    | cons y ys =>
      have hxy := h x List.mem_cons_self y List.mem_cons_self
      have hrest := ih (Nat.succ.inj hlength) fun x' hx y' hy =>
        h x' (List.mem_cons_of_mem x hx) y' (List.mem_cons_of_mem y hy)
      rw [compareItems, Likeness.exempt_structural]
      refine (hxy.and hrest).congr ?_
      constructor
      · rintro ⟨h0, hs⟩ (_ | i) x' y' hx hy
        · cases hx
          cases hy
          exact h0
        · exact hs i x' y' hx hy
      · intro hall
        exact ⟨hall 0 x y rfl rfl, fun i x' y' hx hy => hall (i + 1) x' y' hx hy⟩

end Value

/-! ## Mappings -/

/-- What a slot stores, compared with what another mapping stores under the key of the slot. -/
def Slot.compareTo (how : Likeness) (reversed : Bool) (other : Mapping) (s : Slot) :
    Checked Bool :=
  match s.value with
  | none => .error .unsupported
  | some v =>
    match s.key.key?.bind other.lookup? with
    | none => .ok false
    | some w => if how.exempt v w then .ok true else Value.compare how reversed v w

/-- The slots of a mapping are compared one by one. -/
lemma Slot.compareAll_eq_map (how : Likeness) (reversed : Bool) (other : Mapping)
    (slots : List Slot) :
    Slot.compareAll how reversed other slots =
      slots.map fun s => (s.key.key?, s.compareTo how reversed other) := by
  induction slots with
  | nil => rfl
  | cons s rest ih =>
    obtain ⟨key, _ | v⟩ := s <;> rw [Slot.compareAll, ih] <;> rfl

namespace Mapping

variable {m n : Mapping}

/-- The keys of a mapping from texts are those of its slots. -/
lemma IsStringKeyed.mem_keys_iff (h : m.IsStringKeyed) {k : Option Key} :
    k ∈ m.keys ↔ ∃ j, k = some j ∧ (m.lookup? j).isSome = true := by
  simp only [keys, entries, List.mem_map, List.mem_filterMap, Option.map_eq_some_iff,
    Option.isSome_iff_exists, h.lookup?_eq_some_iff]
  constructor
  · rintro ⟨_, ⟨s, hs, v, hv, rfl⟩, rfl⟩
    obtain ⟨name, w, rfl⟩ := h.text s hs
    cases hv
    exact ⟨.text name, rfl, v, name, rfl, hs⟩
  · rintro ⟨_, rfl, v, name, rfl, hs⟩
    exact ⟨(.text name, v), ⟨_, hs, v, rfl, rfl⟩, rfl⟩

/-- Every key of one mapping from texts is one of another if the other one stores something under
it. -/
lemma keys_all_iff (hm : m.IsStringKeyed) (hn : n.IsStringKeyed) :
    m.keys.all n.keys.contains = true ↔
      ∀ j, (m.lookup? j).isSome = true → (n.lookup? j).isSome = true := by
  simp only [List.all_eq_true, List.contains_iff_mem, hm.mem_keys_iff, hn.mem_keys_iff]
  constructor
  · intro h j hj
    obtain ⟨_, hj', hn⟩ := h (some j) ⟨j, rfl, hj⟩
    cases hj'
    exact hn
  · rintro h _ ⟨j, rfl, hj⟩
    exact ⟨j, rfl, h j hj⟩

/-- Mappings from texts have the same keys if they store something under the same ones. -/
lemma sameKeys_iff (hm : m.IsStringKeyed) (hn : n.IsStringKeyed) :
    m.sameKeys n = true ↔ ∀ k, (m.lookup? k).isSome = (n.lookup? k).isSome := by
  rw [sameKeys, Bool.and_eq_true, keys_all_iff hm hn, keys_all_iff hn hm, ← forall_and]
  simp only [← iff_iff_implies_and_implies, Bool.coe_iff_coe]

section Compare

variable (hm : m.IsStringKeyed) (hn : n.IsStringKeyed)
  (hdata : ∀ k w, n.lookup? k = some w → w.IsData)
  (hdecides : ∀ k v, m.lookup? k = some v → ∀ w, w.IsData → ∀ reversed,
    (Value.compare .structural reversed v w).Decides (Alike v w))
  (hkeys : ∀ k, (m.lookup? k).isSome = (n.lookup? k).isSome)

include hm hdata hdecides hkeys in
/-- A slot of a mapping decides whether what both mappings store under its key is alike. -/
lemma compareTo_decides {s : Slot} {k : Key} (hs : s ∈ m.slots) (hk : s.key.key? = some k)
    (reversed : Bool) :
    (s.compareTo .structural reversed n).Decides
      (∀ v w, m.lookup? k = some v → n.lookup? k = some w → Alike v w) := by
  obtain ⟨name, v, rfl⟩ := hm.text s hs
  cases hk
  have hv : m.lookup? (.text name) = some v := hm.lookup?_eq_some_iff.mpr ⟨name, rfl, hs⟩
  obtain ⟨w, hw⟩ : ∃ w, n.lookup? (.text name) = some w := by
    rw [← Option.isSome_iff_exists, ← hkeys, hv]
    rfl
  have hcompare : Slot.compareTo .structural reversed n ⟨.text name, some v⟩ =
      Value.compare .structural reversed v w := by
    simp [Slot.compareTo, Value.key?, hw, Likeness.exempt_structural]
  rw [hcompare]
  refine (hdecides _ v hv w (hdata _ w hw) reversed).congr ?_
  simp [hv, hw]

include hm hn hdata hdecides hkeys in
/-- So does a slot of the other mapping, for which the comparison is read off. -/
lemma readOff_decides {t : Slot} {k : Key} (ht : t ∈ n.slots) (hk : t.key.key? = some k)
    (reversed : Bool) :
    (t.readOff (m.slots.map fun s => (s.key.key?, s.compareTo .structural reversed n))).Decides
      (∀ v w, m.lookup? k = some v → n.lookup? k = some w → Alike v w) := by
  obtain ⟨name, w, rfl⟩ := hn.text t ht
  cases hk
  obtain ⟨s, hs⟩ : ∃ s, m.slots.find? (Slot.isAt (.text name)) = some s := by
    have hw : n.lookup? (.text name) = some w := hn.lookup?_eq_some_iff.mpr ⟨name, rfl, ht⟩
    have hsome := hkeys (.text name)
    rw [hw, Option.isSome_some, Option.isSome_iff_exists] at hsome
    obtain ⟨v, hv⟩ := hsome
    obtain ⟨s, hs, -⟩ := Option.bind_eq_some_iff.mp hv
    exact ⟨s, hs⟩
  have hread : Slot.readOff
      (m.slots.map fun s => (s.key.key?, s.compareTo .structural reversed n))
      ⟨.text name, some w⟩ = s.compareTo .structural reversed n := by
    simp only [Slot.readOff, Value.key?, List.find?_map]
    change (Option.map _ (Option.map _ (m.slots.find? (Slot.isAt (.text name))))).getD _ = _
    rw [hs]
    rfl
  have hkey : s.key.key? = some (.text name) := by
    have hat := List.find?_some hs
    simpa [Slot.isAt] using hat
  rw [hread]
  exact compareTo_decides hm hdata hdecides hkeys (List.mem_of_find?_eq_some hs) hkey reversed

end Compare

/-- Two mappings compared by structure: the comparison decides whether they are alike, whichever of
them is gone through.

**Proof sketch.** If the keys differ, neither is the case. Otherwise each slot of the mapping that
is gone through decides one key, and these slots are all the keys. -/
theorem compare_decides (hm : m.IsStringKeyed) (hn : n.IsStringKeyed)
    (hdata : ∀ k w, n.lookup? k = some w → w.IsData)
    (hdecides : ∀ k v, m.lookup? k = some v → ∀ w, w.IsData → ∀ reversed,
      (Value.compare .structural reversed v w).Decides (Alike v w))
    {how : Likeness} {reversed fromLeft : Bool}
    (hrule : how.mappingRule reversed m.kind n.kind = .structural fromLeft) :
    (Mapping.compare how reversed m n).Decides (Alike (.mapping m) (.mapping n)) := by
  have hcompare : Mapping.compare how reversed m n =
      if m.sameKeys n then
        let compared := m.slots.map fun s => (s.key.key?, s.compareTo .structural (!fromLeft) n)
        Checked.all
          (if fromLeft then compared.map (·.2) else n.slots.map (Slot.readOff compared))
      else .ok false := by
    obtain ⟨kind, ident, slots⟩ := m
    simp only [Mapping.compare, hrule, Slot.compareAll_eq_map]
  have halike := Alike.mapping_iff (m := m) (n := n)
  rw [← sameKeys_iff hm hn] at halike
  rw [hcompare]
  by_cases hsame : m.sameKeys n = true
  · have hkeys := (sameKeys_iff hm hn).mp hsame
    rw [if_pos hsame]
    -- what one slot decides, whichever of the two mappings it is a slot of
    let P (s : Slot) : Prop := ∀ k, s.key.key? = some k → ∀ v w,
      m.lookup? k = some v → n.lookup? k = some w → Alike v w
    cases fromLeft with
    | true =>
      simp only [if_true, List.map_map]
      refine (Checked.decides_all (P := P) fun s hs => ?_).congr ?_
      · obtain ⟨name, v, rfl⟩ := hm.text s hs
        refine (compareTo_decides hm hdata hdecides hkeys hs rfl _).congr ?_
        simp [P, Value.key?]
      · refine Iff.trans ?_ (halike.trans (and_iff_right hsame)).symm
        refine ⟨fun h k v w hv hw => ?_, fun h s _ k _ => h k⟩
        obtain ⟨name, rfl, hs⟩ := hm.lookup?_eq_some_iff.mp hv
        exact h _ hs _ rfl v w hv hw
    | false =>
      simp only [Bool.false_eq_true, if_false]
      refine (Checked.decides_all (P := P) fun s hs => ?_).congr ?_
      · obtain ⟨name, v, rfl⟩ := hn.text s hs
        refine (readOff_decides hm hn hdata hdecides hkeys hs rfl _).congr ?_
        simp [P, Value.key?]
      · refine Iff.trans ?_ (halike.trans (and_iff_right hsame)).symm
        refine ⟨fun h k v w hv hw => ?_, fun h s _ k _ => h k⟩
        obtain ⟨name, rfl, hs⟩ := hn.lookup?_eq_some_iff.mp hw
        exact h _ hs _ rfl v w hv hw
  · rw [if_neg hsame]
    exact Checked.decides_ok (by simp [halike, hsame])

end Mapping

/-! ## All document values -/

namespace Value

variable {a b : Value} {m : Mapping}

/-- A mapping and a value that is none differ, by whatever comparison. -/
lemma compare_not_mapping (hb : b.IsData) (hmapping : ∀ n, b ≠ .mapping n) (how : Likeness)
    (reversed : Bool) (m : Mapping) :
    compare how reversed (.mapping m) b = .ok false ∧
      compare how reversed b (.mapping m) = .ok false := by
  cases hb with
  | scalar h => cases b <;> cases h <;> cases how <;> exact ⟨rfl, rfl⟩
  | sequence h => cases b <;> cases h <;> cases how <;> exact ⟨rfl, rfl⟩
  | mapping => exact absurd rfl (hmapping _)

/-- The comparison by structure decides likeness, whichever side leads it.

**Proof sketch.** Induction on the left value, for every right one. The three cases are the three
sections above. -/
theorem compare_decides (ha : a.IsData) (hb : b.IsData) (reversed : Bool) :
    (compare .structural reversed a b).Decides (Alike a b) := by
  induction ha generalizing b reversed with
  | scalar h => exact (compare_scalar h reversed b).congr (Alike.scalar_iff h).symm
  | @sequence a xs h _ ih =>
    rw [compare_sequence h hb]
    cases hys : b.elements? with
    | none => exact Checked.decides_ok (by simp [Alike.sequence_iff h, hys])
    | some ys =>
      simp only [Alike.sequence_iff h, hys]
      by_cases hlength : xs.length = ys.length
      · simp only [if_pos hlength]
        refine (compareItems_decides hlength fun x hx y hy =>
          ih x hx (hb.of_mem_elements hys hy) reversed).congr ?_
        simp [hlength]
      · simp only [if_neg hlength]
        exact Checked.decides_ok (by simp [hlength])
  | @mapping m hkeys _ ih =>
    by_cases hmapping : ∃ n, b = .mapping n
    · obtain ⟨n, rfl⟩ := hmapping
      exact Mapping.compare_decides hkeys hb.isStringKeyed (fun k w hw => hb.of_lookup? hw)
        (fun k v hv w hw reversed => ih k v hv hw reversed) rfl
    · have hne : ∀ n, b ≠ .mapping n := fun n h => hmapping ⟨n, h⟩
      rw [(compare_not_mapping hb hne _ _ m).1]
      exact Checked.decides_ok (by simp [Alike.not_mapping hb hne m])

/-- Likeness of document values never fails, and is likeness. -/
lemma alike_decides (ha : a.IsData) (hb : b.IsData) : (a.alike b).Decides (Alike a b) :=
  compare_decides ha hb false

/-- Equality with a document is likeness, on whichever side the document stands. -/
theorem document_equals (hm : (Value.mapping m).IsData) (hb : b.IsData)
    (hkind : m.kind = .document) :
    ((Value.mapping m).equals b).Decides (Alike (.mapping m) b) ∧
      (b.equals (.mapping m)).Decides (Alike (.mapping m) b) := by
  by_cases hmapping : ∃ n, b = .mapping n
  · obtain ⟨n, rfl⟩ := hmapping
    -- whatever the other mapping is, there is a document to lead the comparison
    obtain ⟨_, hto⟩ : ∃ fromLeft,
        Likeness.strict.mappingRule false m.kind n.kind = .structural fromLeft := by
      rw [hkind]
      cases n.kind <;> exact ⟨_, rfl⟩
    obtain ⟨_, hfrom⟩ : ∃ fromLeft,
        Likeness.strict.mappingRule false n.kind m.kind = .structural fromLeft := by
      rw [hkind]
      cases n.kind <;> exact ⟨_, rfl⟩
    refine ⟨?_, Checked.Decides.congr ?_ Alike.comm⟩
    · exact Mapping.compare_decides hm.isStringKeyed hb.isStringKeyed
        (fun k w hw => hb.of_lookup? hw)
        (fun k v hv w hw => compare_decides (hm.of_lookup? hv) hw) hto
    · exact Mapping.compare_decides hb.isStringKeyed hm.isStringKeyed
        (fun k w hw => hm.of_lookup? hw)
        (fun k v hv w hw => compare_decides (hb.of_lookup? hv) hw) hfrom
  · have hne : ∀ n, b ≠ .mapping n := fun n h => hmapping ⟨n, h⟩
    obtain ⟨hto, hfrom⟩ := compare_not_mapping hb hne .strict false m
    have hnot : ¬ Alike (.mapping m) b := Alike.not_mapping hb hne m
    rw [equals, equals, hto, hfrom]
    exact ⟨Checked.decides_ok (by simp [hnot]), Checked.decides_ok (by simp [hnot])⟩

/-- **Likeness is a partial equivalence.** The comparison of document values never fails. Its result
does not depend on the side, and what is like one and the same is alike. A value is like itself
exactly if nothing that is reached from it is not a number. Likeness of mappings is that of the
values which they are, and so is equality with a document, on whichever side the document
stands. -/
theorem alike_partial_equivalence :
    (∀ {a b : Value}, a.IsData → b.IsData →
      (∃ r, a.alike b = .ok r) ∧ b.alike a = a.alike b) ∧
    (∀ {a b c : Value}, a.IsData → b.IsData → c.IsData →
      a.alike b = .ok true → b.alike c = .ok true → a.alike c = .ok true) ∧
    (∀ {v : Value}, v.IsData → ∃ r, v.alike v = .ok r ∧ (r = true ↔ ¬ v.HoldsNaN)) ∧
    (∀ m n : Mapping, m.alike n = (Value.mapping m).alike (.mapping n)) ∧
    (∀ {m : Mapping} {b : Value}, (Value.mapping m).IsData → b.IsData → m.kind = .document →
      (Value.mapping m).equals b = (Value.mapping m).alike b ∧
      b.equals (.mapping m) = b.alike (.mapping m)) := by
  refine ⟨fun ha hb => ⟨?_, ?_⟩, fun ha hb hc hab hbc => ?_, fun hv => ?_, fun m n => ?_,
    fun hm hb hkind => ⟨?_, ?_⟩⟩
  · obtain ⟨r, hr, -⟩ := alike_decides ha hb
    exact ⟨r, hr⟩
  · exact (alike_decides hb ha).eq (alike_decides ha hb) Alike.comm
  · rw [(alike_decides ha hb).eq_ok_true_iff] at hab
    rw [(alike_decides hb hc).eq_ok_true_iff] at hbc
    exact (alike_decides ha hc).eq_ok_true_iff.mpr (hab.trans hbc)
  · exact (alike_decides hv hv).congr (Alike.self_iff hv)
  · rfl
  · exact (document_equals hm hb hkind).1.eq (alike_decides hm hb) Iff.rfl
  · exact (document_equals hm hb hkind).2.eq (alike_decides hb hm) Alike.comm

/-- An integer, a float and a long integer, in a list, a tuple and a list, in mappings of three
kinds and two orders; and a list of something that is not a number. -/
theorem alike_partial_equivalence_across_kinds :
    let entry (name : String) (v : Value) : Slot := ⟨.text name, some v⟩
    let a : Mapping := ⟨.document, none,
      [entry "n" (.list none [.ofInt 1]), entry "r" (.regex (.text "^a") {})]⟩
    let b : Mapping := ⟨.plain, none,
      [entry "r" (.compiled (.text "^a") { unicode := true }), entry "n" (.tuple [.ofFloat 1.0])]⟩
    let c : Mapping := ⟨.ordered, none,
      [entry "r" (.regex (.text "^a") {}), entry "n" (.list none [.int ⟨1, true⟩])]⟩
    let odd : Value := .list none [.ofFloat (Float.ofBits 0x7ff8000000000000)]
    (Value.mapping a).IsData ∧ (Value.mapping b).IsData ∧ (Value.mapping c).IsData ∧ odd.IsData ∧
      (Value.mapping a).alike (.mapping b) = .ok true ∧
      (Value.mapping b).alike (.mapping c) = .ok true ∧
      (Value.mapping a).alike (.mapping c) = .ok true ∧
      (Value.mapping c).alike (.mapping a) = .ok true ∧
      (Value.mapping b).equals (.mapping a) = .ok true ∧
      odd.HoldsNaN ∧ odd.alike odd = .ok false := by
  intro entry a b c odd
  have hsequence : ∀ {v x : Value} {y : Scalar}, v.elements? = some [x] → x.scalar? = some y →
      v.IsData := by
    intro v x y hv hx
    refine .sequence hv fun z hz => ?_
    rw [List.mem_singleton.mp hz]
    exact .scalar hx
  have hmapping : ∀ {m : Mapping} {s t : String} {v w : Value},
      m.slots = [entry s v, entry t w] → s ≠ t → v.IsData → w.IsData →
        (Value.mapping m).IsData := by
    intro m s t v w hm hne hv hw
    refine .of_slots ⟨?_, ?_⟩ ?_ <;> simp [hm, entry, key?, hne, hv, hw]
  have ha : (Value.mapping a).IsData := hmapping rfl (by decide) (hsequence rfl rfl) (.scalar rfl)
  have hb : (Value.mapping b).IsData := hmapping rfl (by decide) (.scalar rfl) (hsequence rfl rfl)
  have hc : (Value.mapping c).IsData := hmapping rfl (by decide) (.scalar rfl) (hsequence rfl rfl)
  have hodd : odd.IsData := hsequence rfl rfl
  have hnan : odd.HoldsNaN := .item rfl List.mem_cons_self (.here rfl)
  obtain ⟨hsymm, htrans, hself, -, hdocument⟩ := alike_partial_equivalence
  have hab : (Value.mapping a).alike (.mapping b) = .ok true := rfl
  have hbc : (Value.mapping b).alike (.mapping c) = .ok true := rfl
  have hac := htrans ha hb hc hab hbc
  obtain ⟨r, hr, hnot⟩ := hself hodd
  have hfalse : r = false := by simpa [hnan] using hnot
  refine ⟨ha, hb, hc, hodd, hab, hbc, hac, (hsymm ha hc).2.trans hac, ?_, hnan, hfalse ▸ hr⟩
  exact (hdocument ha hb rfl).2.trans ((hsymm ha hb).2.trans hab)

end Value

end ReadRouting
