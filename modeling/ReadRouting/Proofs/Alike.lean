import Mathlib.Data.List.Nodup
import ReadRouting.Value.Key

set_option autoImplicit false
set_option relaxedAutoImplicit false

/-!
# Likeness as a relation

When two document values are alike, said without the comparison that finds it out. A value without
parts is alike whatever stands for the same; sequences are alike item by item, lists and tuples
alike; mappings are alike if they have the same keys and alike values under each, whatever their
kind and order. A number that is not a number is alike nothing, and so is what holds one.

Likeness is symmetric and transitive. It is not reflexive: a document value is alike itself exactly
if nothing in it, at whatever depth, is not a number.

## Main definitions

* `ReadRouting.Scalar`, `ReadRouting.Value.scalar?` — what a value without parts stands for.
* `ReadRouting.Alike` — likeness.
* `ReadRouting.Value.IsData` — the values that documents are made of.
* `ReadRouting.Value.HoldsNaN` — something in a value is not a number.

## Main results

* `ReadRouting.Alike.symm`, `ReadRouting.Alike.trans` — likeness is symmetric and transitive.
* `ReadRouting.Alike.self_iff` — what is alike itself.

## Implementation notes

The definitions quantify over positions and over keys instead of nesting lists of derivations, so
that each of them is a plain inductive predicate with one case for scalars, one for sequences and
one for mappings. Every induction below has these three cases.
-/

namespace ReadRouting

/-- What a value without parts stands for. Truth values are no numbers, and an expression is told
by its pattern and its flags, whether it is compiled or not. -/
inductive Scalar
  | null
  | truth (b : Bool)
  | number (x : Extended)
  | text (s : String)
  | bytes (bs : List UInt8)
  | expression (e : Pattern × PatternFlags)

namespace Value

/-- What a value without parts stands for. The flag that says that an expression is made of
characters does not count, which only compiled ones carry. -/
def scalar? : Value → Option Scalar
  | .null => some .null
  | .bool b => some (.truth b)
  | .int n => some (.number (.finite n.value))
  | .float x _ => some (.number (Binary64.exact x))
  | .text s => some (.text s)
  | .bytes bs => some (.bytes bs)
  | .regex p flags => some (.expression (p, { flags with unicode := false }))
  | .compiled p flags => some (.expression (p, { flags with unicode := false }))
  | _ => none

/-- The items of a list or a tuple. -/
def elements? : Value → Option (List Value)
  | .list _ xs => some xs
  | .tuple xs => some xs
  | _ => none

/-- What has items is no scalar. -/
lemma scalar?_eq_none {v : Value} {xs : List Value} (h : v.elements? = some xs) :
    v.scalar? = none := by
  cases v <;> cases h <;> rfl

end Value

/-- Two document values are alike. -/
inductive Alike : Value → Value → Prop
  | scalar {a b : Value} {x : Scalar} (ha : a.scalar? = some x) (hb : b.scalar? = some x)
      (hx : x ≠ .number .nan) : Alike a b
  | sequence {a b : Value} {xs ys : List Value} (ha : a.elements? = some xs)
      (hb : b.elements? = some ys) (hlength : xs.length = ys.length)
      (hitems : ∀ (i : Nat) (x y : Value), xs[i]? = some x → ys[i]? = some y → Alike x y) :
      Alike a b
  | mapping {m n : Mapping} (hkeys : ∀ k, (m.lookup? k).isSome = (n.lookup? k).isSome)
      (hvalues : ∀ k v w, m.lookup? k = some v → n.lookup? k = some w → Alike v w) :
      Alike (.mapping m) (.mapping n)

namespace Alike

variable {a b c : Value} {x : Scalar} {xs : List Value} {m n : Mapping}

/-! ## What a value of each shape is alike -/

/-- A scalar is alike what stands for the same. -/
lemma scalar_iff (ha : a.scalar? = some x) :
    Alike a b ↔ some x = b.scalar? ∧ x ≠ .number .nan := by
  constructor
  · intro h
    cases h with
    | scalar ha' hb hx =>
      rw [ha] at ha'
      cases ha'
      exact ⟨hb.symm, hx⟩
    | sequence ha' => simp [Value.scalar?_eq_none ha'] at ha
    | mapping => cases ha
  · rintro ⟨hb, hx⟩
    exact .scalar ha hb.symm hx

/-- A sequence is alike the sequences of its length with alike items. -/
lemma sequence_iff (ha : a.elements? = some xs) :
    Alike a b ↔ ∃ ys, b.elements? = some ys ∧ xs.length = ys.length ∧
      ∀ (i : Nat) (x y : Value), xs[i]? = some x → ys[i]? = some y → Alike x y := by
  constructor
  · intro h
    cases h with
    | scalar ha' => simp [Value.scalar?_eq_none ha] at ha'
    | sequence ha' hb hlength hitems =>
      rw [ha] at ha'
      cases ha'
      exact ⟨_, hb, hlength, hitems⟩
    | mapping => cases ha
  · rintro ⟨ys, hb, hlength, hitems⟩
    exact .sequence ha hb hlength hitems

/-- A mapping is alike the mappings with its keys and alike values. -/
lemma mapping_iff :
    Alike (.mapping m) (.mapping n) ↔ (∀ k, (m.lookup? k).isSome = (n.lookup? k).isSome) ∧
      ∀ k v w, m.lookup? k = some v → n.lookup? k = some w → Alike v w := by
  constructor
  · intro h
    cases h with
    | scalar ha => cases ha
    | sequence ha => cases ha
    | mapping hkeys hvalues => exact ⟨hkeys, hvalues⟩
  · rintro ⟨hkeys, hvalues⟩
    exact .mapping hkeys hvalues

/-! ## Symmetry and transitivity -/

/-- Likeness does not depend on the side. -/
theorem symm (h : Alike a b) : Alike b a := by
  induction h with
  | scalar ha hb hx => exact .scalar hb ha hx
  | sequence ha hb hlength _ ih =>
    exact .sequence hb ha hlength.symm fun i x y hx hy => ih i y x hy hx
  | mapping hkeys _ ih =>
    exact .mapping (fun k => (hkeys k).symm) fun k v w hv hw => ih k w v hw hv

/-- Likeness does not depend on the side. -/
lemma comm : Alike a b ↔ Alike b a := ⟨symm, symm⟩

/-- Sequences of one length have their items at the same positions. -/
lemma exists_getElem?_of_length_eq {ys : List Value} (h : xs.length = ys.length) {i : Nat}
    {v : Value} (hv : xs[i]? = some v) : ∃ w, ys[i]? = some w := by
  obtain ⟨hi, -⟩ := List.getElem?_eq_some_iff.mp hv
  exact ⟨ys[i], List.getElem?_eq_getElem (h ▸ hi)⟩

/-- What is alike one and the same is alike.

**Proof sketch.** Induction on the first likeness. The shape of the value in the middle decides
that the second likeness is of the same case; what the two of them compare, position by position
or key by key, is found in the middle too. -/
theorem trans (hab : Alike a b) (hbc : Alike b c) : Alike a c := by
  induction hab generalizing c with
  | scalar ha hb hx =>
    obtain ⟨hc, -⟩ := (scalar_iff hb).mp hbc
    exact .scalar ha hc.symm hx
  | sequence ha hb hlength _ ih =>
    obtain ⟨zs, hc, hlength', hitems⟩ := (sequence_iff hb).mp hbc
    refine .sequence ha hc (hlength.trans hlength') fun i x z hx hz => ?_
    obtain ⟨y, hy⟩ := exists_getElem?_of_length_eq hlength hx
    exact ih i x y hx hy (hitems i y z hy hz)
  | mapping hkeys _ ih =>
    cases hbc with
    | scalar hb => cases hb
    | sequence hb => cases hb
    | mapping hkeys' hvalues =>
      refine .mapping (fun k => (hkeys k).trans (hkeys' k)) fun k v w hv hw => ?_
      have hsome := hkeys k
      rw [hv, Option.isSome_some] at hsome
      obtain ⟨u, hu⟩ := Option.isSome_iff_exists.mp hsome.symm
      exact ih k v u hv hu (hvalues k u w hu hw)

end Alike

/-! ## Document values -/

/-- The keys of a mapping are texts, all different, and something is stored under each. -/
structure Mapping.IsStringKeyed (m : Mapping) : Prop where
  text : ∀ s ∈ m.slots, ∃ name v, s = ⟨.text name, some v⟩
  distinct : (m.slots.map (·.key.key?)).Nodup

/-- What such a mapping stores under a key stands in the slot of that text. -/
lemma Mapping.IsStringKeyed.lookup?_eq_some_iff {m : Mapping} (h : m.IsStringKeyed) {k : Key}
    {v : Value} :
    m.lookup? k = some v ↔ ∃ name, k = .text name ∧ ⟨.text name, some v⟩ ∈ m.slots := by
  constructor
  · intro hv
    obtain ⟨s, hs, hsv⟩ := Option.bind_eq_some_iff.mp hv
    obtain ⟨name, w, rfl⟩ := h.text s (List.mem_of_find?_eq_some hs)
    cases hsv
    have hat := List.find?_some hs
    simp only [Slot.isAt, Value.key?, beq_iff_eq, Option.some.injEq] at hat
    exact ⟨name, hat.symm, List.mem_of_find?_eq_some hs⟩
  · rintro ⟨name, rfl, hmem⟩
    have hat : Slot.isAt (.text name) ⟨.text name, some v⟩ = true := by
      simp [Slot.isAt, Value.key?]
    obtain ⟨s, hs⟩ := Option.isSome_iff_exists.mp (List.find?_isSome.mpr ⟨_, hmem, hat⟩)
    have hkey : s.key.key? = some (.text name) := by
      have hsat := List.find?_some hs
      simpa [Slot.isAt] using hsat
    have heq : s = ⟨.text name, some v⟩ :=
      List.inj_on_of_nodup_map h.distinct (List.mem_of_find?_eq_some hs) hmem hkey
    rw [Mapping.lookup?, hs, heq]
    rfl

/-- The value can stand in a document: it is a scalar, a sequence of such values, or a mapping from
texts to such values. -/
inductive Value.IsData : Value → Prop
  | scalar {v : Value} {x : Scalar} (h : v.scalar? = some x) : IsData v
  | sequence {v : Value} {xs : List Value} (h : v.elements? = some xs)
      (hitems : ∀ x ∈ xs, IsData x) : IsData v
  | mapping {m : Mapping} (hkeys : m.IsStringKeyed)
      (hvalues : ∀ k v, m.lookup? k = some v → IsData v) : IsData (.mapping m)

namespace Value.IsData

variable {v x : Value} {xs : List Value} {m : Mapping}

/-- The items of a document value are document values. -/
lemma of_mem_elements (h : v.IsData) (hxs : v.elements? = some xs) (hx : x ∈ xs) : x.IsData := by
  cases h with
  | scalar h => simp [scalar?_eq_none hxs] at h
  | sequence h hitems =>
    rw [hxs] at h
    cases h
    exact hitems x hx
  | mapping => cases hxs

/-- A mapping that can stand in a document has texts for keys. -/
lemma isStringKeyed (h : (Value.mapping m).IsData) : m.IsStringKeyed := by
  cases h with
  | scalar h => cases h
  | sequence h => cases h
  | mapping hkeys => exact hkeys

/-- What a document value stores under a key is a document value. -/
lemma of_lookup? {k : Key} (h : (Value.mapping m).IsData) (hv : m.lookup? k = some v) :
    v.IsData := by
  cases h with
  | scalar h => cases h
  | sequence h => cases h
  | mapping _ hvalues => exact hvalues k v hv

/-- A mapping from texts is a document value if what stands in its slots is. -/
lemma of_slots (hkeys : m.IsStringKeyed) (h : ∀ s ∈ m.slots, ∀ v, s.value = some v → v.IsData) :
    (Value.mapping m).IsData := by
  refine .mapping hkeys fun k v hv => ?_
  obtain ⟨name, rfl, hs⟩ := hkeys.lookup?_eq_some_iff.mp hv
  exact h _ hs v rfl

end Value.IsData

/-- A document value that is no mapping is not alike one. -/
lemma Alike.not_mapping {b : Value} (hb : b.IsData) (hmapping : ∀ n, b ≠ .mapping n)
    (m : Mapping) : ¬ Alike (.mapping m) b := by
  rw [Alike.comm]
  cases hb with
  | scalar h => simp [Alike.scalar_iff h, Value.scalar?]
  | sequence h => simp [Alike.sequence_iff h, Value.elements?]
  | mapping => exact absurd rfl (hmapping _)

/-! ## What is not a number -/

/-- Something that is not a number is reached from a value, through items of lists and of tuples
and through what mappings store. -/
inductive Value.HoldsNaN : Value → Prop
  | here {v : Value} (h : v.scalar? = some (.number .nan)) : HoldsNaN v
  | item {v x : Value} {xs : List Value} (h : v.elements? = some xs) (hx : x ∈ xs)
      (hnan : HoldsNaN x) : HoldsNaN v
  | entry {m : Mapping} {k : Key} {v : Value} (h : m.lookup? k = some v) (hnan : HoldsNaN v) :
      HoldsNaN (.mapping m)

/-- A document value is alike itself exactly if nothing in it is not a number.

**Proof sketch.** Induction on the value. A scalar is alike itself unless it is not a number. A
sequence or a mapping is alike itself if its parts are, and holds what its parts hold. -/
theorem Alike.self_iff {v : Value} (hv : v.IsData) : Alike v v ↔ ¬ v.HoldsNaN := by
  induction hv with
  | scalar h =>
    rw [Alike.scalar_iff h]
    constructor
    · rintro ⟨-, hx⟩ hnan
      cases hnan with
      | here h' =>
        rw [h] at h'
        exact hx (Option.some.inj h')
      | item h' => simp [Value.scalar?_eq_none h'] at h
      | entry => cases h
    · exact fun hnan => ⟨h.symm, fun hx => hnan (.here (hx ▸ h))⟩
  | @sequence v xs h _ ih =>
    rw [Alike.sequence_iff h]
    constructor
    · rintro ⟨ys, h', -, hitems⟩ hnan
      rw [h] at h'
      cases h'
      cases hnan with
      | here h' => simp [Value.scalar?_eq_none h] at h'
      | item h' hx hnan =>
        rw [h] at h'
        cases h'
        obtain ⟨i, hi⟩ := List.getElem?_of_mem hx
        exact (ih _ hx).mp (hitems i _ _ hi hi) hnan
      | entry => cases h
    · refine fun hnan => ⟨xs, h, rfl, fun i x y hx hy => ?_⟩
      rw [hx] at hy
      cases hy
      have hmem := List.mem_of_getElem? hx
      exact (ih x hmem).mpr fun hx' => hnan (.item h hmem hx')
  | @mapping m _ _ ih =>
    rw [Alike.mapping_iff]
    constructor
    · rintro ⟨-, hvalues⟩ hnan
      cases hnan with
      | here h => cases h
      | item h => cases h
      | entry h hnan => exact (ih _ _ h).mp (hvalues _ _ _ h h) hnan
    · refine fun hnan => ⟨fun _ => rfl, fun k v w hv hw => ?_⟩
      rw [hv] at hw
      cases hw
      exact (ih k v hv).mpr fun hv' => hnan (.entry hv hv')

end ReadRouting
