import ReadRouting.Proofs.KeyEquality
import ReadRouting.Value.Objects

set_option autoImplicit false
set_option relaxedAutoImplicit false

/-!
# Equal keys

Values that may be used as keys and have the same key are equal where they are held by a container;
the converse of `ReadRouting.Value.sameKey_of_compare`. So a label set, which is compared by the
keys of its labels, is compared by the equality of its labels.

A key tells an object by its number only, and so does what is not a number. Hence this is so for
values that can be met at one time: whatever is told by its number has one, and each number stands
for one object.

## Main definitions

* `ReadRouting.Value.Registered` — a value that can be met.
* `ReadRouting.Value.Keyed` — what values have a key of each form.

## Main results

* `ReadRouting.Value.compareHeld_of_key?_eq` — values with the same key are equal.
* `ReadRouting.Value.heldEquals_iff_key?_eq` — held values are equal exactly if their keys are.

## Implementation notes

`ReadRouting.Value.Keyed` has one case for each form of key, so that for two values with one key
only the cases are left in which both are of one form.
-/

namespace ReadRouting

/-! ## Keys of lists, label sets and read preferences -/

namespace Key

/-- A run is told from its key. -/
lemma ofList_injective : Function.Injective ofList := by
  intro ks ls h
  induction ks generalizing ls with
  | nil =>
    cases ls with
    | nil => rfl
    | cons l ls => cases h
  | cons k ks ih =>
    cases ls with
    | nil => cases h
    | cons l ls =>
      obtain ⟨rfl, hrest⟩ := Key.pair.inj h
      rw [ih hrest]

/-- Keys that are the same when they are sorted are the same up to order. -/
lemma perm_of_sorted_eq {ks ls : List Key} (h : sorted ks = sorted ls) : ks.Perm ls := by
  rw [sorted_eq_insertionSort, sorted_eq_insertionSort] at h
  exact (List.perm_insertionSort Le ks).symm.trans (h ▸ List.perm_insertionSort Le ls)

end Key

namespace LabelSet

variable {s t : LabelSet} {ss ts : List LabelSet} {k : Key}

/-- The labels have keys together if these are the keys of the labels. -/
lemma keysOf?_eq_some_iff {labels : List Label} {ks : List Key} :
    keysOf? labels = some ks ↔ labels.map Label.key? = ks.map some := by
  induction labels generalizing ks with
  | nil => cases ks <;> simp [keysOf?]
  | cons l labels ih =>
    rw [keysOf?, List.map_cons]
    cases l.key? with
    | none => cases ks <;> simp
    | some k => cases ks <;> cases hrest : keysOf? labels <;> simp_all

/-- Label sets with the same key have the same labels. -/
lemma sameLabels_of_key?_eq (hs : s.key? = some k) (ht : t.key? = some k) :
    s.sameLabels t = true := by
  obtain ⟨labels⟩ := s
  obtain ⟨labels'⟩ := t
  obtain ⟨ks, hks, rfl⟩ := Option.map_eq_some_iff.mp hs
  obtain ⟨ls, hls, heq⟩ := Option.map_eq_some_iff.mp ht
  have hperm : ls.Perm ks := Key.perm_of_sorted_eq (Key.ofList_injective (Key.labels.inj heq))
  rw [sameLabels_iff, keys, keys, keysOf?_eq_some_iff.mp hks, keysOf?_eq_some_iff.mp hls]
  exact hperm.symm.map some

/-- The same for label sets position by position. -/
lemma sameAll_of_runKey?_eq (hss : runKey? ss = some k) (hts : runKey? ts = some k) :
    sameAll ss ts = true := by
  induction ss generalizing ts k with
  | nil =>
    cases hss
    cases ts with
    | nil => rfl
    | cons t ts =>
      rw [runKey?] at hts
      split at hts <;> cases hts
  | cons s ss ih =>
    rw [runKey?] at hss
    split at hss
    · next j js hj hjs =>
      cases hss
      cases ts with
      | nil => cases hts
      | cons t ts =>
        rw [runKey?] at hts
        split at hts
        · next l ls hl hls =>
          cases hts
          rw [sameAll, Bool.and_eq_true]
          exact ⟨sameLabels_of_key?_eq hj hl, ih hjs hls⟩
        · cases hts
    · cases hss

end LabelSet

/-- Read preferences with the same key are equal. -/
lemma Preference.same_of_key?_eq {p q : Preference} {k : Key} (hp : p.key? = some k)
    (hq : q.key? = some k) : p.same q = true := by
  obtain ⟨mode, tagSets⟩ := p
  obtain ⟨mode', tagSets'⟩ := q
  obtain ⟨ks, hks, rfl⟩ := Option.map_eq_some_iff.mp hp
  obtain ⟨ls, hls, heq⟩ := Option.map_eq_some_iff.mp hq
  obtain ⟨rfl, rfl⟩ := Key.preference.inj heq
  rw [same, Bool.and_eq_true, beq_iff_eq]
  exact ⟨rfl, LabelSet.sameAll_of_runKey?_eq hks hls⟩

namespace Value

variable {objects : Nat → Value} {a b v : Value} {k : Key} {xs ys : List Value} {reversed : Bool}

/-! ## Values that can be met -/

/-- An object that is equal only to itself. -/
def IsObject : Value → Prop
  | .builder _ => True
  | .cluster _ => True
  | .average _ => True
  | .reply _ => True
  | .settings _ => True
  | .source r => r.plan ≠ .shared
  | .stranger _ => True
  | _ => False

/-- A value that can be met where the numbers of objects stand for given ones. What is told by its
number has one: objects that are equal only to themselves, and what is not a number. -/
inductive Registered (objects : Nat → Value) : Value → Prop
  | intro {v : Value} (hnumber : ∀ n, v.ident? = some n → v = objects n)
      (hobject : v.IsObject → ∃ n, v.ident? = some n)
      (hnan : ∀ x i, v = .float x i → Binary64.exact x = .nan → ∃ n, i = some n)
      (hparts : ∀ u ∈ v.parts, Registered objects u) : Registered objects v

/-- What a registered value holds is registered. -/
lemma Registered.of_mem_parts {x : Value} (h : v.Registered objects) (hx : x ∈ v.parts) :
    x.Registered objects := by
  obtain ⟨-, -, -, hparts⟩ := h
  exact hparts x hx

/-- What has no number and is told without one is registered if what it holds is. -/
lemma Registered.of_parts (hident : v.ident? = none) (hobject : ¬ v.IsObject)
    (hfloat : ∀ x i, v ≠ .float x i) (hparts : ∀ u ∈ v.parts, u.Registered objects) :
    v.Registered objects :=
  .intro (fun n hn => by rw [hident] at hn; cases hn) (fun h => absurd h hobject)
    (fun x i h => absurd h (hfloat x i)) hparts

/-- Registered objects with one number are one object. -/
lemma Registered.eq_of_isObject (ha : a.Registered objects) (hb : b.Registered objects)
    (hobject : a.IsObject) (h : a.ident? = b.ident?) : a = b := by
  obtain ⟨hanumber, haobject, -, -⟩ := ha
  obtain ⟨hbnumber, -, -, -⟩ := hb
  obtain ⟨n, hn⟩ := haobject hobject
  rw [hanumber n hn, hbnumber n (h.symm.trans hn)]

/-! ## The forms of keys -/

/-- A value that is compared as the run of what it holds. -/
def IsRun : Value → Prop
  | .tuple _ => True
  | .label _ => True
  | _ => False

/-- A value and its key, by the form of the key. -/
inductive Keyed : Value → Key → Prop
  | null : Keyed .null .null
  | number {v : Value} {z : Number} {q : Rat} (hz : v.number? = some z)
      (hq : z.exact = .finite q) : Keyed v (.number q)
  | infinite {v : Value} {z : Number} {negative : Bool} (hz : v.number? = some z)
      (hq : z.exact = .infinite negative) : Keyed v (.infinite negative)
  | nan {x : Float} {i : Ident} (hx : Binary64.exact x = .nan) : Keyed (.float x i) (.nan i)
  | text (s : String) : Keyed (.text s) (.text s)
  | bytes (bs : List UInt8) : Keyed (.bytes bs) (.bytes bs)
  | compiled (p : Pattern) (flags : PatternFlags) : Keyed (.compiled p flags) (.compiled p flags)
  | object {v : Value} {i : Ident} (hv : v.IsObject) (hi : v.ident? = i) : Keyed v (.object i)
  | sharedSource {r : RandomSource} (h : r.plan = .shared) : Keyed (.source r) .sharedSource
  | mode (m : Mode) : Keyed (.mode m) (.mode m)
  | serverType (t : ServerType) : Keyed (.serverType t) (.serverType t)
  | clusterType (t : ClusterType) : Keyed (.clusterType t) (.clusterType t)
  | nil : Keyed (.tuple []) .nil
  | pair {v : Value} {k ks : Key} (hv : v.IsRun) (h : runKey? v.parts = some (.pair k ks)) :
      Keyed v (.pair k ks)
  | labels {s : LabelSet} {ks : Key} (h : s.key? = some (.labels ks)) :
      Keyed (.labels s) (.labels ks)
  | server {s : Server} {ks : Key} (h : s.key? = some (.server ks)) : Keyed (.server s) (.server ks)
  | preference {p : Preference} {m : Mode} {ks : Key} (h : p.key? = some (.preference m ks)) :
      Keyed (.preference p) (.preference m ks)

/-- The key of a run that is not empty is a pair. -/
lemma keyed_of_isRun {x : Value} (hv : v.IsRun) (hparts : v.parts = x :: xs)
    (h : runKey? v.parts = some k) : v.Keyed k := by
  obtain ⟨j, js, rfl⟩ : ∃ j js, k = .pair j js := by
    rw [hparts, runKey?] at h
    split at h
    · cases h
      exact ⟨_, _, rfl⟩
    · cases h
  exact .pair hv h

/-- Every value has its key in one of the forms. -/
lemma keyed_of_key? (h : v.key? = some k) : v.Keyed k := by
  cases v with
  | null => cases h; exact .null
  | bool b => cases h; exact .number rfl (by cases b <;> rfl)
  | int n => cases h; exact .number rfl rfl
  | float x i =>
    cases h
    unfold Key.ofFloat
    cases hx : Binary64.exact x with
    | nan => exact .nan hx
    | infinite negative => exact .infinite rfl hx
    | finite q => exact .number rfl hx
  | text s => cases h; exact .text s
  | bytes bs => cases h; exact .bytes bs
  | list i xs => cases h
  | tuple xs =>
    cases xs with
    | nil => cases h; exact .nil
    | cons x xs => exact keyed_of_isRun trivial rfl h
  | mapping m => cases h
  | regex p flags => cases h
  | compiled p flags => cases h; exact .compiled p flags
  | label l => exact keyed_of_isRun trivial rfl (l.key?_eq_runKey?.symm.trans h)
  | labels s =>
    have hs : s.key? = some k := h
    obtain ⟨labels⟩ := s
    obtain ⟨ks, -, rfl⟩ := Option.map_eq_some_iff.mp hs
    exact .labels hs
  | server s =>
    have hs : s.key? = some k := h
    obtain ⟨ks, rfl⟩ : ∃ ks, k = .server ks := by
      obtain ⟨ident, address, reachable, primary, secondary, ping, labels, size⟩ := s
      simp only [Server.key?, Option.bind_eq_bind, Option.bind_eq_some_iff] at hs
      obtain ⟨_, -, _, -, _, -, _, -, _, -, _, -, _, -, ⟨⟩⟩ := hs
      exact ⟨_, rfl⟩
    exact .server hs
  | builder b => cases h; exact .object trivial rfl
  | cluster c => cases h; exact .object trivial rfl
  | preference p =>
    have hp : p.key? = some k := h
    obtain ⟨mode, tagSets⟩ := p
    obtain ⟨ks, -, rfl⟩ := Option.map_eq_some_iff.mp hp
    exact .preference hp
  | average a => cases h; exact .object trivial rfl
  | reply r => cases h; exact .object trivial rfl
  | settings s => cases h; exact .object trivial rfl
  | source r =>
    cases h
    unfold Key.ofSource
    split
    · next hshared => exact .sharedSource hshared
    · next hother => exact .object hother rfl
  | stranger i => cases h; exact .object trivial rfl
  | mode m => cases h; exact .mode m
  | serverType t => cases h; exact .serverType t
  | clusterType t => cases h; exact .clusterType t

/-! ## Values with the same key -/

/-- Runs with the same key have items with the same keys, position by position. -/
lemma forall₂_of_runKey?_eq (hxs : runKey? xs = some k) (hys : runKey? ys = some k) :
    List.Forall₂ (fun x y => ∃ j, x.key? = some j ∧ y.key? = some j) xs ys := by
  induction xs generalizing ys k with
  | nil =>
    cases hxs
    cases ys with
    | nil => exact .nil
    | cons y ys =>
      rw [runKey?] at hys
      split at hys <;> cases hys
  | cons x xs ih =>
    rw [runKey?] at hxs
    split at hxs
    · next j js hj hjs =>
      cases hxs
      cases ys with
      | nil => cases hys
      | cons y ys =>
        rw [runKey?] at hys
        split at hys
        · next l ls hl hls =>
          cases hys
          exact .cons ⟨_, hj, hl⟩ (ih hjs hls)
        · cases hys
    · cases hxs

/-- Values that are equal are equal where they are held. -/
lemma compareHeld_of_compare {how : Likeness} (h : compare how reversed a b = .ok true) :
    compareHeld how reversed a b = .ok true := by
  unfold compareHeld
  rw [h, ite_self]

/-- Numbers that stand for the same are equal. -/
lemma compare_of_number? {z w : Number} (hz : a.number? = some z) (hw : b.number? = some w)
    (hexact : z.exact = w.exact) (hnan : z.exact ≠ .nan) :
    compare .strict reversed a b = .ok true := by
  have heqv : z.eqv w = true := (Extended.eqv_iff _ _).mpr ⟨hexact, hnan⟩
  cases a <;> cases hz
  case bool p =>
    cases b <;> cases hw
    case bool q =>
      rw [Number.eqv_int, decide_eq_true_iff] at heqv
      have hsame : (p == q) = true := by revert heqv; cases p <;> cases q <;> decide
      exact congrArg Except.ok hsame
    all_goals exact congrArg Except.ok heqv
  case int n =>
    cases b <;> cases hw
    all_goals exact congrArg Except.ok heqv
  case float x i =>
    cases b <;> cases hw
    all_goals exact congrArg Except.ok heqv

/-- The fields of a label compare with a run of values if they do item by item. -/
lemma compareFields_of_forall₂ {how : Likeness} {l : Label}
    (h : List.Forall₂ (fun x y => compareHeld how reversed x y = .ok true) l.fields ys) :
    Label.compareFields how reversed l ys = .ok true := by
  obtain ⟨name, value⟩ := l
  obtain ⟨y, tail, hname, htail, rfl⟩ := List.forall₂_cons_left_iff.mp h
  obtain ⟨z, rest, hvalue, hrest, rfl⟩ := List.forall₂_cons_left_iff.mp htail
  obtain rfl := List.forall₂_nil_left_iff.mp hrest
  have hlength : ¬ (how = .structural && [y, z].length != 2) = true := by simp
  rw [Label.compareFields, if_neg hlength]
  refine (compareHeld_bind _).symm.trans ?_
  rw [hname]
  refine (compareHeld_bind _).symm.trans ?_
  rw [hvalue]
  rfl

/-- Runs are equal if what they hold is equal item by item, whichever side leads. -/
lemma compare_of_isRun (ha : a.IsRun) (hb : b.IsRun)
    (h : ∀ reversed,
      List.Forall₂ (fun x y => compareHeld .strict reversed x y = .ok true) a.parts b.parts) :
    compare .strict reversed a b = .ok true := by
  cases a with
  | tuple xs =>
    cases b with
    | tuple ys => exact compareItems_eq_ok_true.mpr (h _)
    | label l => exact compareItems_eq_ok_true.mpr (h _)
    | _ => cases hb
  | label l =>
    cases b with
    | tuple ys => exact compareFields_of_forall₂ (h _)
    | label l' => exact compareFields_of_forall₂ (h _)
    | _ => cases hb
  | _ => cases ha

/-- An object is equal to itself, and alike. -/
lemma compare_self_of_isObject (ha : a.IsObject) (how : Likeness) :
    compare how reversed a a = .ok true := by
  cases a with
  | source r => exact congrArg Except.ok (beq_self_eq_true _)
  | builder b => exact congrArg Except.ok (beq_self_eq_true _)
  | cluster c => exact congrArg Except.ok (beq_self_eq_true _)
  | average m => exact congrArg Except.ok (beq_self_eq_true _)
  | reply r => exact congrArg Except.ok (beq_self_eq_true _)
  | settings s => exact congrArg Except.ok (beq_self_eq_true _)
  | stranger i => exact congrArg Except.ok (beq_self_eq_true _)
  | _ => cases ha

/-- Server descriptions with the same key have the same keys in their fields, and equal labels. -/
lemma forall₂_of_server_key?_eq {s t : Server} (hs : s.key? = some k) (ht : t.key? = some k) :
    List.Forall₂ (fun x y => ∃ j, x.key? = some j ∧ y.key? = some j) (server s).parts
      (server t).parts ∧ s.labels.sameLabels t.labels = true := by
  obtain ⟨ident, address, reachable, primary, secondary, ping, labels, size⟩ := s
  obtain ⟨ident', address', reachable', primary', secondary', ping', labels', size'⟩ := t
  simp only [Server.key?, Option.bind_eq_bind, Option.bind_eq_some_iff] at hs ht
  obtain ⟨a, ha, r, hr, p, hp, q, hq, n, hn, l, hl, d, hd, ⟨⟩⟩ := hs
  obtain ⟨a', ha', r', hr', p', hp', q', hq', n', hn', l', hl', d', hd', heq⟩ := ht
  have hfields := Key.ofList_injective (Key.server.inj (Option.some.inj heq))
  simp only [List.cons.injEq, and_true] at hfields
  obtain ⟨rfl, rfl, rfl, rfl, rfl, rfl, rfl⟩ := hfields
  exact ⟨.cons ⟨_, ha, ha'⟩ (.cons ⟨_, hr, hr'⟩ (.cons ⟨_, hp, hp'⟩ (.cons ⟨_, hq, hq'⟩
    (.cons ⟨_, hn, hn'⟩ (.cons ⟨_, hd, hd'⟩ .nil))))), LabelSet.sameLabels_of_key?_eq hl hl'⟩

/-- Server descriptions are equal if their fields are where they are held, and their labels. -/
lemma compare_server_of_forall₂ {s t : Server}
    (hparts : List.Forall₂ (fun x y => compareHeld .strict reversed x y = .ok true)
      (server s).parts (server t).parts) (hlabels : s.labels.sameLabels t.labels = true) :
    compare .strict reversed (.server s) (.server t) = .ok true := by
  obtain ⟨ident, address, reachable, primary, secondary, ping, labels, size⟩ := s
  obtain ⟨ident', address', reachable', primary', secondary', ping', labels', size'⟩ := t
  simp only [parts, List.forall₂_cons, List.forall₂_nil_left_iff] at hparts
  obtain ⟨haddress, hreachable, hprimary, hsecondary, hping, hsize, -⟩ := hparts
  refine Checked.all_eq_ok_true.mpr ?_
  simp only [List.forall_mem_cons]
  exact ⟨haddress, hreachable, hprimary, hsecondary, hping, congrArg Except.ok hlabels, hsize,
    List.forall_mem_nil _⟩

/-- **Values with the same key are equal** where they are held by a container, whichever side leads.

**Proof sketch.** Induction on what the left value holds. Both values are of one form, that of their
key. An object, and what is not a number, is told by its number, so that both are the same one.
Sequences, labels and the fields of server descriptions are equal by induction. Everything else is
determined by its key, up to what does not count in a comparison. -/
theorem compareHeld_of_key?_eq (ha : a.Registered objects) (hb : b.Registered objects)
    (hak : a.key? = some k) (hbk : b.key? = some k) :
    compareHeld .strict reversed a b = .ok true := by
  induction ha generalizing b k reversed with
  | @intro a hnumber hobject hnan hparts ih =>
    have ha : a.Registered objects := .intro hnumber hobject hnan hparts
    have hheld : ∀ reversed, List.Forall₂ (fun x y => ∃ j, x.key? = some j ∧ y.key? = some j)
        a.parts b.parts →
        List.Forall₂ (fun x y => compareHeld .strict reversed x y = .ok true) a.parts b.parts := by
      intro reversed hkeys
      obtain ⟨hlength, hkeys⟩ := List.forall₂_iff_zip.mp hkeys
      refine List.forall₂_iff_zip.mpr ⟨hlength, fun {x y} hxy => ?_⟩
      obtain ⟨hx, hy⟩ := List.of_mem_zip hxy
      obtain ⟨j, hxj, hyj⟩ := hkeys hxy
      exact ih x hx (hb.of_mem_parts hy) hxj hyj
    have hbkeyed := keyed_of_key? hbk
    cases keyed_of_key? hak with
    | null => cases hbkeyed; rfl
    | number hz hq =>
      cases hbkeyed with
      | number hw hq' =>
        exact compareHeld_of_compare
          (compare_of_number? hz hw (hq.trans hq'.symm) (by rw [hq]; nofun))
    | infinite hz hq =>
      cases hbkeyed with
      | infinite hw hq' =>
        exact compareHeld_of_compare
          (compare_of_number? hz hw (hq.trans hq'.symm) (by rw [hq]; nofun))
    | nan hx =>
      cases hbkeyed with
      | nan hy =>
        obtain ⟨n, rfl⟩ := hnan _ _ rfl hx
        exact if_pos (beq_self_eq_true (some n))
    | text s => cases hbkeyed; exact congrArg Except.ok (beq_self_eq_true s)
    | bytes bs => cases hbkeyed; exact congrArg Except.ok (beq_self_eq_true bs)
    | compiled p flags =>
      cases hbkeyed
      exact congrArg Except.ok
        (Bool.and_eq_true_iff.mpr ⟨beq_self_eq_true p, beq_self_eq_true flags⟩)
    | object hv hi =>
      cases hbkeyed with
      | object hw hj =>
        obtain rfl := ha.eq_of_isObject hb hv (hi.trans hj.symm)
        exact compareHeld_of_compare (compare_self_of_isObject hv .strict)
    | sharedSource h =>
      cases hbkeyed with
      | sharedSource h' =>
        refine congrArg Except.ok (beq_iff_eq.mpr ?_)
        rw [Key.ofSource, Key.ofSource, h, h']
    | mode m => cases hbkeyed; exact congrArg Except.ok (beq_self_eq_true m)
    | serverType t => cases hbkeyed; exact congrArg Except.ok (beq_self_eq_true t)
    | clusterType t => cases hbkeyed; exact congrArg Except.ok (beq_self_eq_true t)
    | nil => cases hbkeyed; rfl
    | pair hv h =>
      cases hbkeyed with
      | pair hw h' =>
        refine compareHeld_of_compare (compare_of_isRun hv hw fun reversed => ?_)
        exact hheld reversed (forall₂_of_runKey?_eq h h')
    | labels h =>
      cases hbkeyed with
      | labels h' => exact congrArg Except.ok (LabelSet.sameLabels_of_key?_eq h h')
    | server h =>
      cases hbkeyed with
      | server h' =>
        obtain ⟨hfields, hlabels⟩ := forall₂_of_server_key?_eq h h'
        exact compareHeld_of_compare (compare_server_of_forall₂ (hheld _ hfields) hlabels)
    | preference h =>
      cases hbkeyed with
      | preference h' => exact congrArg Except.ok (Preference.same_of_key?_eq h h')

/-- Values that may be used as keys are equal where they are held exactly if their keys are. -/
theorem heldEquals_iff_key?_eq {floats : Nat → Float} (ha : a.Genuine floats)
    (hb : b.Genuine floats) (ha' : a.Registered objects) (hb' : b.Registered objects)
    (hahash : a.isHashable = true) (hbhash : b.isHashable = true) :
    a.heldEquals b = .ok true ↔ a.key? = b.key? := by
  constructor
  · intro h
    have hcompare : compareHeld .strict false a b = .ok true := h
    exact sameKey_of_compareHeld ha hb (sameKey_of_compare ha hb) hcompare hahash hbhash
  · intro h
    obtain ⟨k, hk⟩ := Option.isSome_iff_exists.mp hahash
    exact compareHeld_of_key?_eq ha' hb' hk (h.symm.trans hk)

end Value

end ReadRouting
