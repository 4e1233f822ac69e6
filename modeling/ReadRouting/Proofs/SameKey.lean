import ReadRouting.Proofs.KeyOrder
import ReadRouting.Proofs.Results

set_option autoImplicit false
set_option relaxedAutoImplicit false

/-!
# Comparison and keys

Values that compare as equal, or as alike, fall together as keys if both may be used as one. So they
cannot be told apart where they are held by a label set, and label sets made from alike mappings are
equal.

This is so for values that can really be met. The number of an object that is a float does not say
which float it is, and the flags of a compiled expression could be any; but one number belongs to
one object, and what an expression is compiled from decides whether it is made of characters.

## Main definitions

* `ReadRouting.Value.parts` — the values that a value holds.
* `ReadRouting.Value.Genuine` — a value that can be met.
* `ReadRouting.Value.compareHeld` — the comparison of two values that are held by others.

## Main results

* `ReadRouting.Value.sameKey_of_compare` — values that compare have the same key.
-/

namespace ReadRouting

/-- The pattern is a text. -/
def Pattern.isText : Pattern → Bool
  | .text _ => true
  | .bytes _ => false

namespace Value

/-- The values that a value holds and is compared by. -/
def parts : Value → List Value
  | .list _ xs => xs
  | .tuple xs => xs
  | .mapping m => m.entries.map (·.2)
  | .label l => l.fields
  | .server s => [s.address, s.reachable, s.primary, s.secondary, s.ping, s.maxDocumentSize]
  | _ => []

/-- A value that can be met where the numbers of objects stand for given floats. A number stands for
one float. A compiled expression is made of characters if it is compiled from a text, and not with
the flag for ASCII. No mapping stores anything under one key twice. -/
inductive Genuine (floats : Nat → Float) : Value → Prop
  | intro {v : Value} (hfloat : ∀ x i, v = .float x (some i) → x = floats i)
      (hcompiled : ∀ p flags, v = .compiled p flags →
        flags.unicode = (p.isText && !flags.ascii))
      (hkeys : ∀ m, v = .mapping m → m.keys.Nodup)
      (hparts : ∀ u ∈ v.parts, Genuine floats u) : Genuine floats v

/-- The comparison of two values that are held by others: one and the same object needs none. -/
def compareHeld (how : Likeness) (reversed : Bool) (a b : Value) : Checked Bool :=
  if how.exempt a b then .ok true else compare how reversed a b

variable {floats : Nat → Float} {how : Likeness} {reversed : Bool} {a b x y : Value}
  {xs ys : List Value}

namespace Genuine

/-- What a genuine value holds is genuine. -/
lemma of_mem_parts (h : a.Genuine floats) (hx : x ∈ a.parts) : x.Genuine floats := by
  obtain ⟨-, -, -, hparts⟩ := h
  exact hparts x hx

/-- The number of a float tells which one it is. -/
lemma float_eq {z : Float} {i : Nat} (h : (Value.float z (some i)).Genuine floats) :
    z = floats i := by
  obtain ⟨hfloat, -, -, -⟩ := h
  exact hfloat z i rfl

/-- A genuine expression is made of characters if it is compiled from a text. -/
lemma unicode_eq {p : Pattern} {flags : PatternFlags}
    (h : (Value.compiled p flags).Genuine floats) :
    flags.unicode = (p.isText && !flags.ascii) := by
  obtain ⟨-, hcompiled, -, -⟩ := h
  exact hcompiled p flags rfl

/-- A genuine mapping stores nothing under one key twice. -/
lemma nodup_keys {m : Mapping} (h : (Value.mapping m).Genuine floats) : m.keys.Nodup := by
  obtain ⟨-, -, hkeys, -⟩ := h
  exact hkeys m rfl

/-- A mapping is genuine if it stores genuine values, and nothing under one key twice. -/
lemma of_mapping {m : Mapping} (hkeys : m.keys.Nodup)
    (hvalues : ∀ v ∈ m.entries.map (·.2), v.Genuine floats) : (Value.mapping m).Genuine floats :=
  .intro (fun x i h => by cases h) (fun p flags h => by cases h)
    (fun u h => by cases h; exact hkeys) hvalues

/-- What is neither a float, nor a compiled expression, nor a mapping is genuine if what it holds
is. -/
lemma of_parts {v : Value} (hfloat : ∀ x i, v ≠ .float x i)
    (hcompiled : ∀ p flags, v ≠ .compiled p flags) (hmapping : ∀ m, v ≠ .mapping m)
    (hparts : ∀ u ∈ v.parts, u.Genuine floats) : v.Genuine floats :=
  .intro (fun x _ h => absurd h (hfloat x _)) (fun p flags h => absurd h (hcompiled p flags))
    (fun m h => absurd h (hmapping m)) hparts

/-- A text is genuine. -/
lemma of_text (s : String) : (Value.text s).Genuine floats := by
  apply of_parts <;> simp [parts]

/-- An integer is genuine. -/
lemma of_int (n : Integer) : (Value.int n).Genuine floats := by
  apply of_parts <;> simp [parts]

/-- A float that stands in no object with a number is genuine. -/
lemma of_unnumbered (x : Float) : (Value.float x none).Genuine floats := by
  constructor <;> simp [parts]

/-- A list is genuine if its items are. -/
lemma of_list {i : Ident} (h : ∀ x ∈ xs, x.Genuine floats) :
    (Value.list i xs).Genuine floats := by
  refine of_parts ?_ ?_ ?_ h <;> simp

/-- A tuple is genuine if its items are. -/
lemma of_tuple (h : ∀ x ∈ xs, x.Genuine floats) : (Value.tuple xs).Genuine floats := by
  refine of_parts ?_ ?_ ?_ h <;> simp

end Genuine

/-! ## Held values -/

/-- Two values have the same key, if both may be used as one. -/
def SameKey (a b : Value) : Prop := a.isHashable = true → b.isHashable = true → a.key? = b.key?

/-- What is taken for one and the same object unseen has one key. -/
lemma sameKey_of_exempt (ha : a.Genuine floats) (hb : b.Genuine floats)
    (h : how.exempt a b = true) : SameKey a b := by
  unfold Likeness.exempt at h
  split at h
  · next x i y j =>
    -- both are floats with one number, and that stands for one float
    cases i with
    | none => cases h
    | some n =>
      obtain rfl : some n = j := by simpa [Ident.same] using h
      intro _ _
      rw [ha.float_eq, hb.float_eq]
  · exact fun hm => absurd hm Bool.false_ne_true
  · cases h

/-- Held values that compare have the same key if values that compare have. -/
lemma sameKey_of_compareHeld (ha : a.Genuine floats) (hb : b.Genuine floats)
    (hcompare : compare how reversed a b = .ok true → SameKey a b)
    (h : compareHeld how reversed a b = .ok true) : SameKey a b := by
  unfold compareHeld at h
  split at h
  · next hexempt => exact sameKey_of_exempt ha hb hexempt
  · exact hcompare h

/-- Runs of values compare if their items do, position by position. -/
lemma compareItems_eq_ok_true :
    compareItems how reversed xs ys = .ok true ↔
      List.Forall₂ (fun x y => compareHeld how reversed x y = .ok true) xs ys := by
  induction xs generalizing ys with
  | nil => cases ys <;> simp [compareItems]
  | cons x xs ih =>
    cases ys with
    | nil => simp [compareItems]
    | cons y ys =>
      rw [List.forall₂_cons, ← ih, compareItems, compareHeld]
      split
      · simp
      · rcases compare how reversed x y with e | _ | _ <;>
          simp [bind, Except.bind, pure, Except.pure]

/-- What is done after a comparison of held values. -/
lemma compareHeld_bind (f : Bool → Checked Bool) :
    (compareHeld how reversed a b >>= f) =
      if how.exempt a b then Except.ok true >>= f else compare how reversed a b >>= f := by
  unfold compareHeld
  split <;> rfl

/-- A label compares with a run of two values if its fields do. -/
lemma compareItems_of_compareFields {l : Label}
    (h : Label.compareFields how reversed l ys = .ok true) :
    compareItems how reversed l.fields ys = .ok true := by
  obtain ⟨name, value⟩ := l
  rw [compareItems_eq_ok_true]
  unfold Label.compareFields at h
  split at h
  · cases h
  · match ys with
    | [] => cases h
    | y :: ys =>
      obtain ⟨sameName, hname, h⟩ := Checked.bind_eq_ok ((compareHeld_bind _).trans h)
      cases sameName with
      | false => cases h
      | true =>
        match ys with
        | [] => cases h
        | z :: zs =>
          obtain ⟨sameValue, hvalue, h⟩ := Checked.bind_eq_ok ((compareHeld_bind _).trans h)
          obtain ⟨rfl, hzs⟩ : sameValue = true ∧ zs = [] := by
            simpa [pure, Except.pure] using h
          rw [hzs]
          exact .cons hname (.cons hvalue .nil)

/-- A run may be used as a key exactly if each of its items may. -/
lemma isSome_runKey?_iff : (runKey? xs).isSome = true ↔ ∀ x ∈ xs, x.isHashable = true := by
  induction xs with
  | nil => exact ⟨fun _ => nofun, fun _ => rfl⟩
  | cons x xs ih =>
    rw [List.forall_mem_cons, ← ih, runKey?, isHashable]
    cases x.key? <;> cases runKey? xs <;> simp

/-- The key of a run follows from those of its items. -/
lemma runKey?_eq_of_map_eq (h : xs.map key? = ys.map key?) : runKey? xs = runKey? ys := by
  induction xs generalizing ys with
  | nil =>
    cases ys with
    | nil => rfl
    | cons y ys => cases h
  | cons x xs ih =>
    cases ys with
    | nil => cases h
    | cons y ys =>
      rw [List.map_cons, List.map_cons, List.cons.injEq] at h
      rw [runKey?, runKey?, h.1, ih h.2]

/-- Values that have the same keys if they have any do have the same if they have some. -/
lemma map_key?_eq_of_sameKey (h : List.Forall₂ SameKey xs ys)
    (hxs : ∀ x ∈ xs, x.isHashable = true) (hys : ∀ y ∈ ys, y.isHashable = true) :
    xs.map key? = ys.map key? := by
  induction h with
  | nil => rfl
  | cons hxy _ ih =>
    obtain ⟨hx, hxs⟩ := List.forall_mem_cons.mp hxs
    obtain ⟨hy, hys⟩ := List.forall_mem_cons.mp hys
    rw [List.map_cons, List.map_cons, hxy hx hy, ih hxs hys]

/-- What is used as the run of its parts has the same key as what is used so and has such parts. -/
lemma sameKey_of_parts (ha : a.key? = runKey? a.parts) (hb : b.key? = runKey? b.parts)
    (h : List.Forall₂ SameKey a.parts b.parts) : SameKey a b := by
  intro hahash hbhash
  unfold isHashable at hahash hbhash
  rw [ha] at hahash ⊢
  rw [hb] at hbhash ⊢
  exact runKey?_eq_of_map_eq (map_key?_eq_of_sameKey h (isSome_runKey?_iff.mp hahash)
    (isSome_runKey?_iff.mp hbhash))

/-- What compares with a tuple and may be used as a key has the key of its items. -/
lemma key?_of_againstTuple (h : how.againstTuple b = some ys) (hb : b.isHashable = true) :
    b.parts = ys ∧ b.key? = runKey? ys := by
  cases b <;> cases how <;> cases h
  case tuple.strict => exact ⟨rfl, rfl⟩
  case tuple.structural => exact ⟨rfl, rfl⟩
  case label.strict l => exact ⟨rfl, l.key?_eq_runKey?⟩
  case label.structural l => exact ⟨rfl, l.key?_eq_runKey?⟩
  case list.structural => cases hb

/-! ## Numbers and expressions -/

/-- The key of what stands for an exact number. -/
def keyOfExact : Extended → Key
  | .finite q => .number q
  | .infinite negative => .infinite negative
  | .nan => .nan none

/-- A number has the key of what it stands for, unless it is not a number. -/
lemma key?_of_number? {z : Number} (hz : a.number? = some z) (hnan : z.exact ≠ .nan) :
    a.key? = some (keyOfExact z.exact) := by
  cases a <;> cases hz
  case bool p => cases p <;> rfl
  case int n => rfl
  case float x i =>
    change some (Key.ofFloat x i) = some (keyOfExact (Binary64.exact x))
    change Binary64.exact x ≠ .nan at hnan
    unfold Key.ofFloat
    cases hx : Binary64.exact x with
    | nan => exact absurd hx hnan
    | infinite negative => rfl
    | finite q => rfl

/-- Numbers that are equal have the same key. -/
lemma key?_eq_of_eqv {z w : Number} (hz : a.number? = some z) (hw : b.number? = some w)
    (h : z.eqv w = true) : a.key? = b.key? := by
  obtain ⟨hexact, hnan⟩ := (Extended.eqv_iff _ _).mp h
  rw [key?_of_number? hz hnan, key?_of_number? hw (hexact ▸ hnan), hexact]

/-- What compares with a number is an equal one. -/
lemma eqv_of_numberAgainst {z : Number} (h : how.numberAgainst z b = true) :
    ∃ w, b.number? = some w ∧ z.eqv w = true := by
  cases b
  case bool q => exact ⟨_, rfl, (Bool.and_eq_true_iff.mp h).2⟩
  case int n => exact ⟨_, rfl, h⟩
  case float x i => exact ⟨_, rfl, h⟩
  all_goals cases h

/-- What compares with a truth value is equal as a number. -/
lemma eqv_of_boolAgainst {p : Bool} (h : how.boolAgainst p b = true) :
    ∃ w, b.number? = some w ∧ (Number.int (if p then 1 else 0)).eqv w = true := by
  cases b
  case bool q =>
    obtain rfl : p = q := beq_iff_eq.mp h
    refine ⟨_, rfl, ?_⟩
    rw [Number.eqv_int, decide_eq_true rfl]
  case int n => cases how <;> first | exact ⟨_, rfl, h⟩ | cases h
  case float x i => cases how <;> first | exact ⟨_, rfl, h⟩ | cases h
  all_goals cases how <;> cases h

/-- Compiled expressions that compare are the same: what the comparison leaves out follows from what
they are compiled from. -/
lemma sameKey_of_compiledAgainst {p : Pattern} {flags : PatternFlags}
    (ha : (Value.compiled p flags).Genuine floats) (hb : b.Genuine floats)
    (h : how.compiledAgainst p flags b = true) : SameKey (.compiled p flags) b := by
  intro _ hhashable
  cases b with
  | compiled q flags' =>
    have hsame : p = q ∧ ({ flags with unicode := false } : PatternFlags) =
        { flags' with unicode := false } := by
      cases how with
      | strict =>
        obtain ⟨hp, hflags⟩ := Bool.and_eq_true_iff.mp h
        exact ⟨beq_iff_eq.mp hp, by rw [beq_iff_eq.mp hflags]⟩
      | structural => simpa [Likeness.compiledAgainst, expression?] using h
    obtain ⟨rfl, hflags⟩ := hsame
    have hunicode := ha.unicode_eq
    have hunicode' := hb.unicode_eq
    obtain ⟨ascii, ignoreCase, locale, multiline, dotAll, unicode, verbose⟩ := flags
    obtain ⟨ascii', ignoreCase', locale', multiline', dotAll', unicode', verbose'⟩ := flags'
    simp only [PatternFlags.mk.injEq] at hflags
    obtain ⟨rfl, rfl, rfl, rfl, rfl, -, rfl⟩ := hflags
    rw [show unicode = unicode' from hunicode.trans hunicode'.symm]
  | regex q flags' => cases hhashable
  | _ => cases how <;> cases h

/-! ## Server descriptions -/

/-- A server description may be used as a key exactly if its fields may, its labels included. -/
lemma isHashable_server_iff {s : Server} : (server s).isHashable = true ↔
    (∀ x ∈ (server s).parts, x.isHashable = true) ∧ s.labels.key?.isSome = true := by
  obtain ⟨ident, address, reachable, primary, secondary, ping, labels, maxDocumentSize⟩ := s
  simp only [parts, List.forall_mem_cons, List.not_mem_nil, isHashable, key?, Server.key?,
    Option.isSome_iff_exists, Option.bind_eq_bind, Option.bind_eq_some_iff]
  constructor
  · rintro ⟨k, a, ha, r, hr, p, hp, s, hs, n, hn, l, hl, d, hd, -⟩
    exact ⟨⟨⟨a, ha⟩, ⟨r, hr⟩, ⟨p, hp⟩, ⟨s, hs⟩, ⟨n, hn⟩, ⟨d, hd⟩, nofun⟩, l, hl⟩
  · rintro ⟨⟨⟨a, ha⟩, ⟨r, hr⟩, ⟨p, hp⟩, ⟨s, hs⟩, ⟨n, hn⟩, ⟨d, hd⟩, -⟩, l, hl⟩
    exact ⟨_, a, ha, r, hr, p, hp, s, hs, n, hn, l, hl, d, hd, rfl⟩

/-- Server descriptions that compare do so field by field. -/
lemma compareHeld_of_compare_server {s t : Server} (h : s.compare reversed t = .ok true) :
    List.Forall₂ (fun x y => compareHeld .strict reversed x y = .ok true) (Value.server s).parts
      (Value.server t).parts ∧ s.labels.sameLabels t.labels = true := by
  obtain ⟨ident, address, reachable, primary, secondary, ping, labels, maxDocumentSize⟩ := s
  have hall := Checked.all_eq_ok_true.mp h
  simp only [List.forall_mem_cons] at hall
  obtain ⟨haddress, hreachable, hprimary, hsecondary, hping, hlabels, hsize, -⟩ := hall
  exact ⟨.cons haddress (.cons hreachable (.cons hprimary (.cons hsecondary (.cons hping
    (.cons hsize .nil))))), Except.ok.inj hlabels⟩

/-- Server descriptions with the same keys in their fields, and equal labels, have the same key. -/
lemma sameKey_server {s t : Server}
    (hparts : List.Forall₂ SameKey (Value.server s).parts (Value.server t).parts)
    (hlabels : s.labels.sameLabels t.labels = true) : SameKey (.server s) (.server t) := by
  intro hs ht
  have hkeys := map_key?_eq_of_sameKey hparts (isHashable_server_iff.mp hs).1
    (isHashable_server_iff.mp ht).1
  have hlabelKeys := LabelSet.key?_eq_of_sameLabels hlabels
  obtain ⟨ident, address, reachable, primary, secondary, ping, labels, maxDocumentSize⟩ := s
  obtain ⟨ident', address', reachable', primary', secondary', ping', labels', size'⟩ := t
  simp only [parts, List.map_cons, List.cons.injEq] at hkeys
  obtain ⟨haddress, hreachable, hprimary, hsecondary, hping, hsize, -⟩ := hkeys
  change labels.key? = labels'.key? at hlabelKeys
  simp only [key?, Server.key?, haddress, hreachable, hprimary, hsecondary, hping, hsize,
    hlabelKeys]

/-! ## All values -/

/-- **Values that compare have the same key.** If two values are equal, or alike, and both may be
used as a key, they have the same one, whichever of them leads the comparison.

**Proof sketch.** Induction on what the left value holds. Sequences and labels compare item by item,
and server descriptions field by field, by values that are held; these are the same object, or
compare as values do. Label sets and read preferences compare by the keys of their labels. -/
theorem sameKey_of_compare (ha : a.Genuine floats) (hb : b.Genuine floats)
    (h : compare how reversed a b = .ok true) : SameKey a b := by
  induction ha generalizing b how reversed with
  | @intro a hfloat hcompiled hkeys hparts ih =>
    have ha : a.Genuine floats := .intro hfloat hcompiled hkeys hparts
    have hheld : ∀ {how : Likeness} {reversed : Bool},
        List.Forall₂ (fun x y => compareHeld how reversed x y = .ok true) a.parts b.parts →
        List.Forall₂ SameKey a.parts b.parts := by
      intro how reversed hcompare
      obtain ⟨hlength, hcompare⟩ := List.forall₂_iff_zip.mp hcompare
      refine List.forall₂_iff_zip.mpr ⟨hlength, fun {x y} hxy => ?_⟩
      obtain ⟨hx, hy⟩ := List.of_mem_zip hxy
      exact sameKey_of_compareHeld (ha.of_mem_parts hx) (hb.of_mem_parts hy)
        (ih x hx (hb.of_mem_parts hy)) (hcompare hxy)
    -- what is left to show of whatever is equal only to a value with the same key
    have hsame : a.key? = b.key? → SameKey a b := fun heq _ _ => heq
    cases a with
    | null => cases b <;> first | exact hsame rfl | cases h
    | bool p =>
      obtain ⟨w, hw, heqv⟩ := eqv_of_boolAgainst (Except.ok.inj h)
      exact hsame (key?_eq_of_eqv rfl hw heqv)
    | int n =>
      obtain ⟨w, hw, heqv⟩ := eqv_of_numberAgainst (Except.ok.inj h)
      exact hsame (key?_eq_of_eqv rfl hw heqv)
    | float x i =>
      obtain ⟨w, hw, heqv⟩ := eqv_of_numberAgainst (Except.ok.inj h)
      exact hsame (key?_eq_of_eqv rfl hw heqv)
    | text s =>
      cases b with
      | text t => exact hsame (by rw [beq_iff_eq.mp (Except.ok.inj h)])
      | _ => cases h
    | bytes bs =>
      cases b with
      | bytes cs => exact hsame (by rw [beq_iff_eq.mp (Except.ok.inj h)])
      | _ => cases h
    | list i xs => exact fun hlist => absurd hlist Bool.false_ne_true
    | tuple xs =>
      intro hahash hbhash
      cases hys : how.againstTuple b with
      | none =>
        rw [compare, hys] at h
        cases h
      | some ys =>
        simp only [compare, hys] at h
        obtain ⟨rfl, hbkey⟩ := key?_of_againstTuple hys hbhash
        have hitems : compareItems how (how.ledByRight reversed (.tuple xs) b) xs b.parts =
            .ok true := by
          split at h
          · exact h
          · cases h
        exact sameKey_of_parts rfl hbkey (hheld (compareItems_eq_ok_true.mp hitems)) hahash hbhash
    | mapping m => exact fun hmapping => absurd hmapping Bool.false_ne_true
    | regex p flags => exact fun hregex => absurd hregex Bool.false_ne_true
    | compiled p flags => exact sameKey_of_compiledAgainst ha hb (Except.ok.inj h)
    | label l =>
      intro hahash hbhash
      cases hys : how.againstTuple b with
      | none =>
        rw [compare, hys] at h
        cases h
      | some ys =>
        rw [compare, hys] at h
        obtain ⟨rfl, hbkey⟩ := key?_of_againstTuple hys hbhash
        have hitems := compareItems_of_compareFields h
        exact sameKey_of_parts l.key?_eq_runKey? hbkey (hheld (compareItems_eq_ok_true.mp hitems))
          hahash hbhash
    | labels s =>
      cases b with
      | labels t => exact hsame (LabelSet.key?_eq_of_sameLabels (Except.ok.inj h))
      | _ => cases h
    | server s =>
      cases b with
      | server t =>
        obtain ⟨hfields, hlabels⟩ := compareHeld_of_compare_server h
        exact sameKey_server (hheld hfields) hlabels
      | _ => cases h
    | builder x =>
      cases b with
      | builder y => exact hsame (congrArg (some ∘ Key.object) (beq_iff_eq.mp (Except.ok.inj h)))
      | _ => cases h
    | cluster x =>
      cases b with
      | cluster y => exact hsame (congrArg (some ∘ Key.object) (beq_iff_eq.mp (Except.ok.inj h)))
      | _ => cases h
    | preference p =>
      cases b with
      | preference q => exact hsame (Preference.key?_eq_of_same (Except.ok.inj h))
      | _ => cases h
    | average x =>
      cases b with
      | average y => exact hsame (congrArg (some ∘ Key.object) (beq_iff_eq.mp (Except.ok.inj h)))
      | _ => cases h
    | reply x =>
      cases b with
      | reply y => exact hsame (congrArg (some ∘ Key.object) (beq_iff_eq.mp (Except.ok.inj h)))
      | _ => cases h
    | settings x =>
      cases b with
      | settings y => exact hsame (congrArg (some ∘ Key.object) (beq_iff_eq.mp (Except.ok.inj h)))
      | _ => cases h
    | source x =>
      cases b with
      | source y => exact hsame (congrArg some (beq_iff_eq.mp (Except.ok.inj h)))
      | _ => cases h
    | stranger i =>
      cases b with
      | stranger j => exact hsame (by rw [beq_iff_eq.mp (Except.ok.inj h)])
      | _ => cases h
    | mode m =>
      cases b with
      | mode n => exact hsame (by rw [beq_iff_eq.mp (Except.ok.inj h)])
      | _ => cases h
    | serverType t =>
      cases b with
      | serverType u => exact hsame (by rw [beq_iff_eq.mp (Except.ok.inj h)])
      | _ => cases h
    | clusterType t =>
      cases b with
      | clusterType u => exact hsame (by rw [beq_iff_eq.mp (Except.ok.inj h)])
      | _ => cases h

end Value

end ReadRouting
