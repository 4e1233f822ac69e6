import ReadRouting.Proofs.Comparison
import ReadRouting.Proofs.Edits
import ReadRouting.Proofs.KeyEquality

set_option autoImplicit false
set_option relaxedAutoImplicit false

/-!
# Edits that fail

What an edit under a name leaves of a document when it fails. The entries always stay. The edits
that look first leave everything as it was. Setting and removing do not look first: setting under a
name that cannot be used as a key leaves the name in the order, with nothing stored under it, and
removing such a name takes it out of the order. A document with a name left behind equals no mapping
any more.

## Main definitions

* `ReadRouting.Mapping.Intact` — nothing that can be asked of a document has changed.
* `ReadRouting.KeyedEdit.LooksFirst` — an edit that looks for what is stored under its name first.
* `ReadRouting.KeyedEdit.Notes`, `ReadRouting.KeyedEdit.Drops` — a failing edit that leaves its name
  behind, and one that takes it away.
* `ReadRouting.Mapping.LosesStray` — the document with one name less, of those left behind.

## Main results

* `ReadRouting.Mapping.not_equals_of_stray` — a document with a name left behind equals no mapping.
* `ReadRouting.KeyedEdit.cases_of_failure` — what a failing edit can do.
* `ReadRouting.KeyedEdit.failure_leaves_intact_iff` — what any edit leaves when it fails.
-/

namespace ReadRouting

namespace Mapping

variable {m m' n : Mapping} {name : Value} {s : Slot}

/-- Nothing that can be asked of a document has changed: not its length, not what it yields when it
is gone through, not its entries, and not which mappings it equals, on either side. -/
structure Intact (m m' : Mapping) : Prop where
  length : (Value.mapping m').length = (Value.mapping m).length
  items : (Value.mapping m').items = (Value.mapping m).items
  entries : m'.entries = m.entries
  equals : ∀ n, (Value.mapping m').equals (.mapping n) = .ok true ↔
    (Value.mapping m).equals (.mapping n) = .ok true
  equals_right : ∀ n, (Value.mapping n).equals (.mapping m') = .ok true ↔
    (Value.mapping n).equals (.mapping m) = .ok true

/-- A document is intact if it is what it was. -/
lemma Intact.refl (m : Mapping) : m.Intact m :=
  ⟨rfl, rfl, rfl, fun _ => Iff.rfl, fun _ => Iff.rfl⟩

/-- The length of a mapping is that of its order. -/
lemma length_eq (m : Mapping) : (Value.mapping m).length = .ok m.order.length := rfl

/-- A document whose order has got longer or shorter is not intact. -/
lemma not_intact_of_length_ne (h : m'.order.length ≠ m.order.length) : ¬ m.Intact m' := by
  intro hintact
  have hlength := hintact.length
  rw [length_eq, length_eq, Except.ok.injEq] at hlength
  exact h hlength

/-! ## Names left behind -/

/-- The order with a name noted. -/
lemma order_noted (m : Mapping) (name : Value) : (m.noted name).order = m.order ++ [name] :=
  List.map_append

/-- Noting a name stores nothing. -/
lemma entries_noted (m : Mapping) (name : Value) : (m.noted name).entries = m.entries := by
  unfold noted entries
  rw [List.filterMap_append]
  exact List.append_nil _

/-- A document that equals no mapping, whether it stands on the left of one, or on the right of one
that is no document and so leaves the comparison to it. -/
def EqualsNothing (m : Mapping) : Prop :=
  ∀ n : Mapping, (Value.mapping m).equals (.mapping n) ≠ .ok true ∧
    (n.kind ≠ .document → (Value.mapping n).equals (.mapping m) ≠ .ok true)

/-- A document that goes through itself to compare finds a name with nothing stored under it. -/
theorem not_equals_of_stray (hkind : m.kind = .document) (hs : s ∈ m.slots)
    (hvalue : s.value = none) (n : Mapping) :
    (Value.mapping m).equals (.mapping n) ≠ .ok true := by
  obtain ⟨kind, ident, slots⟩ := m
  obtain rfl : kind = .document := hkind
  have hrule : Likeness.strict.mappingRule false .document n.kind = .structural true := by
    cases n.kind <;> rfl
  have hstray : s.compareTo .structural false n = .error .unsupported := by
    obtain ⟨key, value⟩ := s
    obtain rfl : value = none := hvalue
    rfl
  intro h
  simp only [Value.equals, Value.compare, Mapping.compare, hrule, if_true, Bool.not_true,
    Slot.compareAll_eq_map, List.map_map] at h
  split at h
  · have hall := Checked.all_eq_ok_true.mp h _ (List.mem_map_of_mem hs)
    cases hstray.symm.trans hall
  · cases h

/-- The same if it stands on the right of a mapping that is no document. -/
lemma not_equals_right_of_stray (hkind : m.kind = .document) (hs : s ∈ m.slots)
    (hvalue : s.value = none) (hn : n.kind ≠ .document) :
    (Value.mapping n).equals (.mapping m) ≠ .ok true := by
  obtain ⟨kind, ident, slots⟩ := n
  have hrule : Likeness.strict.mappingRule false kind m.kind = .structural false := by
    rw [hkind]
    cases kind with
    | document => exact absurd rfl hn
    | plain => rfl
    | ordered => rfl
  intro h
  simp only [Value.equals, Value.compare, Mapping.compare, hrule, Bool.false_eq_true,
    if_false] at h
  split at h
  · have hall := Checked.all_eq_ok_true.mp h _ (List.mem_map_of_mem hs)
    rw [Slot.readOff, hvalue] at hall
    cases hall
  · cases h

/-- A document with a name noted equals nothing. -/
lemma equalsNothing_noted (hkind : m.kind = .document) (name : Value) :
    (m.noted name).EqualsNothing := by
  have hs : (⟨name, none⟩ : Slot) ∈ (m.noted name).slots :=
    List.mem_append_right m.slots List.mem_cons_self
  exact fun n => ⟨not_equals_of_stray (m := m.noted name) hkind hs rfl n,
    not_equals_right_of_stray (m := m.noted name) hkind hs rfl⟩

/-- A document with a name noted has got longer. -/
lemma not_intact_noted (m : Mapping) (name : Value) : ¬ m.Intact (m.noted name) := by
  refine not_intact_of_length_ne ?_
  rw [order_noted, List.length_append]
  exact Nat.succ_ne_self _

/-- A name that equals the given one, and under which nothing is stored, is taken out of the
order. -/
def LosesStray (m : Mapping) (name : Value) (m' : Mapping) : Prop :=
  ∃ before s after, m.slots = before ++ s :: after ∧ m' = { m with slots := before ++ after } ∧
    s.key.heldEquals name = .ok true ∧ s.value = none

/-- What is lost with a name under which nothing is stored is no entry. -/
lemma LosesStray.entries (h : m.LosesStray name m') : m'.entries = m.entries := by
  obtain ⟨before, s, after, hslots, rfl, -, hvalue⟩ := h
  unfold Mapping.entries
  rw [hslots, List.filterMap_append, List.filterMap_append,
    List.filterMap_cons_none (by rw [hvalue]; rfl)]

/-- The order without one of its names. -/
lemma LosesStray.order (h : m.LosesStray name m') :
    ∃ before key after, m.order = before ++ key :: after ∧ m'.order = before ++ after ∧
      key.heldEquals name = .ok true := by
  obtain ⟨before, s, after, hslots, rfl, hequals, -⟩ := h
  refine ⟨before.map Slot.key, s.key, after.map Slot.key, ?_, List.map_append, hequals⟩
  rw [Mapping.order, hslots, List.map_append, List.map_cons]

/-- A document without one of its names has got shorter. -/
lemma LosesStray.not_intact (h : m.LosesStray name m') : ¬ m.Intact m' := by
  obtain ⟨before, key, after, horder, horder', -⟩ := h.order
  refine not_intact_of_length_ne ?_
  rw [horder, horder', List.length_append, List.length_append, List.length_cons]
  omega

/-- In a sound document nothing is stored in the slot of a name that equals one that cannot be used
as a key. -/
lemma Sound.value_eq_none (hm : m.Sound) (hs : s ∈ m.slots) (hname : name.isHashable = false)
    (h : s.key.heldEquals name = .ok true) : s.value = none := by
  rw [← Option.not_isSome_iff_eq_none]
  intro hvalue
  have hhashable := Value.isHashable_of_heldEquals h (hm.isHashable s hs hvalue)
  exact Bool.false_ne_true (hname.symm.trans hhashable)

end Mapping

namespace KeyedEdit

variable {e : KeyedEdit} {m m' : Mapping} {key v : Value} {f : Fault}

/-- The name that an edit is made under. -/
def name : KeyedEdit → Value
  | set name _ | append name _ | put name _ | setDefault name _ | pop name _ | erase name => name

/-- An edit that looks for what is stored under its name before it edits anything. -/
def LooksFirst : KeyedEdit → Prop
  | put _ _ | setDefault _ _ | pop _ _ => True
  | set _ _ | append _ _ | erase _ => False

/-- Setting under a name that cannot be used as a key and that no name in the order equals: this
fails, and leaves the name behind. -/
def Notes (m : Mapping) : KeyedEdit → Prop
  | set name _ | append name _ => name.isHashable = false ∧ name.isAmong m.order = .ok false
  | put _ _ | setDefault _ _ | pop _ _ | erase _ => False

/-- Removing a name that cannot be used as a key and that a name in the order equals: this fails,
and takes that one out of the order. -/
def Drops (m : Mapping) : KeyedEdit → Prop
  | erase name => name.isHashable = false ∧ name.isAmong m.order = .ok true
  | set _ _ | append _ _ | put _ _ | setDefault _ _ | pop _ _ => False

/-- What notes its name drops none. -/
lemma Notes.not_drops (h : e.Notes m) : ¬ e.Drops m := by
  cases e <;> first | exact id | exact absurd h id

/-! ## What each edit leaves when it fails -/

/-- A sequence whose second half never fails, fails where the first one does. -/
lemma failed_first {α β : Type} {x : Editing α} {g : α → Editing β}
    (hg : ∀ a m, ∃ b, (g a).run.run m = (.ok b, m))
    (h : (x >>= g).run.run m = (.error f, m')) : x.run.run m = (.error f, m') := by
  rcases hx : x.run.run m with ⟨e | a, after⟩
  · rw [run_bind_error hx] at h
    cases h
    rfl
  · obtain ⟨b, hb⟩ := hg a after
    rw [run_bind_ok hx, hb] at h
    cases h

/-- Setting that fails notes the name, or leaves the document as it was. -/
lemma of_failed_set (hm : m.Sound) (h : (Mapping.set key v).run.run m = (.error f, m')) :
    (key.isHashable = false ∧ key.isAmong m.order = .ok false) ∧ m' = m.noted key ∨
      ¬ (key.isHashable = false ∧ key.isAmong m.order = .ok false) ∧ m' = m := by
  cases hk : key.key? with
  | some k =>
    rw [Mapping.run_set hk] at h
    cases h
  | none =>
    have hhashable : key.isHashable = false := congrArg Option.isSome hk
    rw [Mapping.run_set_of_not_hashable hk hm.kind_ne_plain] at h
    rcases hamong : key.isAmong m.order with g | _ | _ <;> rw [hamong] at h <;> cases h
    · exact Or.inr ⟨by rintro ⟨-, ⟨⟩⟩, rfl⟩
    · exact Or.inl ⟨⟨hhashable, rfl⟩, rfl⟩
    · exact Or.inr ⟨by rintro ⟨-, ⟨⟩⟩, rfl⟩

/-- Removing that fails takes a name out of the order under which nothing is stored, or leaves the
document as it was. -/
lemma of_failed_erase (hm : m.Sound) (h : (Mapping.erase key).run.run m = (.error f, m')) :
    (key.isHashable = false ∧ key.isAmong m.order = .ok true) ∧ m.LosesStray key m' ∨
      ¬ (key.isHashable = false ∧ key.isAmong m.order = .ok true) ∧ m' = m := by
  cases hk : key.key? with
  | some k =>
    have hhashable : key.isHashable = true := Option.isSome_of_eq_some hk
    by_cases hslot : m.slots.any (Slot.isAt k) = true
    · rw [Mapping.run_erase hk hslot] at h
      cases h
    · obtain ⟨g, hg⟩ := Mapping.run_erase_of_missing hk hslot
      rw [hg] at h
      cases h
      exact Or.inr ⟨fun hname => Bool.false_ne_true (hname.1.symm.trans hhashable), rfl⟩
  | none =>
    have hhashable : key.isHashable = false := congrArg Option.isSome hk
    have hamong := Mapping.isAmong_order key m
    rw [Mapping.run_erase_of_not_hashable hk hm.kind_ne_plain] at h
    rcases hwithout : Mapping.withoutName? key m.slots with g | _ | rest <;>
      rw [hwithout] at h hamong <;> cases h <;> rw [hamong]
    · exact Or.inr ⟨by rintro ⟨-, ⟨⟩⟩, rfl⟩
    · exact Or.inr ⟨by rintro ⟨-, ⟨⟩⟩, rfl⟩
    · obtain ⟨before, s, after, hslots, rfl, hequals⟩ := Mapping.withoutName?_eq_some hwithout
      have hs : s ∈ m.slots := hslots ▸ List.mem_append_right before List.mem_cons_self
      exact Or.inl ⟨⟨hhashable, rfl⟩, before, s, after, hslots, rfl, hequals,
        hm.value_eq_none hs hhashable hequals⟩

/-- An edit that looks first leaves the document as it was when it fails. -/
lemma LooksFirst.eq_of_failure (he : e.LooksFirst) (hm : m.Sound)
    (h : e.perform.run.run m = (.error f, m')) : m' = m := by
  cases e with
  | put key v =>
    replace h := failed_first (fun old m => ⟨some old, rfl⟩) h
    rw [Mapping.run_put] at h
    split at h <;> cases h
    rfl
  | setDefault key v =>
    replace h := failed_first (fun old m => ⟨some old, rfl⟩) h
    rw [Mapping.run_setDefault] at h
    split at h
    · cases h
      rfl
    · split at h <;> cases h
  | pop key fallback =>
    replace h := failed_first (fun old m => ⟨some old, rfl⟩) h
    rw [Mapping.run_pop hm.kind_ne_plain] at h
    split at h
    · cases h
      rfl
    · split at h <;> cases h
      rfl
  | set => exact absurd he id
  | append => exact absurd he id
  | erase => exact absurd he id

/-- **What a failing edit can do**: note its name, take its name out of the order, or nothing. -/
theorem cases_of_failure (hm : m.Sound) (h : e.perform.run.run m = (.error f, m')) :
    e.Notes m ∧ m' = m.noted e.name ∨ e.Drops m ∧ m.LosesStray e.name m' ∨
      ¬ e.Notes m ∧ ¬ e.Drops m ∧ m' = m := by
  cases e with
  | set key v =>
    have hset := of_failed_set hm (failed_first (fun _ m => ⟨none, rfl⟩) h)
    exact hset.imp_right fun hsame => Or.inr ⟨hsame.1, id, hsame.2⟩
  | append key v =>
    have hset := of_failed_set hm (failed_first (fun _ m => ⟨some (Value.mapping m), rfl⟩) h)
    exact hset.imp_right fun hsame => Or.inr ⟨hsame.1, id, hsame.2⟩
  | erase key =>
    have herase := of_failed_erase hm (failed_first (fun _ m => ⟨none, rfl⟩) h)
    exact Or.inr (herase.imp_right fun hsame => ⟨id, hsame.1, hsame.2⟩)
  | _ =>
    -- what is left are the edits that look first
    refine Or.inr (Or.inr ⟨id, id, LooksFirst.eq_of_failure ?_ hm h⟩)
    trivial

/-- **An edit that fails leaves a document intact exactly if it neither notes its name nor drops
it.** The entries stay in any case, and an edit that looks first leaves all as it was. A name that
is noted stands at the end of the order, and the document then equals nothing any more. A name that
is dropped is missing in the order. -/
theorem failure_leaves_intact_iff (hm : m.IsReached) (e : KeyedEdit)
    (h : e.perform.run.run m = (.error f, m')) :
    m'.entries = m.entries ∧ (e.LooksFirst → m' = m) ∧
      (m.Intact m' ↔ ¬ e.Notes m ∧ ¬ e.Drops m) ∧
      (e.Notes m → m'.order = m.order ++ [e.name] ∧ m'.EqualsNothing) ∧
      (e.Drops m → ∃ before key after, m.order = before ++ key :: after ∧
        m'.order = before ++ after ∧ key.heldEquals e.name = .ok true) := by
  have hsound := hm.sound
  have hlooks : e.LooksFirst → m' = m := fun he => he.eq_of_failure hsound h
  rcases cases_of_failure hsound h with
    ⟨hnotes, rfl⟩ | ⟨hdrops, hstray⟩ | ⟨hnotes, hdrops, rfl⟩
  · exact ⟨m.entries_noted e.name, hlooks,
      ⟨fun hintact => absurd hintact (m.not_intact_noted e.name), fun h => absurd hnotes h.1⟩,
      fun _ => ⟨m.order_noted e.name, Mapping.equalsNothing_noted hsound.kind e.name⟩,
      fun hdrops => absurd hdrops hnotes.not_drops⟩
  · exact ⟨hstray.entries, hlooks,
      ⟨fun hintact => absurd hintact hstray.not_intact, fun h => absurd hdrops h.2⟩,
      fun hnotes => absurd hdrops hnotes.not_drops, fun _ => hstray.order⟩
  · exact ⟨rfl, hlooks, ⟨fun _ => ⟨hnotes, hdrops⟩, fun _ => Mapping.Intact.refl m'⟩,
      fun h => absurd h hnotes, fun h => absurd h hdrops⟩

/-- Appending under a list to a document with one entry: the document then has a length of two, its
one entry, and equals nothing. -/
theorem failure_leaves_intact_iff_list_name :
    let d : Mapping := ⟨.document, none, [⟨.text "n", some (.ofInt 1)⟩]⟩
    let e : KeyedEdit := .append (.ofList [.ofInt 1]) (.ofInt 2)
    let d' : Mapping := d.noted (.ofList [.ofInt 1])
    d.IsReached ∧ e.perform.run.run d = (.error .unsupported, d') ∧ d'.entries = d.entries ∧
      (Value.mapping d').length = .ok 2 ∧ ¬ d.Intact d' ∧ d'.EqualsNothing := by
  intro d e d'
  have hreached : d.IsReached := .edit (.new none) (.keyed (.set (.text "n") (.ofInt 1)))
  have hrun : e.perform.run.run d = (.error .unsupported, d') := rfl
  have hnotes : e.Notes d := ⟨rfl, rfl⟩
  obtain ⟨hentries, -, hintact, hnoted, -⟩ := failure_leaves_intact_iff hreached e hrun
  exact ⟨hreached, hrun, hentries, rfl, fun h => (hintact.mp h).1 hnotes, (hnoted hnotes).2⟩

end KeyedEdit

end ReadRouting
