import ReadRouting.Proofs.Outcome

set_option autoImplicit false
set_option relaxedAutoImplicit false

/-!
# Which records can be worded

A record that nobody is eligible shows the read preference, and with it every name and value in its
tag sets that counts. If each of these can be shown by itself, the record can be worded: that one
label replaces another of the same name, or is repeated, is in nobody's way.

## Main definitions

* `ReadRouting.Recorded.Succeeds` — a computation succeeds, whatever has been recorded before.
* `ReadRouting.Recorded.RecordsOnly` — all events that a computation records are of a kind.
* `ReadRouting.Preference.CanBeShown` — the names and values in the tag sets can be shown.

## Main results

* `ReadRouting.Preference.succeeds_shown` — such a read preference can be shown.
* `ReadRouting.Preference.choose_recordsOnly` — what choosing records.
-/

namespace ReadRouting

/-! ## Computations that succeed, and what they record -/

namespace Recorded

variable {α β : Type} {r : Recorded α} {f : α → Recorded β} {P : Event → Prop}

/-- The computation succeeds, whatever has been recorded before. -/
def Succeeds (r : Recorded α) : Prop := ∀ es, ∃ a es', r.run.run es = (.ok a, es')

/-- If everything that was recorded before is of a kind, then so is everything recorded after. -/
def RecordsOnly (P : Event → Prop) (r : Recorded α) : Prop :=
  ∀ es, (∀ e ∈ es, P e) → ∀ e ∈ (r.run.run es).2, P e

/-- A value by itself is no failure. -/
lemma succeeds_pure (a : α) : (pure a : Recorded α).Succeeds := fun es => ⟨a, es, rfl⟩

/-- A sequence succeeds if its halves do. -/
lemma Succeeds.bind (h : r.Succeeds) (hf : ∀ a, (f a).Succeeds) : (r >>= f).Succeeds := by
  intro es
  obtain ⟨a, es', hr⟩ := h es
  rw [run_bind_ok hr]
  exact hf a es'

/-- Computations that all succeed are collected. -/
lemma succeeds_collect {rs : List (Recorded α)} (h : ∀ r ∈ rs, r.Succeeds) :
    (collect rs).Succeeds := by
  induction rs with
  | nil => exact succeeds_pure []
  | cons r rs ih =>
    refine (h r List.mem_cons_self).bind fun a => ?_
    exact (ih fun q hq => h q (List.mem_cons_of_mem r hq)).bind fun as => succeeds_pure (a :: as)

/-- A check records nothing. -/
lemma recordsOnly_ofChecked (c : Checked α) : (ofChecked c).RecordsOnly P := fun _ h => h

/-- A value by itself records nothing. -/
lemma recordsOnly_pure (a : α) : (pure a : Recorded α).RecordsOnly P := fun _ h => h

/-- Recording an event of the kind. -/
lemma recordsOnly_record {e : Event} (he : P e) : (record e).RecordsOnly P := by
  intro es hes d hd
  rcases List.mem_append.mp hd with hd | hd
  · exact hes d hd
  · rw [List.mem_singleton.mp hd]
    exact he

/-- A sequence records what its halves record. -/
lemma RecordsOnly.bind (h : r.RecordsOnly P) (hf : ∀ a, (f a).RecordsOnly P) :
    (r >>= f).RecordsOnly P := by
  intro es hes
  have hr := h es hes
  rcases hrun : r.run.run es with ⟨_ | a, es'⟩
  · rw [run_bind_error hrun]
    rw [hrun] at hr
    exact hr
  · rw [run_bind_ok hrun]
    rw [hrun] at hr
    exact hf a es' hr

end Recorded

/-! ## Entries that replace each other -/

section Entries

variable {α β : Type} {P : α → Prop} {Q : β → Prop}

/-- What holds of all names and of all values, holds still after one more entry. -/
lemma forall_putEntry {k : Option Key} {name : α} {value : β} (hname : P name) (hvalue : Q value)
    {entries : List (Option Key × α × β)} (h : ∀ e ∈ entries, P e.2.1 ∧ Q e.2.2) :
    ∀ e ∈ putEntry k name value entries, P e.2.1 ∧ Q e.2.2 := by
  induction entries with
  | nil =>
    intro e he
    rw [List.mem_singleton.mp he]
    exact ⟨hname, hvalue⟩
  | cons d rest ih =>
    obtain ⟨hd, hrest⟩ := List.forall_mem_cons.mp h
    rw [putEntry]
    split
    · exact List.forall_mem_cons.mpr ⟨⟨hd.1, hvalue⟩, hrest⟩
    · exact List.forall_mem_cons.mpr ⟨hd, ih hrest⟩

/-- What holds of all names and of all values, holds of those that remain. -/
lemma forall_collapse {entries : List (Option Key × α × β)}
    (h : ∀ e ∈ entries, P e.2.1 ∧ Q e.2.2) : ∀ e ∈ collapse entries, P e.1 ∧ Q e.2 := by
  suffices hfold : ∀ start : List (Option Key × α × β), (∀ e ∈ start, P e.2.1 ∧ Q e.2.2) →
      ∀ e ∈ entries.foldl (fun es e => putEntry e.1 e.2.1 e.2.2 es) start, P e.2.1 ∧ Q e.2.2 by
    intro e he
    obtain ⟨d, hd, rfl⟩ := List.mem_map.mp he
    exact hfold [] (by simp) d hd
  induction entries with
  | nil => exact fun start hstart => hstart
  | cons d rest ih =>
    obtain ⟨hd, hrest⟩ := List.forall_mem_cons.mp h
    exact fun start hstart => ih hrest _ (forall_putEntry hd.1 hd.2 hstart)

end Entries

/-- Entries whose halves can all be shown are collected. -/
lemma succeeds_collectEntries {entries : List (Recorded String × Recorded String)}
    (h : ∀ e ∈ entries, e.1.Succeeds ∧ e.2.Succeeds) : (collectEntries entries).Succeeds := by
  induction entries with
  | nil => exact Recorded.succeeds_pure []
  | cons e rest ih =>
    obtain ⟨⟨hname, hvalue⟩, hrest⟩ := List.forall_mem_cons.mp h
    refine hname.bind fun name => hvalue.bind fun value => (ih hrest).bind fun entries => ?_
    exact Recorded.succeeds_pure ((name, value) :: entries)

/-! ## Label sets and read preferences -/

/-- The names and values of a label set can be shown, each by itself. -/
def LabelSet.CanBeShown (s : LabelSet) : Prop :=
  ∀ l ∈ s.labels, l.name.shown.Succeeds ∧ l.value.shown.Succeeds

/-- Labels are shown by their names and values, with the keys of the names. -/
lemma Label.allShown_eq_map (labels : List Label) :
    Label.allShown labels = labels.map fun l => (l.name.key?, l.name.shown, l.value.shown) := by
  induction labels with
  | nil => rfl
  | cons l rest ih =>
    obtain ⟨name, value⟩ := l
    rw [List.map_cons, ← ih, Label.allShown]

/-- Label sets are shown as mappings one by one. -/
lemma LabelSet.allAsMappings_eq_map (ss : List LabelSet) :
    LabelSet.allAsMappings ss = ss.map LabelSet.asMapping := by
  induction ss with
  | nil => rfl
  | cons s rest ih => rw [List.map_cons, ← ih, LabelSet.allAsMappings]

/-- A label set can be shown as a mapping if its names and values can be shown. -/
lemma LabelSet.CanBeShown.succeeds_asMapping {s : LabelSet} (h : s.CanBeShown) :
    s.asMapping.Succeeds := by
  obtain ⟨labels⟩ := s
  rw [LabelSet.asMapping]
  refine (succeeds_collectEntries ?_).bind fun entries => Recorded.succeeds_pure _
  rw [Label.allShown_eq_map]
  apply forall_collapse
  intro e he
  obtain ⟨l, hl, rfl⟩ := List.mem_map.mp he
  exact h l hl

namespace Preference

variable {p : Preference} {c : Cluster} {servers : List Server}

/-- The names and values in the tag sets can be shown, each by itself. -/
def CanBeShown (p : Preference) : Prop := ∀ t ∈ p.tagSets, t.CanBeShown

/-- A read preference can be shown if the names and values in its tag sets can be. -/
theorem succeeds_shown (h : p.CanBeShown) : p.shown.Succeeds := by
  obtain ⟨mode, tagSets⟩ := p
  rw [Preference.shown, LabelSet.allAsMappings_eq_map]
  refine (Recorded.succeeds_collect ?_).bind fun sets => Recorded.succeeds_pure _
  intro r hr
  obtain ⟨t, ht, rfl⟩ := List.mem_map.mp hr
  exact (h t ht).succeeds_asMapping

/-- An event of choosing: the warning about several primaries, or that nobody is eligible. -/
def IsEventOf (p : Preference) (e : Event) : Prop :=
  (∃ count endpoints, e = .severalPrimaries count endpoints) ∨ e = .noneEligible p

/-- An event of choosing can be worded if the read preference can be shown. -/
lemma succeeds_text {e : Event} (he : p.IsEventOf e) (h : e = .noneEligible p → p.CanBeShown) :
    e.text.Succeeds := by
  rcases he with ⟨count, endpoints, rfl⟩ | rfl
  · exact Recorded.succeeds_pure _
  · exact (succeeds_shown (h rfl)).bind fun text => Recorded.succeeds_pure _

/-- Choosing records no other events if the warning does not.

**Proof sketch.** Each selection is a check, or the warning followed by a check; falling back is one
selection after the other; and after all that nothing but the absence of a server is recorded. -/
theorem choose_recordsOnly (hc : c.servers = .ok servers)
    (hwarn : c.warnIfSplit.RecordsOnly p.IsEventOf) : (p.choose c).RecordsOnly p.IsEventOf := by
  have hprimary : (selectPrimary c).RecordsOnly p.IsEventOf := by
    rw [selectPrimary_eq hc]
    exact hwarn.bind fun _ => Recorded.recordsOnly_ofChecked _
  have hsecondary : (p.selectSecondary c).RecordsOnly p.IsEventOf := by
    rw [selectSecondary_eq hc]
    exact Recorded.recordsOnly_ofChecked _
  have hreadable : (p.selectReadable c).RecordsOnly p.IsEventOf := by
    rw [selectReadable_eq hc]
    exact hwarn.bind fun _ => Recorded.recordsOnly_ofChecked _
  have horElse : ∀ {first second : Recorded Selection}, first.RecordsOnly p.IsEventOf →
      second.RecordsOnly p.IsEventOf → (orElse first second).RecordsOnly p.IsEventOf := by
    intro first second hfirst hsecond
    refine hfirst.bind fun s => ?_
    cases s.isNobody with
    | true => exact hsecond
    | false => exact Recorded.recordsOnly_pure s
  have hselect : (p.select c).RecordsOnly p.IsEventOf := by
    unfold select
    cases p.mode with
    | primary => exact hprimary
    | secondary => exact hsecondary
    | primaryPreferred => exact horElse hprimary hsecondary
    | secondaryPreferred => exact horElse hsecondary hprimary
    | nearest => exact hreadable
  refine hselect.bind fun s => ?_
  cases s.isNobody with
  | true =>
    exact (Recorded.recordsOnly_record (Or.inr rfl)).bind fun _ => Recorded.recordsOnly_pure s
  | false => exact Recorded.recordsOnly_pure s

end Preference

end ReadRouting
