import ReadRouting.Proofs.Equivalent
import ReadRouting.Proofs.Refusals
import ReadRouting.Proofs.RoundTrip
import ReadRouting.Proofs.TagSets
import ReadRouting.Server.Builder

set_option autoImplicit false
set_option relaxedAutoImplicit false

/-!
# Filtering by labels

Candidates that are filtered by a tag set are those that include it, in order, whatever form it is
given in; that an empty tag set is not looked at makes no difference. So one filter after the other
is the filter by the labels of both, in either order, and more labels leave fewer candidates.

What is no tag set is refused before the candidates are looked at. The refusal shows it, and showing
some values fails; what is raised then is that failure, which need not be a matter of kind.

## Main definitions

* `ReadRouting.Cluster.filterByBoth` — one filter after the other.

## Main results

* `ReadRouting.Cluster.filterByLabels_eq_filter` — what a filter leaves.
* `ReadRouting.Checked.isTagSet_iff` — what is accepted as a tag set.
* `ReadRouting.Checked.tagSet_eq_error` — what is raised for anything else.
* `ReadRouting.Cluster.filterByLabels_laws` — all of this together.
-/

namespace ReadRouting

/-! ## Inclusion of label sets -/

namespace LabelSet

variable {s t u : LabelSet}

/-- Every set includes the one without labels. -/
lemma includes_of_isEmpty (h : t.labels.isEmpty = true) (s : LabelSet) : s.includes t = true := by
  rw [includes, List.isEmpty_iff.mp h]
  rfl

/-- To include the labels of two sets is to include each of the sets. -/
lemma includes_append (s t u : LabelSet) :
    s.includes ⟨t.labels ++ u.labels⟩ = (s.includes t && s.includes u) := List.all_append

/-- A list of labels with keys is made into the set of them. -/
lemma ofValue_labels {labels : List Label} (h : HasKeys ⟨labels⟩) :
    ofValue (.ofList (labels.map .label)) = .ok ⟨labels⟩ := by
  have hlabels : (labels.map Value.label).mapM Label.ofValue = .ok labels := by
    rw [Checked.mapM_eq_ok_iff, List.forall₂_map_left_iff, List.forall₂_same]
    rintro ⟨name, value⟩ -
    rfl
  change (labels.map Value.label).mapM Label.ofValue >>= ofLabels = _
  rw [hlabels]
  exact if_pos (List.all_eq_true.mpr h)

end LabelSet

/-! ## What is accepted as a tag set -/

/-- The labels of a mapping have keys if its names and values have. -/
lemma LabelSet.hasKeys_labelSet_iff {m : Mapping} :
    m.labelSet.HasKeys ↔ ∀ e ∈ m.entries, e.1.isHashable = true ∧ e.2.isHashable = true := by
  unfold HasKeys Mapping.labelSet
  simp only [List.forall_mem_map, isSome_labelKey_iff]

/-- A mapping of which a label has no key is no label set. -/
lemma LabelSet.ofMapping_eq_error {m : Mapping} (h : ¬ m.labelSet.HasKeys) :
    ofMapping m = .error .unsupported :=
  if_neg fun hall => h (List.all_eq_true.mp hall)

namespace Checked

variable {v : Value}

/-- A tag set is a label set, or a mapping of which all names and values have keys. -/
theorem isTagSet_iff : v.IsTagSet ↔ (∃ s, v = .labels s) ∨
    ∃ m, v = .mapping m ∧ ∀ e ∈ m.entries, e.1.isHashable = true ∧ e.2.isHashable = true := by
  constructor
  · rintro ⟨s, hs⟩
    have hcheck := hs .null
    unfold tagSet at hcheck
    split at hcheck
    · exact Or.inl ⟨_, rfl⟩
    · next m =>
      refine Or.inr ⟨m, rfl, LabelSet.hasKeys_labelSet_iff.mp ?_⟩
      by_contra hkeys
      rw [LabelSet.ofMapping_eq_error hkeys] at hcheck
      cases hcheck
    · cases hcheck
  · rintro (⟨s, rfl⟩ | ⟨m, rfl, hkeys⟩)
    · exact ⟨s, fun _ => rfl⟩
    · exact ⟨m.labelSet, fun _ => LabelSet.ofMapping_eq (LabelSet.hasKeys_labelSet_iff.mpr hkeys)⟩

/-- What is raised for a value that is not accepted as a tag set: it is a matter of kind, unless the
value is no mapping, and showing it fails otherwise. -/
theorem tagSet_eq_error (name : String) (h : ¬ v.IsTagSet) :
    ∃ f, tagSet (.text name) v = .error f ∧ (f.raised = .kind ↔
      (∃ m, v = .mapping m) ∨ ∀ g, v.shown.result = .error g → g.kind = .kind) := by
  unfold tagSet
  split
  · next s => exact absurd ⟨s, fun _ => rfl⟩ h
  · next m =>
    have hkeys : ¬ m.labelSet.HasKeys := fun hkeys => h ⟨_, fun _ => LabelSet.ofMapping_eq hkeys⟩
    exact ⟨.unsupported, LabelSet.ofMapping_eq_error hkeys, iff_of_true rfl (Or.inl ⟨m, rfl⟩)⟩
  · next hmapping =>
    refine ⟨_, rfl, ?_⟩
    rw [Fault.raised_notTagSet]
    constructor
    · intro hkind
      refine Or.inr fun g hg => ?_
      rw [hg] at hkind
      exact hkind
    · rintro (⟨m, rfl⟩ | hshown)
      · exact absurd rfl (hmapping m)
      · cases hresult : v.shown.result with
        | ok text => rfl
        | error g => exact hshown g hresult

end Checked

namespace Cluster

variable {candidates first second : Value} {servers : List Server} {s t : LabelSet}

/-- One filter after the other. -/
def filterByBoth (candidates first second : Value) : Checked (List Value) := do
  let kept ← filterByLabels candidates first
  filterByLabels (.ofList kept) second

/-- **What a filter leaves**: the candidates that include the tag set, in order. -/
theorem filterByLabels_eq_filter (hcandidates : candidates.items = .ok (servers.map .server))
    (hs : Checked.tagSet (.text "label_set") first = .ok s) :
    filterByLabels candidates first =
      .ok ((servers.filter fun c => c.labels.includes s).map .server) := by
  unfold filterByLabels
  rw [hs]
  change (candidates.items >>= fun items => _) = _
  rw [hcandidates]
  change (if s.labels.isEmpty then _ else _) = _
  split
  · next hempty =>
    rw [List.filter_eq_self.mpr fun c _ => LabelSet.includes_of_isEmpty hempty c.labels]
    rfl
  · rw [(mapM_asServer_eq_ok_iff _ servers).mpr rfl]
    rfl

/-- One filter after the other leaves the candidates that include both tag sets. -/
lemma filterByBoth_eq_filter (hcandidates : candidates.items = .ok (servers.map .server))
    (hs : Checked.tagSet (.text "label_set") first = .ok s)
    (ht : Checked.tagSet (.text "label_set") second = .ok t) :
    filterByBoth candidates first second =
      .ok ((servers.filter fun c => c.labels.includes ⟨s.labels ++ t.labels⟩).map .server) := by
  unfold filterByBoth
  rw [filterByLabels_eq_filter hcandidates hs]
  refine (filterByLabels_eq_filter rfl ht).trans ?_
  rw [List.filter_filter]
  simp only [LabelSet.includes_append, Bool.and_comm]

/-- **The laws of filtering by labels.** Every filter leaves the candidates that include the tag
set, in order. One filter after the other leaves the same as the two in the other order, and as one
filter by the labels of both. More labels leave some of the same candidates. A mapping does what its
label set does. What is neither a label set nor a mapping with keys for all names and values is
refused whatever the candidates are. What is raised is a matter of kind if it is a mapping or can be
shown; otherwise it is what showing it fails with. -/
theorem filterByLabels_laws (hcandidates : candidates.items = .ok (servers.map .server)) :
    (∀ A s, Checked.tagSet (.text "label_set") A = .ok s →
      filterByLabels candidates A =
        .ok ((servers.filter fun c => c.labels.includes s).map .server)) ∧
    (∀ A B s t, Checked.tagSet (.text "label_set") A = .ok s →
      Checked.tagSet (.text "label_set") B = .ok t →
      filterByBoth candidates A B = filterByBoth candidates B A ∧
      filterByBoth candidates A B = filterByLabels candidates (.labels ⟨s.labels ++ t.labels⟩) ∧
      (s.HasKeys → t.HasKeys → LabelSet.ofValue (.ofList ((s.labels ++ t.labels).map .label)) =
        .ok ⟨s.labels ++ t.labels⟩)) ∧
    (∀ A kept, filterByLabels candidates A = .ok kept → kept.Sublist (servers.map .server)) ∧
    (∀ s t : LabelSet, s.labels ⊆ t.labels → ∃ fewer more,
      filterByLabels candidates (.labels s) = .ok more ∧
      filterByLabels candidates (.labels t) = .ok fewer ∧ fewer.Sublist more) ∧
    (∀ m, filterByLabels candidates (.mapping m) = do
      filterByLabels candidates (.labels (← LabelSet.ofDocument (.mapping m)))) ∧
    (∀ A : Value, A.IsTagSet ↔ (∃ s, A = .labels s) ∨
      ∃ m, A = .mapping m ∧ ∀ e ∈ m.entries, e.1.isHashable = true ∧ e.2.isHashable = true) ∧
    (∀ A : Value, ¬ A.IsTagSet → ∃ f, (∀ any, filterByLabels any A = .error f) ∧
      (f.raised = .kind ↔
        (∃ m, A = .mapping m) ∨ ∀ g, A.shown.result = .error g → g.kind = .kind)) := by
  have hfilter : ∀ A s, Checked.tagSet (.text "label_set") A = .ok s →
      filterByLabels candidates A =
        .ok ((servers.filter fun c => c.labels.includes s).map .server) :=
    fun A s hs => filterByLabels_eq_filter hcandidates hs
  refine ⟨hfilter, fun A B s t hs ht => ⟨?_, ?_, fun hskeys htkeys => ?_⟩, fun A kept hkept => ?_,
    fun s t hlabels => ?_, fun m => ?_, fun A => Checked.isTagSet_iff, fun A hA => ?_⟩
  · rw [filterByBoth_eq_filter hcandidates hs ht, filterByBoth_eq_filter hcandidates ht hs]
    simp only [LabelSet.includes_append, Bool.and_comm]
  · rw [filterByBoth_eq_filter hcandidates hs ht, hfilter _ _ rfl]
  · exact LabelSet.ofValue_labels (List.forall_mem_append.mpr ⟨hskeys, htkeys⟩)
  · obtain ⟨s, hs, -⟩ := Checked.bind_eq_ok hkept
    rw [hfilter A s hs] at hkept
    cases hkept
    exact List.filter_sublist.map _
  · refine ⟨_, _, hfilter _ s rfl, hfilter _ t rfl, ?_⟩
    exact (List.monotone_filter_right servers fun c => LabelSet.includes_of_subset hlabels).map _
  · change (LabelSet.ofMapping m >>= fun s => _) = LabelSet.ofMapping m >>= fun s => _
    rfl
  · obtain ⟨f, hf, hraised⟩ := Checked.tagSet_eq_error "label_set" hA
    refine ⟨f, fun any => ?_, hraised⟩
    unfold filterByLabels
    rw [hf]
    rfl

/-- Two servers, one of which has two labels of one name, filtered by two tag sets that name
different values; and by a server without an address, which is no tag set, and which cannot be
shown. -/
theorem filterByLabels_laws_conflicting_labels :
    let dc (v : String) : Label := ⟨.text "dc", .text v⟩
    let one : Server := { ServerBuilder.new with labels := ⟨[dc "ny"]⟩ }.toServer ⟨"a", ⟨1, false⟩⟩
    let two : Server :=
      { ServerBuilder.new with labels := ⟨[dc "sf", dc "ny", dc "ny"]⟩ }.toServer ⟨"b", ⟨2, false⟩⟩
    let candidates : Value := .ofList ([one, two].map .server)
    let ny : Value := .labels ⟨[dc "ny"]⟩
    let sf : Mapping := ⟨.plain, none, [⟨.text "dc", some (.text "sf")⟩]⟩
    let nowhere : Server := { one with address := .ofList [] }
    candidates.items = .ok ([one, two].map .server) ∧
      Checked.tagSet (.text "label_set") ny = .ok ⟨[dc "ny"]⟩ ∧
      Checked.tagSet (.text "label_set") (.mapping sf) = .ok ⟨[dc "sf"]⟩ ∧
      filterByLabels candidates ny = .ok [.server one, .server two] ∧
      filterByBoth candidates ny (.mapping sf) = .ok [.server two] ∧
      filterByBoth candidates ny (.mapping sf) = filterByBoth candidates (.mapping sf) ny ∧
      ¬ (Value.server nowhere).IsTagSet ∧
      ∃ f, (∀ any, filterByLabels any (.server nowhere) = .error f) ∧ f.raised ≠ .kind := by
  intro dc one two candidates ny sf nowhere
  have hcandidates : candidates.items = .ok ([one, two].map .server) := rfl
  obtain ⟨hfilter, hboth, -, -, -, husable, hrefused⟩ := filterByLabels_laws hcandidates
  have hny : Checked.tagSet (.text "label_set") ny = .ok ⟨[dc "ny"]⟩ := rfl
  have hsf : Checked.tagSet (.text "label_set") (.mapping sf) = .ok ⟨[dc "sf"]⟩ := rfl
  obtain ⟨hcomm, hunion, -⟩ := hboth _ _ _ _ hny hsf
  have hnowhere : ¬ (Value.server nowhere).IsTagSet := by
    rw [husable]
    rintro (⟨_, ⟨⟩⟩ | ⟨_, ⟨⟩, -⟩)
  obtain ⟨f, hf, hraised⟩ := hrefused _ hnowhere
  refine ⟨hcandidates, hny, hsf, hfilter _ _ hny, ?_, hcomm, hnowhere, f, hf, fun hkind => ?_⟩
  · rw [hunion]
    exact hfilter (.labels ⟨[dc "ny", dc "sf"]⟩) _ rfl
  · rcases hraised.mp hkind with ⟨_, ⟨⟩⟩ | hshown
    cases hshown .outOfRange rfl

end Cluster

end ReadRouting
