import ReadRouting.Proofs.Equivalent

set_option autoImplicit false
set_option relaxedAutoImplicit false

/-!
# Tag sets that are never reached

A tag set that includes an earlier one is dead: whoever carries it carries the earlier one too, so
the search ends before it, or passes over both. It can be left out of the list without any
difference to what is chosen. After the empty tag set everything is dead.

## Main definitions

* `ReadRouting.Preference.without` — a read preference without one of its tag sets.

## Main results

* `ReadRouting.Server.firstMatching_append_eq` — the search goes on only if nobody is found.
* `ReadRouting.Server.firstMatching_shadowed` — a tag set that includes an earlier one makes no
  difference to the search.
* `ReadRouting.Preference.choose_ignores_shadowed` — nor does it to what is chosen.
-/

namespace ReadRouting

namespace Server

variable {candidates : List Server} {before after : List LabelSet} {s : Server} {t u : LabelSet}

/-- Whoever carries a tag set carries every tag set that it includes. -/
lemma Carries.of_includes (h : u.includes t = true) (hs : s.Carries u) : s.Carries t := by
  rw [← satisfies_iff] at hs ⊢
  exact LabelSet.includes_trans hs h

/-- The search for the first tag set that counts goes on with more tag sets only if nobody is found
with the first ones. -/
theorem firstMatching_append_eq (candidates : List Server) (before after : List LabelSet) :
    firstMatching candidates (before ++ after) =
      if firstMatching candidates before = [] then firstMatching candidates after
      else firstMatching candidates before := by
  induction before with
  | nil => rfl
  | cons t ts ih =>
    rw [List.cons_append, firstMatching, firstMatching, ih]
    by_cases ht : matching t candidates = []
    · simp only [ht, List.isEmpty_nil, if_true]
    · have hfound : (matching t candidates).isEmpty = false := List.isEmpty_eq_false_iff.mpr ht
      simp only [hfound, ht, Bool.false_eq_true, if_false]

/-- A tag set that includes one before it makes no difference to the search.

**Proof sketch.** If somebody is found with the tag sets before it, the search ends there. Otherwise
nobody carries the one that it includes, and so nobody carries it. -/
theorem firstMatching_shadowed (ht : t ∈ before) (h : u.includes t = true) :
    firstMatching candidates (before ++ u :: after) =
      firstMatching candidates (before ++ after) := by
  rw [firstMatching_append_eq, firstMatching_append_eq]
  by_cases hbefore : firstMatching candidates before = []
  · have hnone : ∀ s ∈ candidates, ¬ s.Carries u := fun s hs hsu =>
      firstMatching_eq_nil_iff.mp hbefore t ht s hs (hsu.of_includes h)
    have hu : matching u candidates = [] := matching_eq_nil_iff.mpr hnone
    rw [firstMatching, hu]
    rfl
  · rw [if_neg hbefore, if_neg hbefore]

end Server

namespace Preference

variable {p : Preference} {i j : Nat} {t u : LabelSet} {before after : List LabelSet}

/-- The read preference without the tag set at a position. -/
def without (p : Preference) (i : Nat) : Preference := { p with tagSets := p.tagSets.eraseIdx i }

/-- A read preference that has tag sets tries these. -/
lemma effectiveTagSets_of_mem (h : t ∈ p.tagSets) : p.effectiveTagSets = p.tagSets := by
  have hsome : p.tagSets.isEmpty = false := List.isEmpty_eq_false_iff.mpr (List.ne_nil_of_mem h)
  rw [effectiveTagSets, hsome]
  rfl

/-- Without a tag set that includes an earlier one, the same candidates are left, whoever they
are. -/
lemma firstMatching_without (hj : p.tagSets[j]? = some t) (hi : p.tagSets[i]? = some u)
    (hji : j < i) (h : u.includes t = true) (candidates : List Server) :
    Server.firstMatching candidates (p.without i).effectiveTagSets =
      Server.firstMatching candidates p.effectiveTagSets := by
  have hbefore : t ∈ p.tagSets.take i :=
    List.mem_of_getElem? (i := j) (by rw [List.getElem?_take_of_lt hji, hj])
  have hsplit : p.tagSets = p.tagSets.take i ++ u :: p.tagSets.drop (i + 1) := by
    obtain ⟨hlength, rfl⟩ := List.getElem?_eq_some_iff.mp hi
    rw [← List.drop_eq_getElem_cons hlength, List.take_append_drop]
  have hwithout : (p.without i).tagSets = p.tagSets.take i ++ p.tagSets.drop (i + 1) :=
    List.eraseIdx_eq_take_drop_succ p.tagSets i
  rw [effectiveTagSets_of_mem (List.mem_of_getElem? hj),
    effectiveTagSets_of_mem (hwithout ▸ List.mem_append_left _ hbefore), hwithout]
  conv_rhs => rw [hsplit]
  exact (Server.firstMatching_shadowed hbefore h).symm

/-- What stands after an empty tag set does not count: whoever is a candidate carries that. -/
lemma firstMatching_after_empty (ht : t.labels = []) (candidates : List Server) :
    Server.firstMatching candidates (before ++ t :: after) =
      Server.firstMatching candidates (before ++ [t]) := by
  have hall : Server.firstMatching candidates [t] = candidates := by
    have hmatching : Server.matching t candidates = candidates := by
      rw [Server.matching_eq_filter, List.filter_eq_self]
      intro s _
      refine decide_eq_true fun l hl => ?_
      rw [ht] at hl
      cases hl
    rw [Server.firstMatching, hmatching]
    cases candidates <;> rfl
  rw [List.append_cons, Server.firstMatching_append_eq candidates (before ++ [t])]
  split
  · next hnone =>
    -- nobody is found although everybody carries the empty tag set, so that there is nobody
    rw [hnone, Server.firstMatching_eq_nil_iff]
    rw [Server.firstMatching_append_eq, hall] at hnone
    split at hnone
    · subst hnone
      intro _ _ s hs
      cases hs
    · contradiction
  · rfl

/-- **A tag set that includes an earlier one is dead.** Left out of the list, on every snapshot,
whatever its members are, it changes neither the selection that any mode comes to nor what is
recorded until then. So with whatever source of randomness, in whatever state, the same server is
chosen: the source is offered the same pool, or is not asked. In particular nothing that stands
after an empty tag set makes a difference. -/
theorem choose_ignores_shadowed (p : Preference) (c : Cluster) :
    (∀ {i j : Nat} {t u : LabelSet}, j < i → p.tagSets[j]? = some t → p.tagSets[i]? = some u →
      u.includes t = true →
      (p.without i).select c = p.select c ∧
        ((p.without i).choose c).result = (p.choose c).result ∧
        ∀ {m : Type → Type} [Monad m] (choice : List Server → m Server),
          (p.without i).route choice c = p.route choice c) ∧
    ∀ {before after : List LabelSet} {t : LabelSet}, p.tagSets = before ++ t :: after →
      t.labels = [] →
      Preference.select ⟨p.mode, before ++ [t]⟩ c = p.select c ∧
        (Preference.choose ⟨p.mode, before ++ [t]⟩ c).result = (p.choose c).result ∧
        ∀ {m : Type → Type} [Monad m] (choice : List Server → m Server),
          Preference.route ⟨p.mode, before ++ [t]⟩ choice c = p.route choice c := by
  constructor
  · intro i j t u hji hj hi h
    have hmode : (p.without i).mode = p.mode := rfl
    have hselect : (p.without i).select c = p.select c :=
      select_congr hmode (firstMatching_without hj hi hji h) c
    exact ⟨hselect, choose_result_congr hselect, fun choice => route_congr hselect choice⟩
  · intro before after t htags ht
    let q : Preference := ⟨p.mode, before ++ [t]⟩
    have hp : p.effectiveTagSets = before ++ t :: after := by
      rw [effectiveTagSets_of_mem (t := t) (by simp [htags]), htags]
    have hq : q.effectiveTagSets = before ++ [t] :=
      effectiveTagSets_of_mem (p := q) (t := t) (by simp [q])
    have hmode : q.mode = p.mode := rfl
    have hselect : q.select c = p.select c := by
      refine select_congr hmode (fun candidates => ?_) c
      rw [hp, hq]
      exact (firstMatching_after_empty ht candidates).symm
    exact ⟨hselect, choose_result_congr hselect, fun choice => route_congr hselect choice⟩

/-- Of five tag sets the third includes the first, with its labels in another order, and the fourth
one is empty. -/
theorem choose_ignores_shadowed_after_data_center :
    let label (name value : String) : Label := ⟨.text name, .text value⟩
    let ny : LabelSet := ⟨[label "dc" "ny"]⟩
    let sf : LabelSet := ⟨[label "dc" "sf"]⟩
    let rack : LabelSet := ⟨[label "rack" "1", label "dc" "ny"]⟩
    let p : Preference := ⟨.secondaryPreferred, [ny, sf, rack, LabelSet.empty, ny]⟩
    let c : Cluster :=
      ⟨none, [.server (Server.sample 1 10 "la"), .server (Server.sample 2 20 "la")],
        ⟨15, false⟩, .default⟩
    rack.includes ny = true ∧ (p.without 2).tagSets = [ny, sf, LabelSet.empty, ny] ∧
      (p.without 2).select c = p.select c ∧
      ∀ {m : Type → Type} [Monad m] (choice : List Server → m Server),
        Preference.route ⟨.secondaryPreferred, [ny, sf, rack, LabelSet.empty]⟩ choice c =
          p.route choice c := by
  intro label ny sf rack p c
  have hrack : rack.includes ny = true := by decide
  obtain ⟨hshadowed, hempty⟩ := choose_ignores_shadowed p c
  have hsplit : p.tagSets = [ny, sf, rack] ++ LabelSet.empty :: [ny] := rfl
  exact ⟨hrack, rfl, (hshadowed (i := 2) (j := 0) (by decide) rfl rfl hrack).1,
    (hempty hsplit rfl).2.2⟩

end Preference

end ReadRouting
