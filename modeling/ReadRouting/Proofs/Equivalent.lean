import ReadRouting.Proofs.Offer
import ReadRouting.Proofs.Rendering

set_option autoImplicit false
set_option relaxedAutoImplicit false

/-!
# Tag sets that ask for the same labels

Two tag sets ask for the same labels if each includes the other, in whatever order the labels stand
and however often. Read preferences of one mode whose tag sets do so, position by position, choose
alike: on every snapshot they come to the same selection, so that a source of randomness is offered
the same servers in the same order, and the read goes to the same server.

## Main definitions

* `ReadRouting.LabelSet.Equivalent` — each of two sets includes the other.
* `ReadRouting.Preference.Equivalent` — read preferences that differ at most in the order and the
  repetition of labels, or in that one has no tag set and the other only the empty one.

## Main results

* `ReadRouting.LabelSet.equivalent_of_sameLabels` — equal label sets are equivalent.
* `ReadRouting.Server.firstMatching_congr` — equivalent tag sets leave the same candidates.
* `ReadRouting.Preference.choose_depends_on_labels` — equivalent read preferences choose alike.
-/

namespace ReadRouting

/-! ## Sets of the same labels -/

namespace LabelSet

variable {s t u : LabelSet}

/-- Each of the two sets includes the other. -/
def Equivalent (s t : LabelSet) : Prop := s.includes t = true ∧ t.includes s = true

instance (s t : LabelSet) : Decidable (s.Equivalent t) := inferInstanceAs (Decidable (_ ∧ _))

/-- Every set is equivalent to itself. -/
lemma Equivalent.refl (s : LabelSet) : s.Equivalent s := by
  have h : s.includes s = true := (includes_iff s s).mpr fun k hk => hk
  exact ⟨h, h⟩

/-- What includes a set that includes a third one includes that too. -/
lemma includes_trans (h : s.includes t = true) (h' : t.includes u = true) :
    s.includes u = true := by
  rw [includes_iff] at h h' ⊢
  exact fun k hk => h k (h' k hk)

/-- What includes a set includes each set of some of its labels. -/
lemma includes_of_subset (h : t.labels ⊆ u.labels) (hs : s.includes u = true) :
    s.includes t = true := by
  rw [includes, List.all_eq_true] at hs ⊢
  exact fun l hl => hs l (h hl)

/-- Sets of the same labels, in whatever order and however often, are equivalent. -/
lemma equivalent_of_mem_iff (h : ∀ l, l ∈ s.labels ↔ l ∈ t.labels) : s.Equivalent t :=
  ⟨includes_of_subset (fun l hl => (h l).mpr hl) (Equivalent.refl s).1,
    includes_of_subset (fun l hl => (h l).mp hl) (Equivalent.refl t).1⟩

/-- Equivalent sets are included in the same sets. -/
lemma Equivalent.includes_eq (h : s.Equivalent t) (u : LabelSet) :
    u.includes s = u.includes t := by
  rw [Bool.eq_iff_iff]
  exact ⟨fun hu => includes_trans hu h.1, fun hu => includes_trans hu h.2⟩

/-- Equivalent sets include the same sets. -/
lemma Equivalent.eq_includes (h : s.Equivalent t) (u : LabelSet) :
    s.includes u = t.includes u := by
  rw [Bool.eq_iff_iff]
  exact ⟨fun hu => includes_trans h.2 hu, fun hu => includes_trans h.1 hu⟩

/-- Sets with the same labels, each as often, are equivalent. -/
theorem equivalent_of_sameLabels (h : s.sameLabels t = true) : s.Equivalent t := by
  have hperm : s.keys.Perm t.keys := (sameLabels_iff s t).mp h
  constructor
  · exact (includes_iff s t).mpr fun k hk => hperm.mem_iff.mpr hk
  · exact (includes_iff t s).mpr fun k hk => hperm.mem_iff.mp hk

end LabelSet

/-! ## The candidates that equivalent tag sets leave -/

namespace Server

variable {t u : LabelSet} {ts us : List LabelSet}

/-- The same candidates match equivalent tag sets. -/
lemma matching_congr (h : t.Equivalent u) (candidates : List Server) :
    matching t candidates = matching u candidates := by
  apply List.filter_congr
  intro s _
  exact h.includes_eq s.labels

/-- Of equivalent tag sets, tried in order, the same one counts, and leaves the same candidates. -/
theorem firstMatching_congr (h : List.Forall₂ LabelSet.Equivalent ts us)
    (candidates : List Server) : firstMatching candidates ts = firstMatching candidates us := by
  induction h with
  | nil => rfl
  | cons htu _ ih => rw [firstMatching, firstMatching, matching_congr htu, ih]

end Server

/-! ## Read preferences that choose alike -/

namespace Preference

variable {p q : Preference}

/-- Two read preferences of one mode ask for the same labels: their tag sets are equivalent,
position by position, or one has no tag set and the other only the empty one. -/
structure Equivalent (p q : Preference) : Prop where
  mode : p.mode = q.mode
  tagSets : List.Forall₂ LabelSet.Equivalent p.tagSets q.tagSets ∨
    (p.tagSets = [] ∧ q.tagSets = [LabelSet.empty]) ∨
    (p.tagSets = [LabelSet.empty] ∧ q.tagSets = [])

/-- Equal read preferences ask for the same labels. -/
lemma equivalent_of_equals (h : (Value.preference p).equals (.preference q) = .ok true) :
    p.Equivalent q := by
  have hsame : p.same q = true := Except.ok.inj h
  rw [same, Bool.and_eq_true, beq_iff_eq, sameAll_iff] at hsame
  obtain ⟨hmode, hsets⟩ := hsame
  exact ⟨hmode, Or.inl (hsets.imp fun _ _ => LabelSet.equivalent_of_sameLabels)⟩

/-- The tag sets that are tried are equivalent, position by position. -/
lemma Equivalent.effectiveTagSets (h : p.Equivalent q) :
    List.Forall₂ LabelSet.Equivalent p.effectiveTagSets q.effectiveTagSets := by
  have hempty : List.Forall₂ LabelSet.Equivalent [LabelSet.empty] [LabelSet.empty] :=
    .cons (.refl LabelSet.empty) .nil
  unfold Preference.effectiveTagSets
  rcases h.tagSets with hsets | ⟨hp, hq⟩ | ⟨hp, hq⟩
  · generalize p.tagSets = ts at hsets ⊢
    generalize q.tagSets = us at hsets ⊢
    cases hsets with
    | nil => exact hempty
    | cons htu hrest => exact .cons htu hrest
  · rw [hp, hq]
    exact hempty
  · rw [hp, hq]
    exact hempty

/-- Read preferences of one mode come to the same selection, and record the same on the way, if
their tag sets leave the same candidates, whoever these are. -/
lemma select_congr (hmode : p.mode = q.mode)
    (h : ∀ candidates, Server.firstMatching candidates p.effectiveTagSets =
      Server.firstMatching candidates q.effectiveTagSets) (c : Cluster) :
    p.select c = q.select c := by
  have htagged : ∀ window candidates,
      Server.selectTagged window candidates p.effectiveTagSets =
        Server.selectTagged window candidates q.effectiveTagSets := by
    intro window candidates
    rw [Server.selectTagged, Server.selectTagged, h candidates]
  have hsecondary : p.selectSecondary c = q.selectSecondary c := by
    simp only [selectSecondary, htagged]
  have hreadable : p.selectReadable c = q.selectReadable c := by
    simp only [selectReadable, htagged]
  rw [select, select, hmode, hsecondary, hreadable]

/-- Read preferences that come to the same selection have the same result. -/
lemma choose_result_congr {c : Cluster} (h : p.select c = q.select c) :
    (p.choose c).result = (q.choose c).result := by
  rw [choose_result_eq_select, choose_result_eq_select, h]

/-- Every source is offered the same by read preferences that come to the same selection, and its
answer is taken by both. -/
lemma route_congr {c : Cluster} (h : p.select c = q.select c) {m : Type → Type} [Monad m]
    (choice : List Server → m Server) : p.route choice c = q.route choice c := by
  rw [route, route, choose_result_congr h]

/-- Equivalent read preferences come to the same selection, and record the same on the way. -/
lemma Equivalent.select_eq (h : p.Equivalent q) (c : Cluster) : p.select c = q.select c :=
  select_congr h.mode (Server.firstMatching_congr h.effectiveTagSets) c

/-- **Only the labels count.** Read preferences that ask for the same labels, and so in particular
equal ones, come to the same selection on every snapshot, whatever its members are, and record the
same until then. So with whatever source of randomness, in whatever state, they choose the same
server: the source is offered the same pool by both, or is asked by neither.

**Proof sketch.** A server that carries one of two equivalent tag sets carries the other. So of each
tag set the same candidates match, the search for the first tag set that counts stops at the same
position, and it leaves the same candidates to the window. -/
theorem choose_depends_on_labels
    (h : p.Equivalent q ∨ (Value.preference p).equals (.preference q) = .ok true) (c : Cluster) :
    p.select c = q.select c ∧ (p.choose c).result = (q.choose c).result ∧
      ∀ {m : Type → Type} [Monad m] (choice : List Server → m Server),
        p.route choice c = q.route choice c := by
  have hequivalent : p.Equivalent q := h.elim id equivalent_of_equals
  have hselect : p.select c = q.select c := hequivalent.select_eq c
  exact ⟨hselect, choose_result_congr hselect, fun choice => route_congr hselect choice⟩

/-- Labels in another order and repeated make no difference, and neither does the empty tag set by
itself. -/
theorem choose_depends_on_labels_repeated :
    let label (name value : String) : Label := ⟨.text name, .text value⟩
    let p : Preference := ⟨.nearest, [⟨[label "dc" "ny", label "rack" "1"]⟩, LabelSet.empty]⟩
    let q : Preference :=
      ⟨.nearest, [⟨[label "rack" "1", label "dc" "ny", label "rack" "1"]⟩, LabelSet.empty]⟩
    let c : Cluster :=
      ⟨none, [.server (Server.sample 1 10 "ny"), .server (Server.sample 2 20 "sf")],
        ⟨15, false⟩, .default⟩
    p.Equivalent q ∧ (p.choose c).result = (q.choose c).result ∧
      ∀ {m : Type → Type} [Monad m] (choice : List Server → m Server),
        Preference.route ⟨.secondary, []⟩ choice c =
          Preference.route ⟨.secondary, [LabelSet.empty]⟩ choice c := by
  intro label p q c
  have hpq : p.Equivalent q :=
    ⟨rfl, Or.inl (.cons (by decide) (.cons (by decide) .nil))⟩
  have hempty : Equivalent ⟨.secondary, []⟩ ⟨.secondary, [LabelSet.empty]⟩ :=
    ⟨rfl, Or.inr (Or.inl ⟨rfl, rfl⟩)⟩
  exact ⟨hpq, (choose_depends_on_labels (Or.inl hpq) c).2.1,
    (choose_depends_on_labels (Or.inl hempty) c).2.2⟩

end Preference

end ReadRouting
