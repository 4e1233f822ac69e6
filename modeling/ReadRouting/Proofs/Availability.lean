import ReadRouting.Proofs.Answer

set_option autoImplicit false
set_option relaxedAutoImplicit false

/-!
# When a mode finds a server

On one snapshot and with one list of tag sets, the modes differ in whether they find a server at
all. That depends on two things only: whether there is a reachable primary, and whether a candidate
carries one of the tag sets. The modes with a preference find a server exactly if one of the modes
that name one role does, whichever comes first, and the mode that takes the nearest finds one
whenever there is a secondary for it. The converse needs the primary to carry a tag set, too.

All this takes a window that keeps somebody: a ping time that is not a number is not even within a
window that begins at it.

## Main definitions

* `ReadRouting.Mode.withTagSets` — the read preference of a mode with given tag sets.
* `ReadRouting.Preference.Finds` — choosing ends with a server.
* `ReadRouting.Preference.Available` — there is a server for a read preference.

## Main results

* `ReadRouting.Preference.ofMode_eq_map` — how a read preference is made from its tag sets.
* `ReadRouting.Server.clusterType_eq_withPrimary_iff`,
  `ReadRouting.Server.clusterType_eq_unknown_iff` — what the type of a cluster says.
* `ReadRouting.Preference.finds_iff` — choosing finds a server if there is one.
* `ReadRouting.Preference.modes_find` — how the modes compare.
-/

namespace ReadRouting

/-! ## The type of a cluster -/

namespace Server

variable {servers : List Server}

/-- One of the servers is a reachable primary. -/
def HasPrimary (servers : List Server) : Prop := ∃ s ∈ servers, s.servesAsPrimary = true

/-- One of the candidates carries one of the tag sets. -/
def SomeCarry (candidates : List Server) (tagSets : List LabelSet) : Prop :=
  ∃ t ∈ tagSets, ∃ s ∈ candidates, s.Carries t

/-- A cluster has a primary if one of its servers is a reachable primary. -/
theorem clusterType_eq_withPrimary_iff :
    clusterType servers = .withPrimary ↔ HasPrimary servers := by
  unfold clusterType HasPrimary
  rw [← List.any_eq_true]
  cases servers.any servesAsPrimary with
  | true => exact ⟨fun _ => rfl, fun _ => rfl⟩
  | false => cases servers.any isReachable <;> simp

/-- Of a cluster nothing is known if none of its servers is reachable. -/
theorem clusterType_eq_unknown_iff :
    clusterType servers = .unknown ↔ ¬ ∃ s ∈ servers, s.isReachable = true := by
  unfold clusterType
  rw [← List.any_eq_true]
  cases hprimary : servers.any servesAsPrimary with
  | true =>
    obtain ⟨s, hs, hs'⟩ := List.any_eq_true.mp hprimary
    rw [servesAsPrimary, Bool.and_eq_true] at hs'
    simp [List.any_eq_true.mpr ⟨s, hs, hs'.1⟩]
  | false => cases servers.any isReachable <;> simp

end Server

/-- The type of a cluster is that of its servers, unless the warning about several primaries
fails. -/
lemma Cluster.type_result {c : Cluster} {servers : List Server} (hc : c.servers = .ok servers)
    (hwarn : c.CanWarn) : c.type.result = .ok (Server.clusterType servers) := by
  have hwarn' : c.warnIfSplit.result = .ok () := hwarn
  have htype : c.type =
      c.warnIfSplit >>= fun _ => Recorded.ofChecked (.ok (Server.clusterType servers)) := by
    unfold type
    rw [hc]
    rfl
  rw [htype, Recorded.result_bind_ofChecked, hwarn']
  rfl

/-! ## Who is there for a read preference -/

/-- The read preference of a mode with given tag sets, which are dropped for the primary. -/
def Mode.withTagSets (m : Mode) (tagSets : List LabelSet) : Preference :=
  ⟨m, if m = .primary then [] else tagSets⟩

namespace Preference

open Server

variable {p : Preference} {c : Cluster} {servers : List Server} {tagSets : List LabelSet}

/-- A read preference is made by checking the tag sets, and then dropping them for the primary. -/
theorem ofMode_eq_map (m : Mode) (v : Value) :
    ofMode m v = (Checked.tagSets (.text "tag_sets") v).map m.withTagSets := by
  unfold ofMode
  cases Checked.tagSets (.text "tag_sets") v <;> rfl

/-- There is a server for a read preference: the primary, or a candidate that carries one of the tag
sets that are tried; for the modes with a preference either will do. -/
def Available (p : Preference) (servers : List Server) : Prop :=
  match p.mode with
  | .primary => HasPrimary servers
  | .nearest => SomeCarry (p.mode.candidates servers) p.effectiveTagSets
  | .secondary => SomeCarry (p.mode.candidates servers) p.effectiveTagSets
  | _ => HasPrimary servers ∨ SomeCarry (p.mode.candidates servers) p.effectiveTagSets

/-- Where a mode takes the primary, somebody is available if there is one. -/
lemma available_iff_of_takesPrimary (h : p.TakesPrimary servers) :
    p.Available servers ↔ HasPrimary servers := by
  unfold Available
  rcases h with hmode | ⟨hmode, hprimary⟩ | ⟨hmode, hnone⟩
  · rw [hmode]
  · rw [hmode]
    exact ⟨fun _ => hprimary, Or.inl⟩
  · rw [hmode]
    refine ⟨?_, Or.inl⟩
    rintro (hprimary | ⟨t, ht, s, hs, hst⟩)
    · exact hprimary
    · obtain ⟨hmem, hsecondary⟩ := List.mem_filter.mp hs
      exact absurd hst (hnone t ht s hmem hsecondary)

/-- Where a mode draws, somebody is available if a candidate carries a tag set. -/
lemma available_iff_of_not_takesPrimary (h : ¬ p.TakesPrimary servers) :
    p.Available servers ↔ SomeCarry (p.mode.candidates servers) p.effectiveTagSets := by
  unfold Available
  cases hmode : p.mode with
  | primary => exact absurd (Or.inl hmode) h
  | secondary => exact Iff.rfl
  | primaryPreferred =>
    refine ⟨?_, Or.inr⟩
    rintro (hprimary | hcarry)
    · exact absurd (Or.inr (Or.inl ⟨hmode, hprimary⟩)) h
    · exact hcarry
  | secondaryPreferred =>
    refine ⟨fun _ => ?_, Or.inr⟩
    by_contra hnone
    refine h (Or.inr (Or.inr ⟨hmode, fun t ht s hs hsecondary hst => hnone ?_⟩))
    exact ⟨t, ht, s, List.mem_filter.mpr ⟨hs, hsecondary⟩, hst⟩
  | nearest => exact Iff.rfl

/-! ## Finding a server -/

/-- Choosing ends with a server, by a given source in a given state. -/
def Finds {σ : Type} (p : Preference) (choice : Source σ) (st : σ) (c : Cluster) : Prop :=
  ∃ run s, p.route choice c = .ok run ∧ (run.run st).1 = .ok (some s)

section Finds

variable {σ : Type} {choice : Source σ} (hchoice : choice.Answers) (st : σ)
include hchoice

/-- With a source that answers, a selection that can be answered finds a server unless it comes to
nobody. -/
lemma finds_iff_of_result {sel : Selection} (h : (p.choose c).result = .ok sel)
    (hanswer : sel.Answerable) : p.Finds choice st c ↔ sel.isNobody = false := by
  have hroute : p.route choice c = .ok (sel.consult choice) := by
    unfold route
    rw [h]
    rfl
  unfold Finds
  rw [hroute]
  cases sel with
  | nobody =>
    refine ⟨?_, nofun⟩
    rintro ⟨run, s, hrun, hs⟩
    cases hrun
    cases hs
  | certain s => exact ⟨fun _ => rfl, fun _ => ⟨_, s, rfl, rfl⟩⟩
  | draw pool =>
    obtain ⟨s, -, hs⟩ := hchoice pool hanswer st
    exact ⟨fun _ => rfl,
      fun _ => ⟨_, s, rfl, Selection.consult_draw_eq_ok_iff.mpr ⟨s, hs, rfl⟩⟩⟩

/-- Choosing finds a server exactly if there is one, where the warning about several primaries does
not fail, and the servers that the tag sets leave are within windows of their own.

**Proof sketch.** Where the mode takes the primary, it finds it if there is one. Elsewhere it draws
among its candidates, and the draw has somebody to offer if one of them carries a tag set. -/
theorem finds_iff (hc : c.servers = .ok servers) (hwarn : c.CanWarn)
    (hwithin : p.mode ≠ .primary → ∀ s ∈ firstMatching (p.mode.candidates servers)
      p.effectiveTagSets, s.IsWithinOwnWindow c.latency.value) :
    p.Finds choice st c ↔ p.Available servers := by
  by_cases htakes : p.TakesPrimary servers
  · have hresult : (p.choose c).result = .ok (.ofPrimary (Cluster.firstPrimary? servers)) := by
      rw [choose_result hc, comesTo_of_takesPrimary htakes, takePrimary_eq hwarn]
    have hprimary : HasPrimary servers ↔ (Cluster.firstPrimary? servers).isSome = true :=
      List.find?_isSome.symm
    rw [finds_iff_of_result hchoice st hresult (Selection.answerable_ofPrimary _),
      available_iff_of_takesPrimary htakes, hprimary]
    cases Cluster.firstPrimary? servers <;> simp [Selection.ofPrimary, Selection.isNobody]
  · obtain ⟨sel, hsel, hanswer, hfound⟩ :=
      selectTagged_answers (hwithin fun hmode => htakes (Or.inl hmode))
    have hresult : (p.choose c).result = .ok sel := by
      rw [choose_result hc, ← hsel]
      by_cases hmode : p.mode = .nearest
      · rw [comesTo_of_nearest_of_canWarn hmode hwarn, hmode]
        rfl
      · rw [comesTo_of_not_takesPrimary hc htakes hmode, Mode.candidates_eq_secondaries hmode]
        rfl
    rw [finds_iff_of_result hchoice st hresult hanswer, hfound,
      available_iff_of_not_takesPrimary htakes]
    rfl

end Finds

/-! ## How the modes compare -/

/-- Every secondary is a candidate of the mode that takes the nearest. -/
lemma someCarry_nearest_of_secondary (h : SomeCarry (Mode.secondary.candidates servers) tagSets) :
    SomeCarry (Mode.nearest.candidates servers) tagSets := by
  obtain ⟨t, ht, s, hs, hst⟩ := h
  obtain ⟨hmem, hsecondary⟩ := List.mem_filter.mp hs
  exact ⟨t, ht, s, Cluster.mem_readableOf_iff.mpr ⟨hmem, Or.inr hsecondary⟩, hst⟩

/-- The primary is a candidate of the mode that takes the nearest, and carries the tag set without
labels. -/
lemma someCarry_nearest_of_primary (h : HasPrimary servers) :
    SomeCarry (Mode.nearest.candidates servers) [LabelSet.empty] := by
  obtain ⟨q, hq⟩ := Option.isSome_iff_exists.mp (List.find?_isSome.mpr h)
  refine ⟨LabelSet.empty, List.mem_singleton_self _, q, ?_, carries_empty q⟩
  exact Cluster.mem_readableOf_iff.mpr
    ⟨List.mem_of_find?_eq_some hq, Or.inl ⟨q, hq, Or.inl rfl⟩⟩

/-- A candidate of the mode that takes the nearest is the primary or a secondary. -/
lemma hasPrimary_or_someCarry_of_nearest
    (h : SomeCarry (Mode.nearest.candidates servers) tagSets) :
    HasPrimary servers ∨ SomeCarry (Mode.secondary.candidates servers) tagSets := by
  obtain ⟨t, ht, s, hs, hst⟩ := h
  obtain ⟨hmem, ⟨q, hq, -⟩ | hsecondary⟩ := Cluster.mem_readableOf_iff.mp hs
  · exact Or.inl ⟨q, List.mem_of_find?_eq_some hq, List.find?_some hq⟩
  · exact Or.inr ⟨t, ht, s, List.mem_filter.mpr ⟨hmem, hsecondary⟩, hst⟩

/-- Whoever is available is reachable. -/
lemma exists_reachable_of_available (h : p.Available servers) :
    ∃ s ∈ servers, s.isReachable = true := by
  have hprimary : HasPrimary servers → ∃ s ∈ servers, s.isReachable = true := by
    rintro ⟨s, hs, hs'⟩
    rw [servesAsPrimary, Bool.and_eq_true] at hs'
    exact ⟨s, hs, hs'.1⟩
  have hsecondary : ∀ {ts}, SomeCarry (Mode.secondary.candidates servers) ts →
      ∃ s ∈ servers, s.isReachable = true := by
    rintro ts ⟨t, -, s, hs, -⟩
    obtain ⟨hmem, hs'⟩ := List.mem_filter.mp hs
    rw [servesAsSecondary, Bool.and_eq_true] at hs'
    exact ⟨s, hmem, hs'.1⟩
  unfold Available at h
  cases hmode : p.mode with
  | primary =>
    rw [hmode] at h
    exact hprimary h
  | secondary =>
    rw [hmode] at h
    exact hsecondary h
  | primaryPreferred =>
    rw [hmode] at h
    exact h.elim hprimary hsecondary
  | secondaryPreferred =>
    rw [hmode] at h
    exact h.elim hprimary hsecondary
  | nearest =>
    rw [hmode] at h
    exact (hasPrimary_or_someCarry_of_nearest h).elim hprimary hsecondary

/-- **How the modes compare.** With the same tag sets, and a source that answers whenever somebody
is offered, in whatever states: the two modes with a preference find a server exactly if one of the
modes that name one role does; the mode that takes the nearest finds one if the mode that takes a
secondary does, and only if those with a preference do, which without tag sets is the same; the
primary is found exactly if the type of the cluster says that there is one; and if any mode finds a
server, then the cluster is not unknown. This is for snapshots whose warning about several
primaries, if one is due, can be worded, and whose servers, as far as the tag sets leave them, are
within windows that begin at their own ping times. -/
theorem modes_find (hc : c.servers = .ok servers) (hwarn : c.CanWarn) {σ : Type} {choice : Source σ}
    (hchoice : choice.Answers) (st : Mode → σ)
    (hwithin : ∀ m ≠ Mode.primary, ∀ s ∈ firstMatching (m.candidates servers)
      (m.withTagSets tagSets).effectiveTagSets, s.IsWithinOwnWindow c.latency.value) :
    let finds (m : Mode) : Prop := (m.withTagSets tagSets).Finds choice (st m) c
    (finds .primaryPreferred ↔ finds .secondaryPreferred) ∧
    (finds .secondaryPreferred ↔ finds .primary ∨ finds .secondary) ∧
    (finds .secondary → finds .nearest) ∧
    (finds .nearest → finds .secondaryPreferred) ∧
    (tagSets = [] → (finds .nearest ↔ finds .secondaryPreferred)) ∧
    (finds .primary ↔ c.type.result = .ok .withPrimary) ∧
    ((∃ m, finds m) → c.type.result ≠ .ok .unknown) := by
  intro finds
  have hfinds : ∀ m, finds m ↔ (m.withTagSets tagSets).Available servers :=
    fun m => finds_iff hchoice (st m) hc hwarn (hwithin m)
  have hnearest : finds .nearest → finds .secondaryPreferred := by
    rw [hfinds, hfinds]
    exact hasPrimary_or_someCarry_of_nearest
  refine ⟨?_, ?_, ?_, hnearest, fun hnone => ⟨hnearest, ?_⟩, ?_, ?_⟩
  · rw [hfinds, hfinds]
    exact Iff.rfl
  · rw [hfinds, hfinds, hfinds]
    exact Iff.rfl
  · rw [hfinds, hfinds]
    exact someCarry_nearest_of_secondary
  · rw [hfinds, hfinds, hnone]
    rintro (hprimary | hsecondary)
    · exact someCarry_nearest_of_primary hprimary
    · exact someCarry_nearest_of_secondary hsecondary
  · rw [hfinds, Cluster.type_result hc hwarn, Except.ok.injEq, clusterType_eq_withPrimary_iff]
    exact Iff.rfl
  · rintro ⟨m, hm⟩
    rw [Cluster.type_result hc hwarn, Ne, Except.ok.injEq, clusterType_eq_unknown_iff, not_not]
    exact exists_reachable_of_available ((hfinds m).mp hm)

/-- A primary with a float for its ping time in one data center, and a secondary in another one,
where the reads are to go. -/
theorem modes_find_two_data_centers :
    let primary := { Server.sample 1 0 "ny" with
      ident := some 1, ping := .ofFloat (Float.ofBits 0x416312D000000000)
      primary := .bool true, secondary := .bool false }
    let follower := { Server.sample 2 20 "sf" with ident := some 2 }
    let c : Cluster := ⟨none, [.server primary, .server follower], ⟨15, false⟩, .default⟩
    let finds (m : Mode) : Prop :=
      (m.withTagSets [⟨[⟨.text "dc", .text "sf"⟩]⟩]).Finds (Source.byPosition 0) () c
    c.CanWarn ∧ (Source.byPosition 0).Answers ∧
      (finds .secondaryPreferred ↔ finds .primary ∨ finds .secondary) ∧
      (finds .secondary → finds .nearest) ∧
      (finds .primary ↔ c.type.result = .ok .withPrimary) ∧
      ((∃ m, finds m) → c.type.result ≠ .ok .unknown) := by
  intro primary follower c finds
  have hc : c.servers = .ok [primary, follower] := rfl
  have hwarn : c.CanWarn := Cluster.canWarn_of_one_primary hc (by decide)
  have hwithin : ∀ s ∈ [primary, follower], s.IsWithinOwnWindow 15 :=
    List.forall_mem_cons.mpr
      ⟨⟨_, rfl, by decide⟩, List.forall_mem_singleton.mpr ⟨_, rfl, by decide⟩⟩
  obtain ⟨-, hpreferred, hnearest, -, -, hprimary, htype⟩ :=
    modes_find hc hwarn Source.answers_byPosition_zero (fun _ => ()) fun m _ s hs =>
      hwithin s (Mode.mem_of_mem_candidates (mem_firstMatching hs).1)
  exact ⟨hwarn, Source.answers_byPosition_zero, hpreferred, hnearest, hprimary, htype⟩

/-- A secondary whose ping time is not a number, and a primary: the mode that prefers the primary
finds it, the mode that prefers secondaries asks a source to choose from nobody. -/
theorem modes_find_not_a_number :
    let odd := { Server.sample 1 0 "ny" with
      ident := some 1, ping := .ofFloat (Float.ofBits 0x7ff8000000000000) }
    let usual := { Server.sample 2 5 "ny" with
      ident := some 2, primary := .bool true, secondary := .bool false }
    let c : Cluster := ⟨none, [.server odd, .server usual], ⟨15, false⟩, .default⟩
    let finds (m : Mode) : Prop := (m.withTagSets []).Finds (Source.byPosition 0) () c
    c.servers = .ok [odd, usual] ∧ c.CanWarn ∧ (Source.byPosition 0).Answers ∧
      (Source.byPosition 0).Faithful ∧
      finds .primaryPreferred ∧ finds .primary ∧ ¬ finds .secondaryPreferred := by
  intro odd usual c finds
  have hc : c.servers = .ok [odd, usual] := rfl
  have hwarn : c.CanWarn := Cluster.canWarn_of_one_primary hc (by decide)
  have hodd : Server.withinWindow 15 [odd] = .ok [] := by rfl
  have hprimary : ∀ m, m = .primary ∨ m = .primaryPreferred → finds m := by
    intro m hm
    have htakes : (m.withTagSets []).TakesPrimary [odd, usual] :=
      hm.imp id fun hm => Or.inl ⟨hm, usual, by simp, rfl⟩
    have hresult : ((m.withTagSets []).choose c).result = .ok (.certain usual) := by
      rw [choose_result hc, comesTo_of_takesPrimary htakes, takePrimary_eq hwarn]
      rfl
    exact (finds_iff_of_result Source.answers_byPosition_zero () hresult trivial).mpr rfl
  have hsecondary : ((Mode.secondaryPreferred.withTagSets []).choose c).result =
      .ok (.draw []) := by
    rw [choose_result hc]
    change fallBack (Server.withinWindow 15 [odd] >>= fun pool => .ok (.draw pool)) _ = _
    rw [hodd]
    rfl
  refine ⟨hc, hwarn, Source.answers_byPosition_zero, Source.faithful_byPosition 0,
    hprimary _ (Or.inr rfl), hprimary _ (Or.inl rfl), ?_⟩
  rintro ⟨run, s, hrun, hs⟩
  rw [route_eq_of_draw hsecondary] at hrun
  cases hrun
  obtain ⟨t, ht, -⟩ := Selection.consult_draw_eq_ok_iff.mp hs
  cases Source.faithful_byPosition 0 [] () t ht

end Preference

end ReadRouting
