import ReadRouting.Proofs.Eligible
import ReadRouting.Proofs.Recording

set_option autoImplicit false
set_option relaxedAutoImplicit false

/-!
# Members that may not serve

A member that may not serve reads does not interfere with them: it is unreachable, or has no role,
or is a reachable primary after the first one and no secondary. Neither its labels nor its ping time
count for anything. Choosing comes to the same selection without it, and every source is offered the
same servers in the same order.

There is one exception. A second reachable primary is warned of, and if its address cannot be
worded, then whatever asks for the primary fails with it, and may succeed without it.

## Main definitions

* `ReadRouting.Server.LeavesOut` — a list without some of its servers that have a property.

## Main results

* `ReadRouting.Server.LeavesOut.filter_eq`, `ReadRouting.Server.LeavesOut.find?_eq` — searches that
  do not depend on the servers that are left out.
* `ReadRouting.Preference.choose_ignores_ineligible` — choosing does not depend on members that may
  not serve.
-/

namespace ReadRouting

namespace Server

/-! ## Lists without some of their servers -/

/-- The second list is the first without some of the servers that have a property, one by one. -/
inductive LeavesOut (P : Server → Prop) : List Server → List Server → Prop
  | nil : LeavesOut P [] []
  | keep (s : Server) {servers rest : List Server} (h : LeavesOut P servers rest) :
      LeavesOut P (s :: servers) (s :: rest)
  | drop {s : Server} (hs : P s) {servers rest : List Server} (h : LeavesOut P servers rest) :
      LeavesOut P (s :: servers) rest

namespace LeavesOut

variable {P : Server → Prop} {servers rest : List Server} {q : Server → Bool}

/-- Whatever is left out, the others stay in order. -/
lemma sublist (h : LeavesOut P servers rest) : rest.Sublist servers := by
  induction h with
  | nil => exact .slnil
  | keep s h ih => exact ih.cons_cons s
  | drop hs h ih => exact ih.cons _

/-- Nothing that passes a test is left out, so the same servers pass it. -/
theorem filter_eq (h : LeavesOut P servers rest) (hq : ∀ s ∈ servers, P s → q s = false) :
    rest.filter q = servers.filter q := by
  induction h with
  | nil => rfl
  | keep s h ih =>
    obtain ⟨-, hrest⟩ := List.forall_mem_cons.mp hq
    rw [List.filter_cons, List.filter_cons, ih hrest]
  | drop hs h ih =>
    obtain ⟨hfirst, hrest⟩ := List.forall_mem_cons.mp hq
    rw [List.filter_cons, hfirst hs, ih hrest]
    rfl

/-- The first server that passes a test is not left out, so it stays the first. -/
theorem find?_eq (h : LeavesOut P servers rest) (hq : ∀ s, servers.find? q = some s → ¬ P s) :
    rest.find? q = servers.find? q := by
  induction h with
  | nil => rfl
  | keep s h ih =>
    cases hs : q s with
    | true => rw [List.find?_cons_of_pos hs, List.find?_cons_of_pos hs]
    | false =>
      have hs' : ¬ q s = true := by rw [hs]; exact Bool.false_ne_true
      rw [List.find?_cons_of_neg hs'] at hq
      rw [List.find?_cons_of_neg hs', List.find?_cons_of_neg hs', ih hq]
  | @drop s hP servers rest h ih =>
    cases hs : q s with
    | true => exact absurd hP (hq s (List.find?_cons_of_pos hs))
    | false =>
      have hs' : ¬ q s = true := by rw [hs]; exact Bool.false_ne_true
      rw [List.find?_cons_of_neg hs'] at hq
      rw [List.find?_cons_of_neg hs', ih hq]

/-- Leaving out of two lists in a row is leaving out of each. -/
lemma exists_append {before after : List Server} (h : LeavesOut P (before ++ after) rest) :
    ∃ before' after', rest = before' ++ after' ∧ LeavesOut P before before' ∧
      LeavesOut P after after' := by
  induction before generalizing rest with
  | nil => exact ⟨[], rest, rfl, .nil, h⟩
  | cons s before ih =>
    cases h with
    | keep s h =>
      obtain ⟨before', after', rfl, hbefore, hafter⟩ := ih h
      exact ⟨s :: before', after', rfl, .keep s hbefore, hafter⟩
    | drop hs h =>
      obtain ⟨before', after', rfl, hbefore, hafter⟩ := ih h
      exact ⟨before', after', rfl, .drop hs hbefore, hafter⟩

end LeavesOut

/-! ## Lists without servers that may not serve -/

/-- A server that may not serve can serve no reads beside the primary that is used. -/
lemma not_beside_of_not_eligible {servers : List Server} {p s : Server}
    (hobjects : Coherent servers) (hp : Cluster.firstPrimary? servers = some p) (hs : s ∈ servers)
    (hnot : ¬ s.Eligible servers) : (Cluster.isThe p s || s.servesAsSecondary) = false := by
  rw [← Bool.not_eq_true, Bool.or_eq_true_iff]
  intro hreadable
  apply hnot
  apply Eligible.of_nearest hobjects
  exact Cluster.mem_readableOf_iff.mpr ⟨hs, hreadable.imp (fun hs => ⟨p, hp, Or.inr hs⟩) id⟩

section Ineligible

variable {servers rest : List Server}
  (h : LeavesOut (fun s => ¬ s.Eligible servers) servers rest)
include h

/-- The first reachable primary is eligible, and stays the first. -/
lemma firstPrimary?_of_leavesOut : Cluster.firstPrimary? rest = Cluster.firstPrimary? servers :=
  h.find?_eq fun _ hs hnot => hnot (Eligible.of_primary hs)

/-- All reachable secondaries are eligible. -/
lemma secondaries_of_leavesOut :
    rest.filter (·.servesAsSecondary) = servers.filter (·.servesAsSecondary) := by
  refine h.filter_eq fun s hs hnot => ?_
  rw [← Bool.not_eq_true]
  exact fun hsecondary => hnot (Eligible.of_secondary hs hsecondary)

/-- All servers that can serve reads are eligible. -/
lemma readable_of_leavesOut (hobjects : Coherent servers) :
    Cluster.readableOf rest = Cluster.readableOf servers := by
  rcases Cluster.noPrimary_or_first servers with hnone | ⟨before, p, after, rfl, hbefore, hp⟩
  · have hnone' : ∀ s ∈ rest, s.servesAsPrimary = false :=
      fun s hs => hnone s (h.sublist.subset hs)
    rw [Cluster.readableOf_of_noPrimary hnone, Cluster.readableOf_of_noPrimary hnone',
      secondaries_of_leavesOut h]
  · obtain ⟨before', kept, rfl, hbefore', hkept⟩ := h.exists_append
    have hfirst : Cluster.firstPrimary? (before ++ p :: after) = some p :=
      Cluster.firstPrimary?_append hbefore hp
    cases hkept with
    | drop hdropped hrest => exact absurd (Eligible.of_primary hfirst) hdropped
    | @keep _ _ after' hafter' =>
      have hnone : ∀ s ∈ before', s.servesAsPrimary = false :=
        fun s hs => hbefore s (hbefore'.sublist.subset hs)
      rw [Cluster.readableOf_append hnone hp, Cluster.readableOf_append hbefore hp]
      unfold Cluster.readableBeside
      rw [hbefore'.filter_eq fun s hs => not_beside_of_not_eligible hobjects hfirst
          (List.mem_append_left _ hs),
        hafter'.filter_eq fun s hs => not_beside_of_not_eligible hobjects hfirst
          (List.mem_append_right _ (List.mem_cons_of_mem _ hs))]

end Ineligible

end Server

namespace Preference

variable {p : Preference} {c d : Cluster} {servers rest : List Server}

/-- Whether the primary is taken depends on the first primary and on the secondaries. -/
lemma takesPrimary_iff : p.TakesPrimary servers ↔
    p.mode = .primary ∨
      (p.mode = .primaryPreferred ∧ (Cluster.firstPrimary? servers).isSome = true) ∨
      (p.mode = .secondaryPreferred ∧
        ∀ t ∈ p.effectiveTagSets, ∀ s ∈ servers.filter (·.servesAsSecondary), ¬ s.Carries t) := by
  simp only [TakesPrimary, Cluster.firstPrimary?, List.find?_isSome, List.mem_filter, and_imp]

section Ineligible

variable (hc : c.servers = .ok servers) (hd : d.servers = .ok rest)
  (hlatency : d.latency = c.latency) (hobjects : Server.Coherent servers)
  (h : Server.LeavesOut (fun s => ¬ s.Eligible servers) servers rest)
include hc hd hlatency hobjects h

/-- Choosing comes to the same, unless the warning about several primaries fails and is asked for.

**Proof sketch.** What a mode comes to depends on the first primary, on the secondaries and on both
together, none of which are left out, and on the warning. That can still be worded about fewer
primaries. -/
lemma comesTo_of_leavesOut
    (hwarn : c.CanWarn ∨ ¬ (p.TakesPrimary servers ∨ p.mode = .nearest)) :
    p.comesTo d rest = p.comesTo c servers := by
  have hfirst := Server.firstPrimary?_of_leavesOut h
  have hsecondaries := Server.secondaries_of_leavesOut h
  have htakes : p.TakesPrimary rest ↔ p.TakesPrimary servers := by
    rw [takesPrimary_iff, takesPrimary_iff, hfirst, hsecondaries]
  have hwarns : p.TakesPrimary servers ∨ p.mode = .nearest → c.CanWarn ∧ d.CanWarn := by
    intro hasks
    have hcan : c.CanWarn := hwarn.resolve_right (not_not.mpr hasks)
    exact ⟨hcan, hcan.of_sublist hc hd h.sublist⟩
  by_cases hprimary : p.TakesPrimary servers
  · obtain ⟨hwarn, hwarn'⟩ := hwarns (Or.inl hprimary)
    rw [comesTo_of_takesPrimary hprimary, comesTo_of_takesPrimary (htakes.mpr hprimary),
      takePrimary_eq hwarn, takePrimary_eq hwarn', hfirst]
  by_cases hmode : p.mode = .nearest
  · obtain ⟨hwarn, hwarn'⟩ := hwarns (Or.inr hmode)
    rw [comesTo_of_nearest_of_canWarn hmode hwarn, comesTo_of_nearest_of_canWarn hmode hwarn',
      drawReadable, drawReadable, hlatency, Server.readable_of_leavesOut h hobjects]
  · rw [comesTo_of_not_takesPrimary hc hprimary hmode,
      comesTo_of_not_takesPrimary hd (mt htakes.mp hprimary) hmode, drawSecondary, drawSecondary,
      hlatency, hsecondaries]

/-- **Members that may not serve do not interfere.** On a snapshot without some of the members that
may not serve reads, choosing comes to the same selection, so that every source is offered the same
servers in the same order, and ends with the same server; if it fails, then alike. What can be in
the way is the warning about several primaries, exactly if it cannot be worded and the primary is
asked for: then choosing fails with it. -/
theorem choose_ignores_ineligible :
    (c.CanWarn ∨ ¬ (p.TakesPrimary servers ∨ p.mode = .nearest) →
      (p.choose d).result = (p.choose c).result ∧
        ∀ {m : Type → Type} [Monad m] (choice : List Server → m Server),
          p.route choice d = p.route choice c) ∧
    (¬ c.CanWarn → p.TakesPrimary servers ∨ p.mode = .nearest →
      ∃ f, ∀ {m : Type → Type} [Monad m] (choice : List Server → m Server),
        p.route choice c = .error f) := by
  refine ⟨fun hwarn => ?_, fun hwarn hasks => ?_⟩
  · have hresult : (p.choose d).result = (p.choose c).result := by
      rw [choose_result hc, choose_result hd]
      exact comesTo_of_leavesOut hc hd hlatency hobjects h hwarn
    refine ⟨hresult, fun choice => ?_⟩
    rw [route, route, hresult]
  · obtain ⟨f, hf⟩ := Cluster.exists_error_of_not_canWarn hwarn
    refine ⟨f, route_eq_error ?_⟩
    rw [choose_result hc]
    exact comesTo_eq_error hf hasks

end Ineligible

/-- An unreachable server and an arbiter, both of them fast and with the label that is asked for,
and a second primary: the mode that takes the nearest offers the same servers without them. -/
theorem choose_ignores_ineligible_three_members :
    let dead := { Server.sample 1 0 "ny" with ident := some 1, reachable := .bool false }
    let arbiter := { Server.sample 2 0 "ny" with ident := some 2, secondary := .bool false }
    let old := { Server.sample 3 20 "ny" with
      ident := some 3, primary := .bool true, secondary := .bool false }
    let new := { Server.sample 4 0 "ny" with
      ident := some 4, primary := .bool true, secondary := .bool false }
    let follower := { Server.sample 5 30 "ny" with ident := some 5 }
    let servers := [dead, arbiter, old, new, follower]
    let c : Cluster := ⟨none, servers.map .server, ⟨15, false⟩, .default⟩
    let d : Cluster := ⟨none, [.server old, .server follower], ⟨15, false⟩, .default⟩
    let p : Preference := ⟨.nearest, [⟨[⟨.text "dc", .text "ny"⟩]⟩]⟩
    Server.LeavesOut (fun s => ¬ s.Eligible servers) servers [old, follower] ∧ c.CanWarn ∧
      ∀ {m : Type → Type} [Monad m] (choice : List Server → m Server),
        p.route choice d = p.route choice c := by
  intro dead arbiter old new follower servers c d p
  have hc : c.servers = .ok servers := rfl
  have hd : d.servers = .ok [old, follower] := rfl
  have hfirst : servers.find? (·.servesAsPrimary) = some old := rfl
  have hobjects : Server.Coherent servers := Server.coherent_of_nodup (by decide)
  have hdead : ¬ dead.Eligible servers := fun h => absurd h.reachable (by decide)
  have hother : ∀ s : Server, s.ident ≠ old.ident → s.servesAsSecondary = false →
      ¬ s.Eligible servers := by
    intro s hident hsecondary h
    rcases h.role with hs | hs
    · rw [hfirst] at hs
      exact hident (congrArg Server.ident (Option.some.inj hs)).symm
    · rw [hsecondary] at hs
      cases hs
  have hleft : Server.LeavesOut (fun s => ¬ s.Eligible servers) servers [old, follower] :=
    .drop hdead <| .drop (hother arbiter (by decide) rfl) <| .keep old <|
      .drop (hother new (by decide) rfl) <| .keep follower .nil
  have haddress : ∀ s ∈ servers, ∃ port : Int,
      s.address = (Address.mk "localhost" ⟨port, false⟩).toValue ∧ port.natAbs < 65536 := by
    simp only [servers, List.forall_mem_cons]
    exact ⟨⟨1, rfl, by decide⟩, ⟨2, rfl, by decide⟩, ⟨3, rfl, by decide⟩, ⟨4, rfl, by decide⟩,
      ⟨5, rfl, by decide⟩, nofun⟩
  have hwarn : c.CanWarn := by
    refine Cluster.canWarn_of_writable hc fun s hs _ => ?_
    obtain ⟨port, haddress, hport⟩ := haddress s hs
    exact ⟨_, haddress, Address.isWritable_of_lt hport⟩
  have hsame := (choose_ignores_ineligible (p := p) hc hd rfl hobjects hleft).1 (Or.inl hwarn)
  exact ⟨hleft, hwarn, hsame.2⟩

end Preference

end ReadRouting
