import Mathlib.Data.List.Nodup
import ReadRouting.Proofs.Offer

set_option autoImplicit false
set_option relaxedAutoImplicit false

/-!
# Who may serve a read

In every mode, whatever the snapshot looks like, a read goes to the primary that is used or to a
reachable secondary. A second reachable primary is neither chosen nor offered to a draw, unless it
says that it is a secondary too.

Where a mode takes the primary, it takes the first one, without a draw and without a look at labels.
Everywhere else the server carries one of the tag sets.

## Main definitions

* `ReadRouting.Server.Coherent` — servers that are one object are one server.
* `ReadRouting.Server.Eligible` — who may serve a read.
* `ReadRouting.Preference.TakesPrimary` — a mode takes the primary, without a draw.

## Main results

* `ReadRouting.Preference.comesTo_all` — what each selection may end with.
* `ReadRouting.Preference.choose_is_eligible` — who is chosen, who is offered, and when the primary
  is taken.

## Implementation notes

Whether a server is the primary that is used is asked of the object. `ReadRouting.Server.Coherent`
rules out lists that no snapshot holds, in which one object has two descriptions. Servers without a
number are all different objects.
-/

namespace ReadRouting

namespace Server

/-- Servers that are one object are one server. -/
def Coherent (servers : List Server) : Prop :=
  ∀ s ∈ servers, ∀ t ∈ servers, s.ident.same t.ident = true → s = t

/-- A server may serve reads: it is reachable, and it is the first reachable primary in order of
discovery or a secondary. -/
structure Eligible (servers : List Server) (s : Server) : Prop where
  member : s ∈ servers
  reachable : s.isReachable = true
  role : servers.find? (·.servesAsPrimary) = some s ∨ s.servesAsSecondary = true

variable {servers : List Server} {s : Server}

/-- Objects that are all different are coherent. -/
lemma coherent_of_nodup (h : (servers.map (·.ident)).Nodup) : Coherent servers := by
  intro s hs t ht hsame
  rw [Ident.same, Bool.and_eq_true, beq_iff_eq] at hsame
  exact List.inj_on_of_nodup_map h hs ht hsame.2

/-- The first reachable primary may serve reads. -/
lemma Eligible.of_primary (h : servers.find? (·.servesAsPrimary) = some s) :
    s.Eligible servers := by
  have hs : s.servesAsPrimary = true := List.find?_some h
  rw [servesAsPrimary, Bool.and_eq_true] at hs
  exact ⟨List.mem_of_find?_eq_some h, hs.1, Or.inl h⟩

/-- A reachable secondary may serve reads. -/
lemma Eligible.of_secondary (hmem : s ∈ servers) (hs : s.servesAsSecondary = true) :
    s.Eligible servers := by
  refine ⟨hmem, ?_, Or.inr hs⟩
  rw [servesAsSecondary, Bool.and_eq_true] at hs
  exact hs.1

/-- Among the nearest, the object that is used as the primary is the first reachable primary. -/
lemma Eligible.of_nearest (hobjects : Coherent servers)
    (h : s ∈ Mode.nearest.candidates servers) : s.Eligible servers := by
  obtain ⟨hmem, ⟨p, hp, hs⟩ | hs⟩ := Cluster.mem_readableOf_iff.mp h
  · have hmemp : p ∈ servers := List.mem_of_find?_eq_some hp
    have hsame : s = p := hs.elim id fun hs => (hobjects p hmemp s hmem hs).symm
    rw [hsame]
    exact Eligible.of_primary hp
  · exact Eligible.of_secondary hmem hs

/-- A draw by tag sets ends with a candidate that carries one of them. -/
lemma selectTagged_all {window : Int} {candidates : List Server} {tagSets : List LabelSet}
    {sel : Selection} (h : selectTagged window candidates tagSets = .ok sel) :
    sel.All fun s => s ∈ candidates ∧ ∃ t ∈ tagSets, s.Carries t := by
  unfold selectTagged selectWithin at h
  split at h
  · cases h
    trivial
  · obtain ⟨pool, hpool, h⟩ := Checked.bind_eq_ok h
    cases h
    exact fun s hs => mem_firstMatching (mem_of_mem_withinWindow hpool hs)

/-- A draw by tag sets that comes to nobody has no candidate that carries any of them. -/
lemma not_carries_of_selectTagged {window : Int} {candidates : List Server}
    {tagSets : List LabelSet} {sel : Selection}
    (h : selectTagged window candidates tagSets = .ok sel)
    (hnobody : sel.isNobody = true) : ∀ t ∈ tagSets, ∀ s ∈ candidates, ¬ s.Carries t := by
  unfold selectTagged selectWithin at h
  split at h
  · rename_i hempty
    exact firstMatching_eq_nil_iff.mp (List.isEmpty_iff.mp hempty)
  · obtain ⟨pool, -, h⟩ := Checked.bind_eq_ok h
    cases h
    cases hnobody

end Server

namespace Preference

variable {p : Preference} {c : Cluster} {servers : List Server}

/-- The mode takes the primary: always, if there is one, or if no reachable secondary carries any
of the tag sets. -/
def TakesPrimary (p : Preference) (servers : List Server) : Prop :=
  p.mode = .primary ∨
    (p.mode = .primaryPreferred ∧ ∃ s ∈ servers, s.servesAsPrimary = true) ∨
    (p.mode = .secondaryPreferred ∧
      ∀ t ∈ p.effectiveTagSets, ∀ s ∈ servers, s.servesAsSecondary = true → ¬ s.Carries t)

/-- What a selection may end with: an eligible server, which carries one of the tag sets unless the
primary is taken; and in the modes that name one role, a server of that role. -/
structure Serves (p : Preference) (servers : List Server) (s : Server) : Prop where
  eligible : s.Eligible servers
  carries : p.TakesPrimary servers ∨ ∃ t ∈ p.effectiveTagSets, s.Carries t
  secondary : p.mode = .secondary → s.servesAsSecondary = true
  primary : p.mode = .primary → s.servesAsPrimary = true

/-- A draw among the secondaries ends with one of them that carries one of the tag sets. -/
lemma drawSecondary_all {sel : Selection} (h : p.drawSecondary c servers = .ok sel) :
    sel.All fun s => s ∈ servers ∧ s.servesAsSecondary = true ∧
      ∃ t ∈ p.effectiveTagSets, s.Carries t := by
  refine (Server.selectTagged_all h).imp ?_
  rintro s ⟨hs, ht⟩
  obtain ⟨hmem, hsec⟩ := List.mem_filter.mp hs
  exact ⟨hmem, hsec, ht⟩

/-- The primary that is taken is the first one. -/
lemma takePrimary_eq_ok {sel : Selection} (h : takePrimary c servers = .ok sel) :
    sel = .ofPrimary (servers.find? (·.servesAsPrimary)) := by
  obtain ⟨u, -, h⟩ := Checked.bind_eq_ok h
  cases h
  rfl

/-- A selection of the primary ends with the first one. -/
lemma ofPrimary_all (servers : List Server) :
    (Selection.ofPrimary (servers.find? (·.servesAsPrimary))).All fun s =>
      servers.find? (·.servesAsPrimary) = some s := by
  cases servers.find? (·.servesAsPrimary) with
  | none => trivial
  | some s => rfl

/-- The first primary serves the modes that take it. -/
lemma Serves.of_primary {s : Server} (htakes : p.TakesPrimary servers)
    (hmode : p.mode ≠ .secondary) (h : servers.find? (·.servesAsPrimary) = some s) :
    p.Serves servers s where
  eligible := .of_primary h
  carries := Or.inl htakes
  secondary := fun hsecondary => absurd hsecondary hmode
  primary := fun _ => List.find?_some h

/-- A secondary that carries one of the tag sets serves every mode but that of the primary. -/
lemma Serves.of_secondary {s : Server} (hmode : p.mode ≠ .primary)
    (h : s ∈ servers ∧ s.servesAsSecondary = true ∧ ∃ t ∈ p.effectiveTagSets, s.Carries t) :
    p.Serves servers s where
  eligible := .of_secondary h.1 h.2.1
  carries := Or.inr h.2.2
  secondary := fun _ => h.2.1
  primary := fun hprimary => absurd hprimary hmode

/-- Each selection ends with a server that its mode may serve reads with.

**Proof sketch.** By mode. What comes from the primary is the first one, what comes from a draw is a
candidate that carries one of the tag sets. The mode that prefers secondaries turns to the primary
only after a draw that came to nobody, so that no secondary carries any tag set. -/
theorem comesTo_all (hobjects : Server.Coherent servers) {sel : Selection}
    (h : p.comesTo c servers = .ok sel) : sel.All (p.Serves servers) := by
  unfold comesTo at h
  cases hmode : p.mode with
  | primary =>
    rw [hmode] at h
    rw [takePrimary_eq_ok h]
    exact (ofPrimary_all servers).imp fun s =>
      Serves.of_primary (Or.inl hmode) (by rw [hmode]; nofun)
  | secondary =>
    rw [hmode] at h
    exact (drawSecondary_all h).imp fun s => Serves.of_secondary (by rw [hmode]; nofun)
  | primaryPreferred =>
    rw [hmode] at h
    obtain ⟨first, hfirst, h⟩ := Checked.bind_eq_ok h
    rw [takePrimary_eq_ok hfirst] at h
    cases hp : servers.find? (·.servesAsPrimary) with
    | none =>
      rw [hp] at h
      exact (drawSecondary_all h).imp fun s => Serves.of_secondary (by rw [hmode]; nofun)
    | some s =>
      rw [hp] at h
      cases h
      have hs : s ∈ servers := List.mem_of_find?_eq_some hp
      exact Serves.of_primary (Or.inr (Or.inl ⟨hmode, s, hs, List.find?_some hp⟩))
        (by rw [hmode]; nofun) hp
  | secondaryPreferred =>
    rw [hmode] at h
    obtain ⟨first, hfirst, h⟩ := Checked.bind_eq_ok h
    cases hnobody : first.isNobody with
    | true =>
      simp only [hnobody, if_true] at h
      have hnone := Server.not_carries_of_selectTagged hfirst hnobody
      have htakes : p.TakesPrimary servers := by
        refine Or.inr (Or.inr ⟨hmode, fun t ht s hs hsec => ?_⟩)
        exact hnone t ht s (List.mem_filter.mpr ⟨hs, hsec⟩)
      rw [takePrimary_eq_ok h]
      exact (ofPrimary_all servers).imp fun s => Serves.of_primary htakes (by rw [hmode]; nofun)
    | false =>
      simp only [hnobody] at h
      cases h
      exact (drawSecondary_all hfirst).imp fun s => Serves.of_secondary (by rw [hmode]; nofun)
  | nearest =>
    rw [hmode] at h
    obtain ⟨u, -, h⟩ := Checked.bind_eq_ok h
    refine (Server.selectTagged_all h).imp ?_
    rintro s ⟨hs, ht⟩
    exact ⟨.of_nearest hobjects hs, Or.inr ht, by rw [hmode]; nofun, by rw [hmode]; nofun⟩

/-- Whoever comes out of a faithful source may serve reads by the preference. -/
lemma serves_of_route (hc : c.servers = .ok servers) (hobjects : Server.Coherent servers)
    {σ : Type} {choice : Source σ} (hchoice : choice.Faithful)
    {run : ExceptT Fault (StateM σ) (Option Server)} (hrun : p.route choice c = .ok run) {st : σ}
    {s : Server} (hs : (run.run st).1 = .ok (some s)) : p.Serves servers s := by
  unfold route at hrun
  rw [choose_result hc] at hrun
  rcases hsel : p.comesTo c servers with f | sel
  · rw [hsel] at hrun
    cases hrun
  · rw [hsel] at hrun
    cases hrun
    exact (comesTo_all hobjects hsel).of_consult hchoice hs

/-- Where the mode takes the primary, choosing comes to that. -/
lemma comesTo_of_takesPrimary (htakes : p.TakesPrimary servers) :
    p.comesTo c servers = takePrimary c servers := by
  unfold comesTo
  rcases htakes with hmode | ⟨hmode, s, hs, hprimary⟩ | ⟨hmode, hnone⟩
  · rw [hmode]
  · rw [hmode]
    obtain ⟨q, hq⟩ : ∃ q, servers.find? (·.servesAsPrimary) = some q :=
      Option.isSome_iff_exists.mp (List.find?_isSome.mpr ⟨s, hs, hprimary⟩)
    unfold takePrimary Cluster.firstPrimary?
    rw [hq]
    cases c.warnIfSplit.result <;> rfl
  · rw [hmode]
    have hdraw : p.drawSecondary c servers = .ok .nobody := by
      refine Server.selectTagged_eq_nobody (fun t ht s hs => ?_) _
      obtain ⟨hmem, hsec⟩ := List.mem_filter.mp hs
      exact hnone t ht s hmem hsec
    unfold fallBack
    rw [hdraw]
    rfl

/-- Where a mode neither takes the primary nor the nearest, choosing comes to a draw among the
secondaries, and nobody warns. -/
lemma comesTo_of_not_takesPrimary (hc : c.servers = .ok servers)
    (htakes : ¬ p.TakesPrimary servers) (hnearest : p.mode ≠ .nearest) :
    p.comesTo c servers = p.drawSecondary c servers := by
  unfold comesTo
  cases hmode : p.mode with
  | primary => exact absurd (Or.inl hmode) htakes
  | secondary => rfl
  | primaryPreferred =>
    have hnone : ∀ s ∈ servers, ¬ s.servesAsPrimary = true :=
      fun s hs hprimary => htakes (Or.inr (Or.inl ⟨hmode, s, hs, hprimary⟩))
    have hfirst : Cluster.firstPrimary? servers = none := List.find?_eq_none.mpr hnone
    have hwarn : c.CanWarn := by
      refine (Cluster.canWarn_iff hc).mpr (Or.inl ?_)
      rw [List.filter_eq_nil_iff.mpr hnone]
      exact Nat.zero_lt_two
    rw [takePrimary_eq hwarn, hfirst]
    rfl
  | secondaryPreferred =>
    cases hdraw : p.drawSecondary c servers with
    | error f => rfl
    | ok sel =>
      cases hnobody : sel.isNobody with
      | true =>
        have hnone := Server.not_carries_of_selectTagged hdraw hnobody
        refine absurd (Or.inr (Or.inr ⟨hmode, fun t ht s hs hsec => ?_⟩)) htakes
        exact hnone t ht s (List.mem_filter.mpr ⟨hs, hsec⟩)
      | false =>
        change (if sel.isNobody then takePrimary c servers else .ok sel) = .ok sel
        rw [hnobody, if_neg Bool.false_ne_true]
  | nearest => exact absurd hmode hnearest

/-- Asking for the primary fails with the warning. -/
lemma comesTo_eq_error {f : Fault} (hwarn : c.warnIfSplit.result = .error f)
    (h : p.TakesPrimary servers ∨ p.mode = .nearest) : p.comesTo c servers = .error f := by
  rcases h with htakes | hnearest
  · rw [comesTo_of_takesPrimary htakes, takePrimary, hwarn]
    rfl
  · rw [comesTo_of_nearest hnearest, hwarn]
    rfl

/-- Taking the primary asks no source. -/
lemma consult_ofPrimary {m : Type → Type} [Monad m] (choice : List Server → m Server)
    (first : Option Server) : (Selection.ofPrimary first).consult choice = pure first := by
  cases first <;> rfl

/-- Without tag sets every server will do. -/
lemma exists_carries_of_effective {s : Server} (h : ∃ t ∈ p.effectiveTagSets, s.Carries t) :
    p.tagSets = [] ∨ ∃ t ∈ p.tagSets, s.Carries t := by
  unfold effectiveTagSets at h
  split at h
  · rename_i hempty
    exact Or.inl (List.isEmpty_iff.mp hempty)
  · exact Or.inr h

/-- **Who may serve a read.** Whoever is offered to a source or comes out of a faithful one is a
reachable server of the snapshot, and the first reachable primary or a secondary. Where the mode
takes the primary, that is the first one, and no source is asked; only the warning about several
primaries can be in the way. Everywhere else the server carries one of the tag sets, if there are
any. -/
theorem choose_is_eligible (hc : c.servers = .ok servers) (hobjects : Server.Coherent servers) :
    (∀ pool, (p.choose c).result = .ok (.draw pool) → ∀ s ∈ pool, s.Eligible servers) ∧
    (∀ {σ : Type} (choice : Source σ), choice.Faithful →
      ∀ run, p.route choice c = .ok run → ∀ st s, (run.run st).1 = .ok (some s) →
        s.Eligible servers ∧
        (¬ p.TakesPrimary servers → p.tagSets = [] ∨ ∃ t ∈ p.tagSets, s.Carries t)) ∧
    (p.TakesPrimary servers →
      (c.CanWarn → ∀ {m : Type → Type} [Monad m] (choice : List Server → m Server),
        p.route choice c = .ok (pure (servers.find? (·.servesAsPrimary)))) ∧
      (¬ c.CanWarn → ∃ f, ∀ {m : Type → Type} [Monad m] (choice : List Server → m Server),
        p.route choice c = .error f)) := by
  refine ⟨?_, ?_, fun htakes => ⟨?_, ?_⟩⟩
  · intro pool hpool s hs
    rw [choose_result hc] at hpool
    exact (comesTo_all hobjects hpool s hs).eligible
  · intro σ choice hchoice run hrun st s hs
    have hserves : p.Serves servers s := serves_of_route hc hobjects hchoice hrun hs
    refine ⟨hserves.eligible, fun htakes => ?_⟩
    exact exists_carries_of_effective (hserves.carries.resolve_left htakes)
  · intro hwarn m _ choice
    unfold route
    rw [choose_result hc, comesTo_of_takesPrimary htakes, takePrimary, hwarn]
    exact congrArg Except.ok (consult_ofPrimary choice _)
  · intro hwarn
    obtain ⟨f, hf⟩ := Cluster.exists_error_of_not_canWarn hwarn
    refine ⟨f, route_eq_error ?_⟩
    rw [choose_result hc, comesTo_of_takesPrimary htakes, takePrimary, hf]
    rfl

/-- During an election: two reachable primaries, of which the first one is used. -/
theorem choose_is_eligible_two_primaries :
    let follower := { Server.sample 1 10 "ny" with ident := some 1 }
    let old := { Server.sample 2 20 "ny" with
      ident := some 2, primary := .bool true, secondary := .bool false }
    let new := { old with ident := some 3, address := (Address.mk "localhost" ⟨3, false⟩).toValue }
    let servers := [follower, old, new]
    let c : Cluster := ⟨none, servers.map .server, ⟨15, false⟩, .default⟩
    c.servers = .ok servers ∧ Server.Coherent servers ∧ c.CanWarn ∧
      ∀ {m : Type → Type} [Monad m] (choice : List Server → m Server),
        Preference.route ⟨.primaryPreferred, []⟩ choice c = .ok (pure (some old)) := by
  intro follower old new servers c
  have hc : c.servers = .ok servers := rfl
  have hobjects : Server.Coherent servers := Server.coherent_of_nodup (by decide)
  have hwarn : c.CanWarn := by
    apply Cluster.canWarn_of_writable hc
    intro s hs _
    rcases List.mem_cons.mp hs with rfl | hs
    · exact ⟨⟨"localhost", ⟨1, false⟩⟩, rfl, Address.isWritable_of_lt (by decide)⟩
    · rcases List.mem_pair.mp hs with rfl | rfl
      · exact ⟨⟨"localhost", ⟨2, false⟩⟩, rfl, Address.isWritable_of_lt (by decide)⟩
      · exact ⟨⟨"localhost", ⟨3, false⟩⟩, rfl, Address.isWritable_of_lt (by decide)⟩
  have htakes : TakesPrimary ⟨.primaryPreferred, []⟩ servers :=
    Or.inr (Or.inl ⟨rfl, old, by simp [servers], rfl⟩)
  exact ⟨hc, hobjects, hwarn, ((choose_is_eligible hc hobjects).2.2 htakes).1 hwarn⟩

end Preference

end ReadRouting
