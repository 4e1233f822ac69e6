import ReadRouting.Proofs.AnyOrder
import ReadRouting.Proofs.Eligible

set_option autoImplicit false
set_option relaxedAutoImplicit false

/-!
# Choosing from rearranged members

In which order the members of a snapshot were discovered decides which of several reachable
primaries is used, and in which order servers are offered to a draw. If there is one reachable
primary at most, it decides nothing else where the primary is taken, and nothing else where the
servers that are left to a draw have a latency window: the same servers are offered, or the same one
is chosen without a draw.

Integer ping times always have a window. What is not a number is neither faster nor slower than
anything; when it comes first, the window begins there, and nobody is within it. The end of a window
that begins at a float is rounded, so that of two equal ping times, an integer and a float, the
first one would decide where it ends.

## Main definitions

* `ReadRouting.Selection.Rearranged` — two selections that differ at most in the order in which they
  offer servers.
* `ReadRouting.Preference.OffersAlike` — a read preference offers the same servers on two snapshots,
  up to order, or chooses the same one without a draw.

## Main results

* `ReadRouting.Server.selectTagged_perm` — a draw among rearranged candidates.
* `ReadRouting.Preference.offersAlike_of_hasWindow` — choosing from rearranged members.
* `ReadRouting.Cluster.updateAll_any_order` — snapshots after the same updates in any order.
-/

namespace ReadRouting

/-- The second selection offers the same servers as the first, in whatever order, or is the same. -/
inductive Selection.Rearranged : Selection → Selection → Prop
  | nobody : Rearranged .nobody .nobody
  | certain (s : Server) : Rearranged (.certain s) (.certain s)
  | draw {pool pool' : List Server} (h : pool.Perm pool') : Rearranged (.draw pool) (.draw pool')

/-- Both checks succeed, with selections that are rearranged. -/
def Selection.BothRearranged (a b : Checked Selection) : Prop :=
  ∃ x y, a = .ok x ∧ b = .ok y ∧ x.Rearranged y

/-! ## Draws among rearranged candidates -/

namespace Server

variable {as bs : List Server}

/-- The same candidates carry the first tag set that any of them carries. -/
lemma firstMatching_perm (h : as.Perm bs) (tagSets : List LabelSet) :
    (firstMatching as tagSets).Perm (firstMatching bs tagSets) := by
  induction tagSets with
  | nil => exact List.Perm.refl []
  | cons t ts ih =>
    have hmatching : (matching t as).Perm (matching t bs) := h.filter _
    rw [firstMatching, firstMatching, hmatching.isEmpty_eq]
    split
    · exact ih
    · exact hmatching

/-- Where a window ends does not depend on the order. -/
lemma WindowEndsAt.perm {window : Int} {bound : Extended} (hw : WindowEndsAt window as bound)
    (h : as.Perm bs) : WindowEndsAt window bs bound where
  isNumber := fun s hs => hw.isNumber s (h.mem_iff.mpr hs)
  ends := fun s hs hfastest =>
    hw.ends s (h.mem_iff.mpr hs) fun t ht => hfastest t (h.mem_iff.mp ht)

/-- The same candidates are within the window. -/
lemma withinWindow_perm (h : as.Perm bs) {window : Int} (hwindow : HasWindow window as)
    (hne : as ≠ []) :
    ∃ pool pool', withinWindow window as = .ok pool ∧ withinWindow window bs = .ok pool' ∧
      pool.Perm pool' := by
  obtain ⟨bound, hends⟩ := hwindow
  have hne' : bs ≠ [] := fun hnil => hne (List.perm_nil.mp (hnil ▸ h))
  exact ⟨_, _, hends.withinWindow_eq hne, (hends.perm h).withinWindow_eq hne', h.filter _⟩

/-- A draw by tag sets among rearranged candidates offers the same servers, if those that the tag
sets leave have a window. -/
theorem selectTagged_perm (h : as.Perm bs) {window : Int} {tagSets : List LabelSet}
    (hwindow : HasWindow window (firstMatching as tagSets)) :
    Selection.BothRearranged (selectTagged window as tagSets) (selectTagged window bs tagSets) := by
  have hfirst := firstMatching_perm h tagSets
  unfold selectTagged selectWithin
  rw [hfirst.isEmpty_eq]
  by_cases hempty : (firstMatching bs tagSets).isEmpty = true
  · rw [if_pos hempty, if_pos hempty]
    exact ⟨.nobody, .nobody, rfl, rfl, .nobody⟩
  · have hne : firstMatching as tagSets ≠ [] := by
      rw [← hfirst.isEmpty_eq] at hempty
      exact fun hnil => hempty (List.isEmpty_iff.mpr hnil)
    obtain ⟨pool, pool', hpool, hpool', hperm⟩ := withinWindow_perm hfirst hwindow hne
    rw [if_neg hempty, if_neg hempty, hpool, hpool']
    exact ⟨.draw pool, .draw pool', rfl, rfl, .draw hperm⟩

/-- If there is one reachable primary at most, it is used whatever the order. -/
lemma firstPrimary?_perm (h : as.Perm bs)
    (hone : (as.filter (·.servesAsPrimary)).length ≤ 1) :
    Cluster.firstPrimary? as = Cluster.firstPrimary? bs := by
  have hprimaries : (as.filter (·.servesAsPrimary)).Perm (bs.filter (·.servesAsPrimary)) :=
    h.filter _
  have heq : as.filter (·.servesAsPrimary) = bs.filter (·.servesAsPrimary) := by
    rcases hlist : as.filter (·.servesAsPrimary) with _ | ⟨s, _ | ⟨t, rest⟩⟩
    · rw [hlist] at hprimaries
      exact hlist.trans (List.nil_perm.mp hprimaries).symm
    · rw [hlist] at hprimaries
      exact hlist.trans (List.singleton_perm.mp hprimaries)
    · rw [hlist, List.length_cons, List.length_cons] at hone
      omega
  rw [Cluster.firstPrimary?, Cluster.firstPrimary?, ← List.head?_filter, ← List.head?_filter, heq]

/-- If the same primary is used, the same servers can serve reads. -/
lemma readableOf_perm (h : as.Perm bs)
    (hfirst : Cluster.firstPrimary? as = Cluster.firstPrimary? bs) :
    (Cluster.readableOf as).Perm (Cluster.readableOf bs) := by
  rcases Cluster.noPrimary_or_first as with hnone | ⟨before, p, after, rfl, hbefore, hp⟩
  · have hnone' : ∀ s ∈ bs, s.servesAsPrimary = false := fun s hs => hnone s (h.mem_iff.mpr hs)
    rw [Cluster.readableOf_of_noPrimary hnone, Cluster.readableOf_of_noPrimary hnone']
    exact h.filter _
  · rw [Cluster.firstPrimary?_append hbefore hp] at hfirst
    obtain ⟨-, before', after', rfl, hbefore'⟩ := List.find?_eq_some_iff_append.mp hfirst.symm
    replace hbefore' : ∀ s ∈ before', s.servesAsPrimary = false :=
      fun s hs => by simpa using hbefore' s hs
    have hrest : (before ++ after).Perm (before' ++ after') :=
      (List.perm_middle.symm.trans (h.trans List.perm_middle)).cons_inv
    have hbeside : (Cluster.readableBeside p before ++ Cluster.readableBeside p after).Perm
        (Cluster.readableBeside p before' ++ Cluster.readableBeside p after') := by
      simp only [Cluster.readableBeside, ← List.filter_append]
      exact hrest.filter _
    rw [Cluster.readableOf_append hbefore hp, Cluster.readableOf_append hbefore' hp]
    exact List.perm_middle.trans ((hbeside.cons p).trans List.perm_middle.symm)

end Server

/-! ## Choosing from rearranged members -/

namespace Preference

variable {p : Preference} {c d : Cluster} {servers servers' : List Server}

/-- The read preference offers the same servers on both snapshots, up to order, or ends with the
same one, or with none, without a draw. -/
def OffersAlike (p : Preference) (c d : Cluster) : Prop :=
  (∃ r : Option Server, ∀ {m : Type → Type} [Monad m] (choice : List Server → m Server),
    p.route choice c = .ok (pure r) ∧ p.route choice d = .ok (pure r)) ∨
  (∃ pool pool' : List Server, pool.Perm pool' ∧
    ∀ {m : Type → Type} [Monad m] (choice : List Server → m Server),
      p.route choice c = .ok (some <$> choice pool) ∧
      p.route choice d = .ok (some <$> choice pool'))

/-- Selections that are rearranged offer the same servers. -/
lemma offersAlike_of_rearranged
    (h : Selection.BothRearranged (p.choose c).result (p.choose d).result) : p.OffersAlike c d := by
  obtain ⟨x, y, hx, hy, hxy⟩ := h
  unfold OffersAlike route
  rw [hx, hy]
  cases hxy with
  | nobody => exact Or.inl ⟨none, fun choice => ⟨rfl, rfl⟩⟩
  | certain s => exact Or.inl ⟨some s, fun choice => ⟨rfl, rfl⟩⟩
  | draw hperm => exact Or.inr ⟨_, _, hperm, fun choice => ⟨rfl, rfl⟩⟩

/-- Whether the primary is taken does not depend on the order. -/
lemma TakesPrimary.perm (htakes : p.TakesPrimary servers) (h : servers.Perm servers') :
    p.TakesPrimary servers' := by
  simpa only [TakesPrimary, h.mem_iff] using htakes

section Members

variable (hc : c.servers = .ok servers) (hd : d.servers = .ok servers')
  (hlatency : c.latency = d.latency) (h : servers.Perm servers')
  (hone : (servers.filter (·.servesAsPrimary)).length ≤ 1)

include hc hd h hone

/-- The primary is taken whatever the order. -/
lemma bothRearranged_takePrimary :
    Selection.BothRearranged (takePrimary c servers) (takePrimary d servers') := by
  have hone' : (servers'.filter (·.servesAsPrimary)).length ≤ 1 := (h.filter _).length_eq ▸ hone
  refine ⟨_, _, takePrimary_eq (Cluster.canWarn_of_one_primary hc hone),
    takePrimary_eq (Cluster.canWarn_of_one_primary hd hone'), ?_⟩
  rw [← Server.firstPrimary?_perm h hone]
  cases Cluster.firstPrimary? servers with
  | none => exact .nobody
  | some s => exact .certain s

include hlatency

/-- **Choosing from rearranged members.** On snapshots with the same window and the same members in
whatever order, of which one is a reachable primary at most, a read preference offers the same
servers. Where it does not take the primary, the servers that its tag sets leave must have a latency
window that does not depend on their order. -/
theorem offersAlike_of_hasWindow
    (hwindow : ¬ p.TakesPrimary servers → Server.HasWindow c.latency.value
      (Server.firstMatching (p.mode.candidates servers) p.effectiveTagSets)) :
    p.OffersAlike c d := by
  apply offersAlike_of_rearranged
  rw [choose_result hc, choose_result hd]
  by_cases htakes : p.TakesPrimary servers
  · rw [comesTo_of_takesPrimary htakes, comesTo_of_takesPrimary (htakes.perm h)]
    exact bothRearranged_takePrimary hc hd h hone
  replace hwindow := hwindow htakes
  by_cases hmode : p.mode = .nearest
  · have hone' : (servers'.filter (·.servesAsPrimary)).length ≤ 1 := (h.filter _).length_eq ▸ hone
    have hwarn : c.CanWarn := Cluster.canWarn_of_one_primary hc hone
    have hwarn' : d.CanWarn := Cluster.canWarn_of_one_primary hd hone'
    have hreadable : (Cluster.readableOf servers).Perm (Cluster.readableOf servers') :=
      Server.readableOf_perm h (Server.firstPrimary?_perm h hone)
    rw [hmode] at hwindow
    rw [comesTo_of_nearest_of_canWarn hmode hwarn, comesTo_of_nearest_of_canWarn hmode hwarn',
      drawReadable, drawReadable, ← hlatency]
    exact Server.selectTagged_perm hreadable hwindow
  · have htakes' : ¬ p.TakesPrimary servers' := fun htakes' => htakes (htakes'.perm h.symm)
    rw [Mode.candidates_eq_secondaries hmode] at hwindow
    rw [comesTo_of_not_takesPrimary hc htakes hmode, comesTo_of_not_takesPrimary hd htakes' hmode,
      drawSecondary, drawSecondary, ← hlatency]
    exact Server.selectTagged_perm (h.filter _) hwindow

end Members

end Preference

/-! ## Snapshots after the same updates in any order -/

/-- A reachable secondary with a given ping time. -/
def Located.seenSecondary (port : Int) (ping : Value) : Located :=
  { unreached ⟨"localhost", ⟨port, false⟩⟩ with
    server := { (unreached ⟨"localhost", ⟨port, false⟩⟩).server with
      reachable := .bool true
      secondary := .bool true
      ping := ping }
    checked := rfl }

namespace Cluster

open Located

variable {c : Cluster} {servers : List Server} {us vs : List Located}

/-- **Independent monitors may publish in any order.** Two runs that hold the same updates of each
server, in the same order for each, succeed both on any snapshot of servers. They leave snapshots
that find the same at whatever address they are asked for, and have the same members up to order;
in the same order if no update discovers a server. If one of the members is a reachable primary at
most, a read preference offers the same servers on both, up to order, or ends with the same one, or
with none, without a draw. Where it does not take the primary, the members that its tag sets leave
must have a latency window that does not depend on their order, as members with integers for ping
times do. -/
theorem updateAll_any_order (hc : c.servers = .ok servers) (h : SameStreams us vs) :
    ∃ (first second : Cluster) (members : List Server),
      c.updateAll (us.map Located.member) = .ok first ∧
      c.updateAll (vs.map Located.member) = .ok second ∧
      first.servers = .ok members ∧
      (∀ q, first.find? q = second.find? q) ∧
      first.members.Perm second.members ∧
      ((∀ u ∈ us, c.hasServer u.address.toValue = .ok true) → first.members = second.members) ∧
      ((members.filter (·.servesAsPrimary)).length ≤ 1 →
        ∀ p : Preference,
          (¬ p.TakesPrimary members → Server.HasWindow first.latency.value
            (Server.firstMatching (p.mode.candidates members) p.effectiveTagSets)) →
          p.OffersAlike first second) := by
  obtain ⟨first, second, kept, added, added', hfirst, hsecond, hmembers, hmembers', hlatency, hperm,
    hnodup, hadded⟩ := updateAll_of_sameStreams hc h
  have hservers : (kept ++ added.map (·.server)).Perm (kept ++ added'.map (·.server)) :=
    (hperm.map _).append_left kept
  refine ⟨first, second, kept ++ added.map (·.server), hfirst, hsecond, hmembers,
    find?_eq_of_perm hmembers hmembers' hperm hnodup, ?_, fun hknown => ?_,
    fun hone p hwindow => ?_⟩
  · rw [servers_eq_ok_iff.mp hmembers, servers_eq_ok_iff.mp hmembers']
    exact hservers.map _
  · have hnone : added = [] := by
      rw [List.eq_nil_iff_forall_not_mem]
      intro d hd
      obtain ⟨hmem, hplaces⟩ := hadded d hd
      obtain ⟨s, hs, hplace⟩ := (hasServer_eq_true_iff hc d.address).mp (hknown d hmem)
      exact hplaces s hs hplace
    have hnone' : added' = [] := List.nil_perm.mp (hnone ▸ hperm)
    rw [servers_eq_ok_iff.mp hmembers, servers_eq_ok_iff.mp hmembers', hnone, hnone']
  · exact Preference.offersAlike_of_hasWindow hmembers hmembers' hlatency hservers hone hwindow

/-- One server is known, and answers; two are discovered, in one order or the other. -/
theorem updateAll_any_order_two_discovered :
    let known := seenSecondary 1 (.ofInt 7)
    let a := seenSecondary 2 (.ofInt 5)
    let b := seenSecondary 3 (.ofInt 6)
    let c : Cluster := ⟨none, [(Located.unreached known.address).member], ⟨15, false⟩, .default⟩
    SameStreams [known, a, b] [known, b, a] ∧
      ∃ first second : Cluster,
        c.updateAll [known.member, a.member, b.member] = .ok first ∧
        c.updateAll [known.member, b.member, a.member] = .ok second ∧
        first.members = [known.member, a.member, b.member] ∧
        first.members.Perm second.members ∧
        (∀ q, first.find? q = second.find? q) ∧
        ∀ p : Preference, p.OffersAlike first second := by
  intro known a b c
  have hstreams : SameStreams [known, a, b] [known, b, a] :=
    (SameStreams.swap (by decide) []).cons known
  have hc : c.servers = .ok [(Located.unreached known.address).server] := rfl
  obtain ⟨first, second, members, hfirst, hsecond, hmembers, hfind, hperm, -, hoffers⟩ :=
    updateAll_any_order hc hstreams
  have hknown : first.members = [known.member, a.member, b.member] := by
    cases hfirst
    rfl
  have hservers : members = [known.server, a.server, b.server] := by
    have hservers' : first.servers = .ok [known.server, a.server, b.server] :=
      servers_eq_ok_iff.mpr hknown
    rw [hmembers] at hservers'
    exact Except.ok.inj hservers'
  refine ⟨hstreams, first, second, hfirst, hsecond, hknown, hperm, hfind, fun p => ?_⟩
  have hpings : ∀ s ∈ members, s.HasIntegerPing := by
    rw [hservers]
    decide
  refine hoffers ?_ p fun _ => ?_
  · rw [hservers]
    decide
  · refine Server.hasWindow_of_integers (fun s hs => ?_) _
    exact hpings s (Mode.mem_of_mem_candidates (Server.mem_firstMatching hs).1)

/-- Of two servers that are discovered, one has a ping time that is not a number: whoever reads from
a secondary is offered nobody if it comes first, and the other server if it comes second. -/
theorem updateAll_any_order_not_a_number :
    let odd := seenSecondary 1 (.ofFloat (Float.ofBits 0x7ff8000000000000))
    let usual := seenSecondary 2 (.ofInt 5)
    let c : Cluster := ⟨none, [], ⟨15, false⟩, .default⟩
    SameStreams [odd, usual] [usual, odd] ∧
      ∃ first second : Cluster,
        c.updateAll [odd.member, usual.member] = .ok first ∧
        c.updateAll [usual.member, odd.member] = .ok second ∧
        first.servers = .ok [odd.server, usual.server] ∧
        ([odd.server, usual.server].filter (·.servesAsPrimary)).length ≤ 1 ∧
        ¬ (Preference.mk .secondary []).OffersAlike first second := by
  have hodd : Server.withinWindow 15
      [(seenSecondary 1 (.ofFloat (Float.ofBits 0x7ff8000000000000))).server,
        (seenSecondary 2 (.ofInt 5)).server] = .ok [] := by rfl
  have husual : Server.withinWindow 15
      [(seenSecondary 2 (.ofInt 5)).server,
        (seenSecondary 1 (.ofFloat (Float.ofBits 0x7ff8000000000000))).server] =
          .ok [(seenSecondary 2 (.ofInt 5)).server] := by rfl
  intro odd usual c
  let first : Cluster := ⟨none, [odd.member, usual.member], ⟨15, false⟩, .default⟩
  let second : Cluster := ⟨none, [usual.member, odd.member], ⟨15, false⟩, .default⟩
  refine ⟨SameStreams.swap (by decide) [], first, second, ?_, ?_, rfl, by decide, ?_⟩
  · rfl
  · rfl
  · have hservers : first.servers = .ok [odd.server, usual.server] := rfl
    have hservers' : second.servers = .ok [usual.server, odd.server] := rfl
    have hfirst : ((Preference.mk .secondary []).choose first).result = .ok (.draw []) := by
      rw [Preference.choose_result hservers]
      change (Server.withinWindow 15 [odd.server, usual.server] >>= fun pool =>
        Except.ok (Selection.draw pool)) = _
      rw [hodd]
      rfl
    have hsecond : ((Preference.mk .secondary []).choose second).result =
        .ok (.draw [usual.server]) := by
      rw [Preference.choose_result hservers']
      change (Server.withinWindow 15 [usual.server, odd.server] >>= fun pool =>
        Except.ok (Selection.draw pool)) = _
      rw [husual]
      rfl
    -- a source that answers with the pool that it is offered, as a fault
    let choice : List Server → Except (List Server) Server := fun pool => .error pool
    have hroute := Preference.route_eq_of_draw hfirst choice
    have hroute' := Preference.route_eq_of_draw hsecond choice
    rintro (⟨r, h⟩ | ⟨pool, pool', hperm, h⟩)
    · obtain ⟨h, -⟩ := h choice
      rw [hroute] at h
      cases Except.ok.inj h
    · obtain ⟨h, h'⟩ := h choice
      rw [hroute] at h
      rw [hroute'] at h'
      cases Except.error.inj (Except.ok.inj h)
      cases Except.error.inj (Except.ok.inj h')
      exact absurd hperm.length_eq (by decide)

end Cluster

end ReadRouting
