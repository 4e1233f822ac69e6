import ReadRouting.Proofs.Rearranged

set_option autoImplicit false
set_option relaxedAutoImplicit false

/-!
# The order of discovery

Members are listed in the order in which they were discovered, which says nothing about them. If
one of them is a reachable primary at most, the order decides in which order servers are offered to
a draw, and nothing else; in particular not who may serve a read in the end.

It does decide more where the latency window depends on it, which takes a ping time that is no
integer: see `ReadRouting.Server.HasWindow`.

## Main definitions

* `ReadRouting.Preference.MayReturn` — what choosing may end with, whatever the source.

## Main results

* `ReadRouting.Preference.mayReturn_iff_of_draw` — a draw may end with whoever is offered.
* `ReadRouting.Preference.choose_ignores_order` — the order of discovery does not decide who may
  serve a read.
-/

namespace ReadRouting

namespace Preference

variable {p : Preference} {c d : Cluster} {servers servers' : List Server}

/-- Choosing may end with a result: it does with some source that answers with servers that it is
offered, in some state. -/
def MayReturn (p : Preference) (c : Cluster) (r : Option Server) : Prop :=
  ∃ (σ : Type) (choice : Source σ) (st : σ), choice.Faithful ∧
    ∃ run, p.route choice c = .ok run ∧ (run.run st).1 = .ok r

/-- Without a draw, choosing ends with the one result. -/
lemma mayReturn_iff_of_certain {r r' : Option Server}
    (h : ∀ {m : Type → Type} [Monad m] (choice : List Server → m Server),
      p.route choice c = .ok (pure r)) : p.MayReturn c r' ↔ r' = r := by
  constructor
  · rintro ⟨σ, choice, st, -, run, hrun, hr⟩
    rw [h choice] at hrun
    cases hrun
    exact (Except.ok.inj hr).symm
  · rintro rfl
    exact ⟨Unit, .byPosition 0, (), Source.faithful_byPosition 0, _, h _, rfl⟩

/-- A draw may end with whoever is offered, and with nobody else. -/
theorem mayReturn_iff_of_draw {pool : List Server} {r : Option Server}
    (h : ∀ {m : Type → Type} [Monad m] (choice : List Server → m Server),
      p.route choice c = .ok (some <$> choice pool)) :
    p.MayReturn c r ↔ ∃ s ∈ pool, r = some s := by
  constructor
  · rintro ⟨σ, choice, st, hchoice, run, hrun, hr⟩
    rw [h choice] at hrun
    cases hrun
    obtain ⟨s, hs, hrs⟩ := Selection.consult_draw_eq_ok_iff.mp hr
    exact ⟨s, hchoice pool st s hs, hrs⟩
  · rintro ⟨s, hs, rfl⟩
    obtain ⟨i, hi, rfl⟩ := List.getElem_of_mem hs
    have hrun := Source.run_byPosition (List.getElem?_eq_getElem hi)
    exact ⟨Unit, .byPosition i, (), Source.faithful_byPosition i, _, h _,
      Selection.consult_draw_eq_ok_iff.mpr ⟨pool[i], hrun, rfl⟩⟩

/-- Where a read preference offers the same servers, choosing may end with the same. -/
lemma OffersAlike.mayReturn_iff (h : p.OffersAlike c d) (r : Option Server) :
    p.MayReturn c r ↔ p.MayReturn d r := by
  rcases h with ⟨r', h⟩ | ⟨pool, pool', hperm, h⟩
  · rw [mayReturn_iff_of_certain fun choice => (h choice).1,
      mayReturn_iff_of_certain fun choice => (h choice).2]
  · rw [mayReturn_iff_of_draw fun choice => (h choice).1,
      mayReturn_iff_of_draw fun choice => (h choice).2]
    simp only [hperm.mem_iff]

/-- **The order of discovery does not decide who may serve a read.** On snapshots with the same
window and the same members in whatever order, of which one is a reachable primary at most, a read
preference either asks no source and ends alike, or asks it once and offers it the same servers up
to order. So choosing may end with the same servers. If the mode does not take the primary, this
needs that the servers that its tag sets leave have a latency window: numbers for ping times, and
one end of the window whichever of the fastest it begins at. Integer ping times always have that. -/
theorem choose_ignores_order (hc : c.servers = .ok servers) (hd : d.servers = .ok servers')
    (hlatency : c.latency = d.latency) (h : servers.Perm servers')
    (hone : (servers.filter (·.servesAsPrimary)).length ≤ 1)
    (hwindow : ¬ p.TakesPrimary servers → Server.HasWindow c.latency.value
      (Server.firstMatching (p.mode.candidates servers) p.effectiveTagSets)) :
    p.OffersAlike c d ∧ ∀ r, p.MayReturn c r ↔ p.MayReturn d r := by
  have hoffers : p.OffersAlike c d := offersAlike_of_hasWindow hc hd hlatency h hone hwindow
  exact ⟨hoffers, hoffers.mayReturn_iff⟩

/-- A primary with a float for its ping time, and two secondaries with integers, of which one is too
far away: whatever the order, the mode that takes the nearest may choose the two others. -/
theorem choose_ignores_order_three_servers :
    let primary := { Server.sample 1 10 "ny" with
      ident := some 1, ping := .ofFloat (Float.ofBits 0x416312D000000000)
      primary := .bool true, secondary := .bool false }
    let near := { Server.sample 2 20 "ny" with ident := some 2 }
    let far := { Server.sample 3 30 "ny" with ident := some 3 }
    let c : Cluster := ⟨none, [.server primary, .server near, .server far], ⟨15, false⟩, .default⟩
    let d : Cluster := ⟨none, [.server far, .server near, .server primary], ⟨15, false⟩, .default⟩
    [primary, near, far].Perm [far, near, primary] ∧
      Preference.OffersAlike ⟨.nearest, []⟩ c d ∧
      ∀ r, Preference.MayReturn ⟨.nearest, []⟩ c r ↔ Preference.MayReturn ⟨.nearest, []⟩ d r := by
  intro primary near far c d
  have hperm : [primary, near, far].Perm [far, near, primary] := (List.reverse_perm _).symm
  have hwindow : Server.WindowEndsAt 15 (Server.firstMatching
      (Mode.nearest.candidates [primary, near, far]) [LabelSet.empty])
      (.finite (25000000 : Int)) := by decide
  exact ⟨hperm, choose_ignores_order (c := c) (d := d) rfl rfl rfl hperm (by decide)
    fun _ => ⟨_, hwindow⟩⟩

/-- A primary whose ping time is not a number, and a secondary: if the primary comes first, the mode
that takes the nearest asks a source to choose from nobody; if it comes second, the secondary is
offered. -/
theorem choose_ignores_order_not_a_number :
    let odd := { Server.sample 1 0 "ny" with
      ident := some 1, ping := .ofFloat (Float.ofBits 0x7ff8000000000000)
      primary := .bool true, secondary := .bool false }
    let usual := { Server.sample 2 5 "ny" with ident := some 2 }
    let c : Cluster := ⟨none, [.server odd, .server usual], ⟨15, false⟩, .default⟩
    let d : Cluster := ⟨none, [.server usual, .server odd], ⟨15, false⟩, .default⟩
    let p : Preference := ⟨.nearest, []⟩
    c.servers = .ok [odd, usual] ∧ d.servers = .ok [usual, odd] ∧ c.latency = d.latency ∧
      [odd, usual].Perm [usual, odd] ∧
      ([odd, usual].filter (·.servesAsPrimary)).length ≤ 1 ∧
      ¬ p.OffersAlike c d ∧
      ¬ p.MayReturn c (some usual) ∧ p.MayReturn d (some usual) := by
  intro odd usual c d p
  have hodd : Server.withinWindow 15 [odd, usual] = .ok [] := by rfl
  have husual : Server.withinWindow 15 [usual, odd] = .ok [usual] := by rfl
  have hc : c.servers = .ok [odd, usual] := rfl
  have hd : d.servers = .ok [usual, odd] := rfl
  have hfirst : (p.choose c).result = .ok (.draw []) := by
    rw [choose_result_of_draws hc (Or.inr rfl)
      fun _ => Cluster.canWarn_of_one_primary hc (by decide)]
    change (Server.withinWindow 15 [odd, usual] >>= fun pool => Except.ok (Selection.draw pool)) = _
    rw [hodd]
    rfl
  have hsecond : (p.choose d).result = .ok (.draw [usual]) := by
    rw [choose_result_of_draws hd (Or.inr rfl)
      fun _ => Cluster.canWarn_of_one_primary hd (by decide)]
    change (Server.withinWindow 15 [usual, odd] >>= fun pool => Except.ok (Selection.draw pool)) = _
    rw [husual]
    rfl
  have hmay : p.MayReturn d (some usual) :=
    (mayReturn_iff_of_draw fun choice => route_eq_of_draw hsecond choice).mpr
      ⟨usual, List.mem_singleton_self usual, rfl⟩
  have hmay' : ¬ p.MayReturn c (some usual) := by
    rw [mayReturn_iff_of_draw fun choice => route_eq_of_draw hfirst choice]
    rintro ⟨s, hs, -⟩
    cases hs
  refine ⟨hc, hd, rfl, List.Perm.swap _ _ _, by decide, ?_, hmay', hmay⟩
  exact fun h => hmay' ((h.mayReturn_iff _).mpr hmay)

end Preference

end ReadRouting
