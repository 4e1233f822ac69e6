import Mathlib.Data.List.TakeWhile
import ReadRouting.Proofs.Offer

set_option autoImplicit false
set_option relaxedAutoImplicit false

/-!
# Pools of the latency window

The servers that the latency window keeps are the pool that is offered to a draw. For integer ping
times a server is in the pool if it is behind no candidate by more than the window allows; to say
so, no smallest ping time is needed. The laws of the pool follow from that: what a wider window
does, what a common delay does, and what one more candidate does.

## Main definitions

* `ReadRouting.Server.KeepsUp` — a server is behind nobody by more than the window.
* `ReadRouting.Server.pool` — the candidates that keep up with all of them.
* `ReadRouting.Cluster.Offers` — what a snapshot offers to a draw.

## Main results

* `ReadRouting.Server.withinWindow_eq_pool` — the window keeps the pool.
* `ReadRouting.Cluster.offers_pool` — the pool is what is offered.
* `ReadRouting.Cluster.offers_laws` — the laws of the pool.
-/

namespace ReadRouting

namespace Server

variable {window wider k : Int} {servers delayed before after : List Server} {s t u : Server}

/-- The server is behind none of several ones by more than so many milliseconds. -/
def KeepsUp (window : Int) (servers : List Server) (s : Server) : Prop :=
  ∀ t ∈ servers, s.nanos ≤ t.nanos + window * 1000000

instance (window : Int) (servers : List Server) (s : Server) :
    Decidable (s.KeepsUp window servers) :=
  inferInstanceAs (Decidable (∀ t ∈ servers, s.nanos ≤ t.nanos + window * 1000000))

/-- The candidates that keep up with all of them, in order. -/
def pool (window : Int) (servers : List Server) : List Server :=
  servers.filter fun s => s.KeepsUp window servers

/-- The server is as fast as any of several ones. -/
def IsFastest (servers : List Server) (s : Server) : Prop := ∀ t ∈ servers, s.nanos ≤ t.nanos

instance (servers : List Server) (s : Server) : Decidable (s.IsFastest servers) :=
  inferInstanceAs (Decidable (∀ t ∈ servers, s.nanos ≤ t.nanos))

/-! ## The pool is what the window keeps -/

/-- To keep up with all servers is to keep up with the fastest. -/
lemma keepsUp_iff {n : Int} (hn : IsLeast {k | ∃ t ∈ servers, t.nanos = k} n) :
    s.KeepsUp window servers ↔ s.nanos ≤ n + window * 1000000 := by
  obtain ⟨⟨t, ht, rfl⟩, hleast⟩ := hn
  constructor
  · exact fun h => h t ht
  · intro h u hu
    have htu : t.nanos ≤ u.nanos := hleast ⟨u, hu, rfl⟩
    omega

/-- The window keeps the servers of the pool. -/
theorem withinWindow_eq_pool (h : ∀ s ∈ servers, s.HasIntegerPing) (hne : servers ≠ [])
    (window : Int) : withinWindow window servers = .ok (pool window servers) := by
  obtain ⟨n, hn, hkept⟩ := withinWindow_eq h hne window
  rw [hkept, pool]
  congr 1
  apply List.filter_congr
  intro s _
  rw [Bool.eq_iff_iff, decide_eq_true_iff, decide_eq_true_iff, keepsUp_iff hn]

/-! ## Laws of the pool -/

/-- The pool is some of the candidates, in order. -/
lemma pool_sublist (window : Int) (servers : List Server) :
    (pool window servers).Sublist servers := List.filter_sublist

/-- Whoever is as fast as any is in the pool. -/
lemma fastest_sublist_pool (hwindow : 0 ≤ window) (servers : List Server) :
    (servers.filter fun s => s.IsFastest servers).Sublist (pool window servers) := by
  apply List.monotone_filter_right
  intro s hs
  rw [decide_eq_true_iff] at hs ⊢
  intro t ht
  have := hs t ht
  omega

/-- The pool of some candidates is not empty: one of them is as fast as any. -/
lemma pool_ne_nil (hwindow : 0 ≤ window) (h : ∀ s ∈ servers, s.HasIntegerPing)
    (hne : servers ≠ []) : pool window servers ≠ [] := by
  obtain ⟨n, hn, -⟩ := withinWindow_eq h hne window
  obtain ⟨s, hs, hsn⟩ := hn.1
  apply List.ne_nil_of_mem (a := s)
  rw [pool, List.mem_filter, decide_eq_true_iff, keepsUp_iff hn]
  exact ⟨hs, by omega⟩

/-- A wider window keeps at least as many. -/
lemma pool_sublist_of_le (h : window ≤ wider) (servers : List Server) :
    (pool window servers).Sublist (pool wider servers) := by
  apply List.monotone_filter_right
  intro s hs
  rw [decide_eq_true_iff] at hs ⊢
  intro t ht
  have := hs t ht
  omega

/-- A window of no width keeps those that are as fast as any. -/
lemma pool_zero (servers : List Server) :
    pool 0 servers = servers.filter fun s => s.IsFastest servers := by
  apply List.filter_congr
  intro s _
  rw [decide_eq_decide]
  simp only [KeepsUp, IsFastest, Int.zero_mul, Int.add_zero]

/-- Of the pool, everyone keeps up with the pool. -/
lemma pool_pool (window : Int) (servers : List Server) :
    pool window (pool window servers) = pool window servers := by
  apply List.filter_eq_self.mpr
  intro s hs
  rw [decide_eq_true_iff]
  intro t ht
  exact of_decide_eq_true (List.mem_filter.mp hs).2 t ((pool_sublist window servers).subset ht)

/-- A delay that is common to all leaves the same places in the pool. -/
lemma exists_pool_delayed
    (h : List.Forall₂ (fun s t => t.nanos = s.nanos + k) servers delayed) (window : Int) :
    ∃ kept : List (Server × Server), kept.Sublist (servers.zip delayed) ∧
      pool window servers = kept.map Prod.fst ∧ pool window delayed = kept.map Prod.snd := by
  obtain ⟨hlength, hdelay⟩ := List.forall₂_iff_zip.mp h
  have hfst : (servers.zip delayed).map Prod.fst = servers := List.map_fst_zip hlength.le
  have hsnd : (servers.zip delayed).map Prod.snd = delayed := List.map_snd_zip hlength.ge
  generalize servers.zip delayed = pairs at hdelay hfst hsnd
  subst hfst hsnd
  refine ⟨pairs.filter fun p => p.1.KeepsUp window (pairs.map Prod.fst), List.filter_sublist,
    List.filter_map, ?_⟩
  rw [pool, List.filter_map]
  congr 1
  apply List.filter_congr
  rintro ⟨s, t⟩ hst
  have hs := hdelay hst
  simp only [Function.comp_apply, decide_eq_decide, KeepsUp, List.forall_mem_map]
  -- The delay is on both sides of what it means to keep up.
  refine forall₂_congr fun q hq => ?_
  have hq := hdelay hq
  omega

/-- One more candidate who is not faster than all the others changes nothing for them. -/
lemma exists_pool_insert (h : ∃ t ∈ before ++ after, t.nanos ≤ u.nanos) (window : Int) :
    ∃ left right, left.Sublist before ∧ right.Sublist after ∧
      pool window (before ++ after) = left ++ right ∧
      (pool window (before ++ u :: after) = left ++ right ∨
        pool window (before ++ u :: after) = left ++ u :: right) := by
  have hkeeps : ∀ s : Server,
      s.KeepsUp window (before ++ u :: after) ↔ s.KeepsUp window (before ++ after) := by
    intro s
    obtain ⟨t, ht, htu⟩ := h
    constructor
    · intro hs v hv
      apply hs v
      rw [List.mem_append, List.mem_cons]
      rcases List.mem_append.mp hv with hv | hv
      · exact Or.inl hv
      · exact Or.inr (Or.inr hv)
    · intro hs v hv
      rcases List.mem_append.mp hv with hv | hv
      · exact hs v (List.mem_append_left after hv)
      · rcases List.mem_cons.mp hv with rfl | hv
        · have := hs t ht
          omega
        · exact hs v (List.mem_append_right before hv)
  refine ⟨before.filter fun s => s.KeepsUp window (before ++ after),
    after.filter fun s => s.KeepsUp window (before ++ after), List.filter_sublist,
    List.filter_sublist, List.filter_append .., ?_⟩
  simp only [pool, hkeeps, List.filter_append, List.filter_cons]
  by_cases hu : u.KeepsUp window (before ++ after)
  · exact Or.inr (by rw [if_pos (decide_eq_true hu)])
  · exact Or.inl (by rw [if_neg (by simpa using hu)])

end Server

namespace Cluster

variable {c : Cluster} {candidates : List Server}

/-- The snapshot offers a draw exactly these servers, whatever list has the candidates as items. -/
def Offers (c : Cluster) (candidates offered : List Server) : Prop :=
  ∀ ident, c.selectByLatency (.list ident (candidates.map .server)) = .ok (.draw offered)

/-- What is offered is the pool of the candidates. -/
theorem offers_pool (c : Cluster) (hne : candidates ≠ [])
    (h : ∀ s ∈ candidates, s.HasIntegerPing) :
    c.Offers candidates (Server.pool c.latency.value candidates) := by
  intro ident
  obtain ⟨s, -, hscan, -⟩ :=
    Server.exists_fastest (fun s hs => by rw [(h s hs).exactPing?_eq]; rfl) hne
  have htrue : Value.isTrue (.list ident (candidates.map .server)) = true := by
    cases candidates with
    | nil => exact absurd rfl hne
    | cons t ts => rfl
  have hknown : ∀ isServer : Value → Bool, (∀ t, isServer (.server t) = true) →
      (candidates.map Value.server).takeWhile isServer = candidates.map .server := by
    intro isServer hserver
    rw [List.takeWhile_eq_self_iff, List.forall_mem_map]
    exact fun t _ => hserver t
  have hservers : (candidates.map Value.server).filterMap (fun v => v.asServer.toOption) =
      candidates := by
    rw [List.filterMap_map]
    exact List.filterMap_some
  have hmembers : (candidates.map Value.server).mapM Value.asServer = .ok candidates :=
    (mapM_asServer_eq_ok_iff _ _).mpr rfl
  unfold selectByLatency Server.selectWithin
  simp only [htrue, Value.items, Value.items?, bind, Except.bind, hmembers]
  rw [hknown _ fun _ => rfl, hservers, hscan, List.isEmpty_eq_false_iff.mpr hne,
    Server.withinWindow_eq_pool h hne]
  rfl

/-- **Laws of the latency window.** Of candidates with integer ping times, at least one is offered
to a draw, and those that are offered keep their order; the fastest are all among them, and nobody
else if the window has no width. A snapshot with a wider window offers at least as many. If all ping
times differ from those of other candidates by the same integer, the same places are offered. What
is offered is offered again when it is the list of candidates. And another candidate who is not
faster than all of them, wherever it comes in, changes for none of the others whether they are
offered.

**Proof sketch.** What is offered are the candidates that keep up with all of them, so each law is
one of these. A common delay is on both sides of what it means to keep up, and to keep up with
someone who is not the fastest is implied by keeping up with the fastest. -/
theorem offers_laws (c : Cluster) (hlatency : 0 ≤ c.latency.value) (hne : candidates ≠ [])
    (h : ∀ s ∈ candidates, s.HasIntegerPing) :
    ∃ pool, c.Offers candidates pool ∧
      (pool ≠ [] ∧ pool.Sublist candidates ∧
        (candidates.filter fun s => s.IsFastest candidates).Sublist pool) ∧
      (∀ d : Cluster, c.latency.value ≤ d.latency.value →
        ∃ wider, d.Offers candidates wider ∧ pool.Sublist wider) ∧
      (c.latency.value = 0 → pool = candidates.filter fun s => s.IsFastest candidates) ∧
      (∀ (k : Int) (delayed : List Server),
        List.Forall₂ (fun s t => t.HasIntegerPing ∧ t.nanos = s.nanos + k) candidates delayed →
        ∃ (pool' : List Server) (kept : List (Server × Server)), c.Offers delayed pool' ∧
          kept.Sublist (candidates.zip delayed) ∧
          pool = kept.map Prod.fst ∧ pool' = kept.map Prod.snd) ∧
      c.Offers pool pool ∧
      (∀ before after u, candidates = before ++ after → u.HasIntegerPing →
        (∃ t ∈ candidates, t.nanos ≤ u.nanos) →
        ∃ pool' left right, c.Offers (before ++ u :: after) pool' ∧
          left.Sublist before ∧ right.Sublist after ∧ pool = left ++ right ∧
          (pool' = left ++ right ∨ pool' = left ++ u :: right)) := by
  have hsublist := Server.pool_sublist c.latency.value candidates
  have hpool : Server.pool c.latency.value candidates ≠ [] := Server.pool_ne_nil hlatency h hne
  refine ⟨_, c.offers_pool hne h,
    ⟨hpool, hsublist, Server.fastest_sublist_pool hlatency candidates⟩, ?_, ?_, ?_, ?_, ?_⟩
  · intro d hwider
    exact ⟨_, d.offers_pool hne h, Server.pool_sublist_of_le hwider candidates⟩
  · intro hzero
    rw [hzero, Server.pool_zero]
  · intro k delayed hdelayed
    obtain ⟨hlength, hpairs⟩ := List.forall₂_iff_zip.mp hdelayed
    have hpings : ∀ t ∈ delayed, t.HasIntegerPing := by
      intro t ht
      rw [← List.map_snd_zip hlength.ge] at ht
      obtain ⟨⟨s, t⟩, hst, rfl⟩ := List.mem_map.mp ht
      exact (hpairs hst).1
    have hne' : delayed ≠ [] := by
      rintro rfl
      exact hne (List.eq_nil_of_length_eq_zero hlength)
    obtain ⟨kept, hkept, hfst, hsnd⟩ :=
      Server.exists_pool_delayed (hdelayed.imp fun _ _ hst => hst.2) c.latency.value
    exact ⟨_, kept, c.offers_pool hne' hpings, hkept, hfst, hsnd⟩
  · have hagain := c.offers_pool hpool fun s hs => h s (hsublist.subset hs)
    rwa [Server.pool_pool] at hagain
  · rintro before after u rfl hu hslower
    obtain ⟨left, right, hleft, hright, hwithout, hwith⟩ :=
      Server.exists_pool_insert hslower c.latency.value
    refine ⟨_, left, right, c.offers_pool (by simp) ?_, hleft, hright, hwithout, hwith⟩
    intro s hs
    rcases List.mem_append.mp hs with hs | hs
    · exact h s (List.mem_append_left after hs)
    · rcases List.mem_cons.mp hs with rfl | hs
      · exact hu
      · exact h s (List.mem_append_right before hs)

/-- The slowest of three is beyond the window, and stays so when a fourth comes in. -/
theorem offers_laws_three :
    let far := Server.sample 1 40 "ny"
    let near := Server.sample 2 10 "ny"
    let edge := Server.sample 3 25 "sf"
    let late := Server.sample 4 26 "sf"
    let c : Cluster := ⟨none, [], ⟨15, false⟩, .default⟩
    0 ≤ c.latency.value ∧ [far, near, edge] ≠ [] ∧
      (∀ s ∈ [far, near, edge], s.HasIntegerPing) ∧ late.HasIntegerPing ∧
      ∃ pool, c.Offers [far, near, edge] pool ∧ c.Offers pool pool ∧
        ∃ pool' left right, c.Offers ([far, near] ++ late :: [edge]) pool' ∧
          left.Sublist [far, near] ∧ right.Sublist [edge] ∧ pool = left ++ right ∧
          (pool' = left ++ right ∨ pool' = left ++ late :: right) := by
  intro far near edge late c
  have hne : [far, near, edge] ≠ [] := nofun
  have hpings : ∀ s ∈ [far, near, edge], s.HasIntegerPing := by decide
  obtain ⟨pool, hpool, -, -, -, -, hagain, hinsert⟩ := c.offers_laws (by decide) hne hpings
  exact ⟨by decide, hne, hpings, by decide, pool, hpool, hagain,
    hinsert [far, near] [edge] late rfl (by decide) (by decide)⟩

/-- The inclusive edge of the window, in order of discovery. -/
example :
    Server.pool 15 [Server.sample 1 40 "ny", Server.sample 2 10 "ny", Server.sample 3 25 "sf"] =
      [Server.sample 2 10 "ny", Server.sample 3 25 "sf"] := by rfl

end Cluster

end ReadRouting
