import ReadRouting.Proofs.Place

set_option autoImplicit false
set_option relaxedAutoImplicit false

/-!
# Updates in any order

Each server is watched by a monitor of its own, and the monitors publish independently: the
updates of one server come in order, those of different servers in any order. Two runs of the same
updates leave the same description at every place that was known, in the same position; what they
discover is the same too, but comes in the order in which it was first published.

Nothing is asked of the addresses of the members that are there to begin with: they may be anything,
and several may have the same one.

## Main definitions

* `ReadRouting.Server.place?` — the place that a server description stands for.
* `ReadRouting.Server.upsertAll` — arbitrary descriptions after a run of new ones.
* `ReadRouting.SameStreams` — two runs hold the same updates of each server, in the same order.

## Main results

* `ReadRouting.SameStreams.perm`, `ReadRouting.SameStreams.swap` — such runs are rearrangements, and
  two updates in a row may change places if they are of different servers.
* `ReadRouting.Server.upsertAll_cons` — what a run does to the first description, and to the others.
* `ReadRouting.Server.upsertAll_of_sameStreams` — what two such runs leave.
* `ReadRouting.Cluster.updateAll_of_sameStreams` — the same for snapshots.
* `ReadRouting.Cluster.find?_eq_of_perm` — what is found at any address.
-/

namespace ReadRouting

/-- The place that a server description stands for. -/
def Server.place? (s : Server) : Option (String × Int) := s.address.place?

/-- A checked address stands for its own place. -/
lemma Address.place?_toValue (a : Address) : a.toValue.place? = some a.place := by
  have hself : a.toValue.equals a.toValue = .ok true := by
    rw [Address.toValue_equals]
    simp
  rw [Value.equals_toValue, Except.ok.injEq, decide_eq_true_iff] at hself
  exact hself

/-- A description with a checked address stands for the place of the address. -/
lemma Located.place?_server (d : Located) : d.server.place? = some d.place := by
  rw [Server.place?, d.checked]
  exact d.address.place?_toValue

/-! ## Runs that hold the same updates of each server -/

/-- Both runs hold the same updates of each server, in the same order. -/
def SameStreams (us vs : List Located) : Prop :=
  ∀ x, (us.filter fun u => u.place = x) = vs.filter fun v => v.place = x

namespace SameStreams

variable {us vs : List Located}

/-- What a history holds last at a place is the last of what it holds there. -/
lemma latestAt_eq_getLast? (us : List Located) (x : String × Int) :
    latestAt Located.place us x = (us.filter fun u => u.place = x).getLast? := by
  rw [latestAt, List.findRev?_eq_find?_reverse, List.getLast?_filter]

/-- Such runs hold the same last update at each place. -/
lemma latestAt_eq (h : SameStreams us vs) (x : String × Int) :
    latestAt Located.place us x = latestAt Located.place vs x := by
  rw [latestAt_eq_getLast?, latestAt_eq_getLast?, h x]

/-- Such runs stay so when the updates at some places are left out. -/
lemma filter (h : SameStreams us vs) (p : String × Int → Bool) :
    SameStreams (us.filter fun u => p u.place) (vs.filter fun v => p v.place) := by
  intro x
  rw [List.filter_comm, h x, List.filter_comm]

/-- One more update at the start of both. -/
lemma cons (h : SameStreams us vs) (u : Located) : SameStreams (u :: us) (u :: vs) := by
  intro x
  rw [List.filter_cons, List.filter_cons, h x]

/-- Such runs are rearrangements of each other.

**Proof sketch.** Induction on the first run. Its first update is the first one at its place in the
other run too, and without it the two runs hold the same again. -/
theorem perm (h : SameStreams us vs) : us.Perm vs := by
  induction us generalizing vs with
  | nil =>
    cases vs with
    | nil => exact List.Perm.refl []
    | cons v vs =>
      have hv := h v.place
      rw [List.filter_cons, if_pos (decide_eq_true rfl)] at hv
      cases hv
  | cons u us ih =>
    have hu := h u.place
    rw [List.filter_cons, if_pos (decide_eq_true rfl)] at hu
    obtain ⟨before, after, rfl, hbefore, -, hafter⟩ := List.filter_eq_cons_iff.mp hu.symm
    have hrest : SameStreams us (before ++ after) := by
      intro x
      rw [List.filter_append]
      by_cases hx : u.place = x
      · have hnone : before.filter (fun v => v.place = x) = [] :=
          List.filter_eq_nil_iff.mpr fun v hv => hx ▸ hbefore v hv
        rw [hnone, List.nil_append, ← hx, hafter]
      · have hux := h x
        rw [List.filter_cons, if_neg (by simpa using hx), List.filter_append, List.filter_cons,
          if_neg (by simpa using hx)] at hux
        exact hux
    exact ((ih hrest).cons u).trans List.perm_middle.symm

/-- Two updates of different servers that follow each other may change places. -/
theorem swap {u v : Located} (h : u.place ≠ v.place) (us : List Located) :
    SameStreams (u :: v :: us) (v :: u :: us) := by
  intro x
  by_cases hu : u.place = x
  · have hv : ¬ v.place = x := fun hv => h (hu.trans hv.symm)
    simp [hu, hv]
  · simp [List.filter_cons, hu]

end SameStreams

/-! ## Arbitrary descriptions -/

namespace Server

variable {s : Server} {ss : List Server} {us vs : List Located}

/-- Descriptions with the first one at the place of a new one replaced, or with the new one at the
end. -/
def upsert (new : Located) : List Server → List Server
  | [] => [new.server]
  | s :: ss => if s.place? = some new.place then new.server :: ss else s :: upsert new ss

/-- Descriptions after a run of new ones. -/
def upsertAll (ss : List Server) (us : List Located) : List Server :=
  us.foldl (fun ss u => upsert u ss) ss

/-- The last update at the place of a description, or else the description itself. -/
def latest (s : Server) (us : List Located) : Server :=
  ((s.place?.bind (latestAt Located.place us)).map (·.server)).getD s

/-- Among descriptions whose addresses are checked this is replacing and appending there. -/
lemma upsert_map (new : Located) (ds : List Located) :
    upsert new (ds.map (·.server)) = (Located.upsert new ds).map (·.server) := by
  induction ds with
  | nil => rfl
  | cons d ds ih =>
    rw [List.map_cons, upsert, Located.upsert, d.place?_server, ih]
    by_cases hd : d.place = new.place
    · rw [if_pos (congrArg some hd), if_pos hd, List.map_cons]
    · rw [if_neg fun h => hd (Option.some.inj h), if_neg hd, List.map_cons]

/-- The same for runs. -/
lemma upsertAll_map (ds us : List Located) :
    upsertAll (ds.map (·.server)) us = (Located.upsertAll ds us).map (·.server) := by
  induction us generalizing ds with
  | nil => rfl
  | cons u us ih =>
    change upsertAll (upsert u (ds.map (·.server))) us = _
    rw [upsert_map, ih]
    rfl

/-- A run leaves the last update at the place of the first description in its position; all others
go by the updates at other places.

**Proof sketch.** Induction on the run. An update at the place of the first description replaces it,
and has the same place; any other leaves it alone. -/
theorem upsertAll_cons (s : Server) (ss : List Server) (us : List Located) :
    upsertAll (s :: ss) us =
      s.latest us :: upsertAll ss (us.filter fun u => s.place? ≠ some u.place) := by
  induction us generalizing s ss with
  | nil =>
    rw [latest]
    cases s.place? <;> rfl
  | cons u us ih =>
    change upsertAll (upsert u (s :: ss)) us = _
    have hcons : ∀ x, latestAt Located.place (u :: us) x =
        (latestAt Located.place us x).or (if u.place = x then some u else none) := by
      intro x
      rw [← latestAt_singleton]
      exact latestAt_append Located.place [u] us x
    by_cases hu : s.place? = some u.place
    · have hlatest : s.latest (u :: us) = u.server.latest us := by
        rw [latest, latest, hu, u.place?_server, Option.bind_some, Option.bind_some, hcons,
          if_pos rfl]
        cases latestAt Located.place us u.place <;> rfl
      rw [upsert, if_pos hu, ih, u.place?_server, ← hu, hlatest, List.filter_cons,
        if_neg (by simpa using hu)]
    · have hlatest : s.latest (u :: us) = s.latest us := by
        rw [latest, latest]
        cases hs : s.place? with
        | none => rfl
        | some x =>
          have hx : ¬ u.place = x := fun h => hu (hs.trans (congrArg some h.symm))
          rw [Option.bind_some, Option.bind_some, hcons, if_neg hx, Option.or_none]
      rw [upsert, if_neg hu, ih, hlatest, List.filter_cons, if_pos (by simpa using hu)]
      rfl

/-- Two runs that hold the same updates of each server leave the same descriptions in the positions
that were there before, and add the same ones, at different places that were not known.

**Proof sketch.** Induction on the descriptions before the run. The first one goes by the updates at
its place, and the others by those at other places, of which the two runs hold the same. If there
are none left, both runs leave the last update at each place. -/
theorem upsertAll_of_sameStreams (h : SameStreams us vs) (ss : List Server) :
    ∃ (kept : List Server) (added added' : List Located),
      upsertAll ss us = kept ++ added.map (·.server) ∧
      upsertAll ss vs = kept ++ added'.map (·.server) ∧
      added.Perm added' ∧ (added.map Located.place).Nodup ∧
      ∀ d ∈ added, d ∈ us ∧ ∀ s ∈ ss, s.place? ≠ some d.place := by
  induction ss generalizing us vs with
  | nil =>
    have hnil : (([] : List Located).map Located.place).Nodup := List.nodup_nil
    have hnodup : ∀ ws, ((Located.upsertAll [] ws).map Located.place).Nodup := fun ws =>
      Located.nodup_upsertAll hnil
    have hmem : ∀ ws d, d ∈ Located.upsertAll [] ws ↔ latestAt Located.place ws d.place = some d :=
      fun ws d => Located.mem_upsertAll_iff hnil
    refine ⟨[], Located.upsertAll [] us, Located.upsertAll [] vs, upsertAll_map [] us,
      upsertAll_map [] vs, ?_, hnodup us, fun d hd => ⟨?_, nofun⟩⟩
    · refine (List.perm_ext_iff_of_nodup (hnodup us).of_map (hnodup vs).of_map).mpr fun d => ?_
      rw [hmem, hmem, h.latestAt_eq]
    · rw [hmem] at hd
      exact (latestAt_eq_some hd).1
  | cons s ss ih =>
    obtain ⟨kept, added, added', hus, hvs, hperm, hnodup, hadded⟩ :=
      ih (h.filter fun x => s.place? ≠ some x)
    have hlatest : s.latest us = s.latest vs := by
      rw [latest, latest, funext h.latestAt_eq]
    refine ⟨s.latest us :: kept, added, added', ?_, ?_, hperm, hnodup, fun d hd => ?_⟩
    · rw [upsertAll_cons, hus, List.cons_append]
    · rw [upsertAll_cons, hvs, hlatest, List.cons_append]
    · obtain ⟨hmem, hplace⟩ := hadded d hd
      obtain ⟨hmem, hs⟩ := List.mem_filter.mp hmem
      exact ⟨hmem, List.forall_mem_cons.mpr ⟨of_decide_eq_true hs, hplace⟩⟩

/-- Replacing or appending a member goes by the places. -/
lemma replaceOrAppend_member (new : Located) (ss : List Server) :
    Cluster.replaceOrAppend new.member (ss.map .server) = .ok ((upsert new ss).map .server) := by
  induction ss with
  | nil => rfl
  | cons s ss ih =>
    have hsame : (Locator.located s.address).same (.located new.server.address) =
        .ok (decide (s.place? = some new.place)) := by
      rw [new.checked]
      exact Value.equals_toValue s.address new.address
    rw [List.map_cons, Cluster.replaceOrAppend, ih]
    change ((Locator.located s.address).same (.located new.server.address) >>= _) = _
    rw [hsame]
    by_cases hs : s.place? = some new.place
    · rw [decide_eq_true hs, upsert, if_pos hs]
      rfl
    · rw [decide_eq_false hs, upsert, if_neg hs]
      rfl

end Server

/-! ## Snapshots -/

namespace Cluster

variable {c first second : Cluster} {servers kept : List Server} {us vs added added' : List Located}

/-- A run of updates of a snapshot of servers goes by the places, and succeeds. -/
lemma updateAll_servers (hc : c.servers = .ok servers) (us : List Located) :
    ∃ after, c.updateAll (us.map Located.member) = .ok after ∧
      after.servers = .ok (Server.upsertAll servers us) ∧ after.latency = c.latency := by
  induction us generalizing c servers with
  | nil => exact ⟨c, rfl, hc, rfl⟩
  | cons u us ih =>
    let next : Cluster := ⟨none, (Server.upsert u servers).map .server, c.latency, c.source⟩
    have hnext : c.update u.member = .ok next := by
      rw [update, servers_eq_ok_iff.mp hc, Server.replaceOrAppend_member]
      rfl
    obtain ⟨after, hafter, hrest⟩ := ih (c := next) (servers_eq_ok_iff.mpr rfl)
    refine ⟨after, ?_, hrest⟩
    change (c.update u.member >>= fun c => c.updateAll (us.map Located.member)) = _
    rw [hnext]
    exact hafter

/-- Two runs that hold the same updates of each server succeed both, and leave snapshots with the
same window, of which the members differ at most in the order of those that are new. -/
theorem updateAll_of_sameStreams (hc : c.servers = .ok servers) (h : SameStreams us vs) :
    ∃ (first second : Cluster) (kept : List Server) (added added' : List Located),
      c.updateAll (us.map Located.member) = .ok first ∧
      c.updateAll (vs.map Located.member) = .ok second ∧
      first.servers = .ok (kept ++ added.map (·.server)) ∧
      second.servers = .ok (kept ++ added'.map (·.server)) ∧
      first.latency = second.latency ∧
      added.Perm added' ∧ (added.map Located.place).Nodup ∧
      ∀ d ∈ added, d ∈ us ∧ ∀ s ∈ servers, s.place? ≠ some d.place := by
  obtain ⟨first, hfirst, hfirst', hlatency⟩ := updateAll_servers hc us
  obtain ⟨second, hsecond, hsecond', hlatency'⟩ := updateAll_servers hc vs
  obtain ⟨kept, added, added', hus, hvs, hperm, hnodup, hadded⟩ :=
    Server.upsertAll_of_sameStreams h servers
  exact ⟨first, second, kept, added, added', hfirst, hsecond, hus ▸ hfirst', hvs ▸ hsecond',
    hlatency.trans hlatency'.symm, hperm, hnodup, hadded⟩

/-! ## Looking members up -/

/-- Members are searched one after the other. -/
lemma findAt?_append (place : Locator) (ms ns : List Value) :
    findAt? place (ms ++ ns) = findAt? place ms >>= fun found =>
      match found with
      | some v => .ok (some v)
      | none => findAt? place ns := by
  induction ms with
  | nil => rfl
  | cons v vs ih =>
    rw [List.cons_append, findAt?, findAt?, ih, bind_assoc]
    congr 1
    funext l
    rw [bind_assoc]
    congr 1
    funext found
    cases found <;> rfl

/-- Members are looked up without fail if the comparison with each of them is. -/
lemma findAt?_map {α : Type} {f : α → Value} {p : α → Bool} {as : List α} {place : Locator}
    (h : ∀ a ∈ as, ((f a).locator >>= fun l => l.same place) = .ok (p a)) :
    findAt? place (as.map f) = .ok ((as.find? p).map f) := by
  induction as with
  | nil => rfl
  | cons a as ih =>
    have hfirst := h a List.mem_cons_self
    have hrest := ih fun b hb => h b (List.mem_cons_of_mem a hb)
    rw [List.map_cons, findAt?, ← bind_assoc, hfirst, hrest, List.find?_cons]
    cases p a <;> rfl

/-- A checked address is looked up by its place. -/
lemma hasServer_eq_true_iff (hc : c.servers = .ok servers) (a : Address) :
    c.hasServer a.toValue = .ok true ↔ ∃ s ∈ servers, s.place? = some a.place := by
  have hfind : c.find? a.toValue =
      .ok ((servers.find? fun s => s.place? = some a.place).map .server) := by
    rw [find?, servers_eq_ok_iff.mp hc]
    exact findAt?_map fun s _ => Value.equals_toValue s.address a
  rw [hasServer, hfind]
  change Except.ok (Option.isSome _) = _ ↔ _
  rw [Except.ok.injEq, Option.isSome_map, List.find?_isSome]
  simp only [decide_eq_true_eq]

/-- Among members with checked addresses, anything that is looked up goes by the place that it
stands for. -/
lemma findAt?_located (q : Value) (ds : List Located) :
    findAt? (.located q) (ds.map Located.member) =
      .ok ((ds.find? fun d => q.place? = some d.place).map Located.member) := by
  refine findAt?_map fun d _ => ?_
  change d.server.address.equals q = _
  rw [d.checked]
  exact Value.toValue_equals d.address q

/-- Among descriptions at different places, the order does not matter for what is found. -/
lemma find?_perm (h : added.Perm added') (hnodup : (added.map Located.place).Nodup)
    (x : Option (String × Int)) :
    (added.find? fun d => x = some d.place) = added'.find? fun d => x = some d.place := by
  cases hfound : added.find? fun d => x = some d.place with
  | none =>
    rw [List.find?_eq_none] at hfound
    exact (List.find?_eq_none.mpr fun d hd => hfound d (h.mem_iff.mpr hd)).symm
  | some d =>
    have hplace := List.find?_some hfound
    have hd : x = some d.place := of_decide_eq_true hplace
    have hnodup' : (added'.map Located.place).Nodup :=
      ((h.map Located.place).nodup_iff).mp hnodup
    have hmem : d ∈ added' := h.mem_iff.mp (List.mem_of_find?_eq_some hfound)
    rw [← Located.find?_of_mem hnodup' hmem]
    congr 1
    funext e
    rw [hd, decide_eq_decide, Option.some.injEq]
    exact ⟨Eq.symm, Eq.symm⟩

/-- Snapshots that differ only in the order of members at different checked addresses at the end
find the same at every address, or fail alike. -/
theorem find?_eq_of_perm (hfirst : first.servers = .ok (kept ++ added.map (·.server)))
    (hsecond : second.servers = .ok (kept ++ added'.map (·.server)))
    (h : added.Perm added') (hnodup : (added.map Located.place).Nodup) (q : Value) :
    first.find? q = second.find? q := by
  have hmembers : ∀ ds : List Located, (kept ++ ds.map (·.server)).map Value.server =
      kept.map .server ++ ds.map Located.member := by
    intro ds
    rw [List.map_append, List.map_map]
    rfl
  rw [find?, find?, servers_eq_ok_iff.mp hfirst, servers_eq_ok_iff.mp hsecond, hmembers, hmembers,
    findAt?_append, findAt?_append, findAt?_located, findAt?_located, find?_perm h hnodup]

end Cluster

end ReadRouting
