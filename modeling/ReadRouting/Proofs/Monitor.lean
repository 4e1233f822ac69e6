import ReadRouting.Proofs.Checks
import ReadRouting.Proofs.Eligible
import ReadRouting.Proofs.HealthCheck
import ReadRouting.Proofs.Update

set_option autoImplicit false
set_option relaxedAutoImplicit false

/-!
# Runs of a monitor

A monitor checks servers and publishes what comes of it, one update after the other. However long
it runs, and in whatever order its checks end, a read goes only to a server whose latest check was
answered, with success and in a role that serves reads.

## Main definitions

* `ReadRouting.HealthCheck` — a health check of a server, and how it ended.
* `ReadRouting.Observation` — a health check with the description that came of it.

## Main results

* `ReadRouting.Observation.exists_of_describe` — every check that yields a description is an
  observation.
* `ReadRouting.Cluster.updateAll_observed` — what a run of updates leaves of the observations.
* `ReadRouting.Cluster.updateAll_routes_to_latest` — who a snapshot holds for its primary and its
  secondaries after a run, and who reads are sent to.
-/

namespace ReadRouting

/-- A health check of a server: it failed, or the server answered with a document. -/
inductive HealthCheck
  | failed (address : Value)
  | answered (address document roundTripTimes : Value)

namespace HealthCheck

variable {check : HealthCheck} {s : Server}

/-- The description that comes of a health check. -/
def describe : HealthCheck → Checked Server
  | failed address => Server.unreachable address
  | answered address document roundTripTimes => Server.ofReply address document roundTripTimes

/-- The role that the document reports; unknown if there is none. -/
def role : HealthCheck → ServerType
  | failed _ => .unknown
  | answered _ document _ => (ServerType.ofDocument document).toOption.getD .unknown

/-- The server answered with success and reports a role, and not as a hidden member of a replica
set. -/
def AnsweredAs (check : HealthCheck) (t : ServerType) : Prop :=
  ∃ address document roundTripTimes, check = answered address document roundTripTimes ∧
    ServerType.ofDocument document = .ok t ∧ document.holds "ok" = .ok true ∧
    (document.holds "setName" = .ok true → document.holds "hidden" = .ok false)

/-- An answer that reports a role has that role. -/
lemma role_answered {address document roundTripTimes : Value} {t : ServerType}
    (h : ServerType.ofDocument document = .ok t) :
    (answered address document roundTripTimes).role = t := by
  rw [role, h]
  rfl

/-- A description is at a checked address, and has the role that the check reports. -/
lemma describe_eq_ok (h : check.describe = .ok s) :
    (∃ a : Address, s.address = a.toValue) ∧ s.OfRole check.role := by
  cases check with
  | failed address => exact Server.unreachable_eq_ok h
  | answered address document roundTripTimes =>
    obtain ⟨t, ht, haddress, hrole⟩ := Server.ofReply_eq_ok h
    rw [role_answered ht]
    exact ⟨haddress, hrole⟩

/-- A role that serves reads comes from an answer. -/
lemma answeredAs_of_servesReads (h : check.role.ServesReads) : check.AnsweredAs check.role := by
  have hunknown : ¬ ServerType.unknown.ServesReads := by decide
  cases check with
  | failed address => exact absurd h hunknown
  | answered address document roundTripTimes =>
    rcases ht : ServerType.ofDocument document with f | t
    · rw [role, ht] at h
      exact absurd h hunknown
    · rw [role_answered ht] at h ⊢
      obtain ⟨hok, hhidden⟩ := ServerType.ofDocument_eq_ok ht h
      exact ⟨address, document, roundTripTimes, rfl, ht, hok, hhidden⟩

/-- The answer of the primary of a replica set. -/
def primaryAnswer : Value :=
  .mapping ⟨.plain, none, [⟨.text "ok", some (.ofInt 1)⟩, ⟨.text "setName", some (.text "rs")⟩,
    ⟨.text "ismaster", some (.bool true)⟩]⟩

/-- A server that answers as a primary, at an address with a positive port, is described so. -/
lemma describe_primaryAnswer {a : Address} (h : 1 ≤ a.port.value) :
    (answered a.toValue primaryAnswer .null).describe =
      .ok ({ ServerBuilder.new with reachable := true, primary := true }.toServer a) := by
  have haddress : Checked.address (.text "address") a.toValue = .ok a := by
    rw [Checked.address_toValue, if_pos h]
  have hsteps : (answered a.toValue primaryAnswer .null).describe =
      Checked.address (.text "address") a.toValue >>= fun b =>
        .ok ({ ServerBuilder.new with reachable := true, primary := true }.toServer b) := by
    change (ServerBuilder.new.setAddress a.toValue >>= fun b => _) = _
    unfold ServerBuilder.setAddress
    cases Checked.address (.text "address") a.toValue <;> rfl
  rw [hsteps, haddress]
  rfl

end HealthCheck

/-- A health check with the description that came of it, whichever object that is. -/
structure Observation extends Located where
  check : HealthCheck
  describes : ∃ made, check.describe = .ok made ∧ server = { made with ident := server.ident }

namespace Observation

variable {o : Observation} {first later history observed : List Observation}

/-- Every description that comes of a check can be observed, as any object. -/
theorem exists_of_describe {check : HealthCheck} {made : Server} (h : check.describe = .ok made)
    (ident : Ident) :
    ∃ o : Observation, o.check = check ∧ o.server = { made with ident := ident } := by
  obtain ⟨⟨a, ha⟩, -⟩ := HealthCheck.describe_eq_ok h
  exact ⟨⟨⟨{ made with ident := ident }, a, ha⟩, check, made, h, rfl⟩, rfl, rfl⟩

/-- Where the server is found. -/
def place (o : Observation) : String × Int := o.toLocated.place

/-- The role that the server reported. -/
def role (o : Observation) : ServerType := o.check.role

/-- The description has the role that the server reported. -/
lemma ofRole (o : Observation) : o.server.OfRole o.role := by
  obtain ⟨made, hmade, hserver⟩ := o.describes
  obtain ⟨-, hrole⟩ := HealthCheck.describe_eq_ok hmade
  rw [hserver]
  exact ⟨hrole.reachable, hrole.primary, hrole.secondary⟩

/-- A server serves as a primary exactly when it reported such a role. -/
lemma servesAsPrimary_iff (o : Observation) :
    o.server.servesAsPrimary = true ↔ o.role.IsPrimary := by
  rw [o.ofRole.servesAsPrimary]
  exact decide_eq_true_iff

/-- A server serves as a secondary exactly when it reported that role. -/
lemma servesAsSecondary_iff (o : Observation) :
    o.server.servesAsSecondary = true ↔ o.role = .secondary := by
  rw [o.ofRole.servesAsSecondary]
  exact beq_iff_eq

/-- Several servers reported a role of a primary, and one of them has a port that cannot be
written. -/
def HasUnwritablePrimary (os : List Observation) : Prop :=
  2 ≤ (os.filter (·.role.IsPrimary)).length ∧ ∃ o ∈ os, o.role.IsPrimary ∧ ¬ o.address.IsWritable

/-- If some descriptions are what a history of observations holds last at each place, then so are
the observations that they come from. -/
lemma exists_map_toLocated (history : List Observation) (final : List Located)
    (h : ∀ d, d ∈ final ↔ latestAt Located.place (history.map (·.toLocated)) d.place = some d) :
    ∃ observed : List Observation, observed.map (·.toLocated) = final ∧
      ∀ o, o ∈ observed ↔ latestAt place history o.place = some o := by
  let last (d : Located) : Option Observation := latestAt place history d.place
  have hat (d : Located) : d ∈ final ↔ (last d).map (·.toLocated) = some d := by
    rw [h d, latestAt_map]
    rfl
  refine ⟨final.filterMap last, ?_, ?_⟩
  · rw [List.map_filterMap, List.filterMap_congr fun d hd => (hat d).mp hd, List.filterMap_some]
  · intro o
    rw [List.mem_filterMap]
    constructor
    · rintro ⟨d, hd, hdo⟩
      have hdlast := (hat d).mp hd
      rw [hdo] at hdlast
      obtain rfl : o.toLocated = d := Option.some.inj hdlast
      exact hdo
    · intro ho
      have hlast : last o.toLocated = some o := ho
      exact ⟨o.toLocated, (hat _).mpr (by rw [hlast]; rfl), hlast⟩

/-- What is observed last at each place is known from the places. -/
lemma eq_filterMap_latestAt (h : ∀ o, o ∈ observed ↔ latestAt place history o.place = some o) :
    observed = (observed.map place).filterMap (latestAt place history) := by
  rw [List.filterMap_map]
  exact ((List.filterMap_congr fun o ho => (h o).mp ho).trans List.filterMap_some).symm

/-- The observation of a server that answers as a primary, at the port above a number. -/
def ofPrimary (host : String) (n ident : Nat) : Observation :=
  let a : Address := ⟨host, ⟨n + 1, false⟩⟩
  { server := { { ServerBuilder.new with reachable := true, primary := true }.toServer a with
      ident := some ident }
    address := a
    checked := rfl
    check := .answered a.toValue HealthCheck.primaryAnswer .null
    describes := ⟨_, HealthCheck.describe_primaryAnswer (by change (1 : Int) ≤ n + 1; omega), rfl⟩ }

end Observation

/-! ## Snapshots of what was observed -/

namespace Cluster

variable {c : Cluster} {os first : List Observation}

/-- The reachable primaries are the servers that reported a role in which they serve for one. -/
lemma filter_servesAsPrimary (os : List Observation) :
    (os.map (·.server)).filter (·.servesAsPrimary) =
      (os.filter (·.role.IsPrimary)).map (·.server) := by
  rw [List.filter_map]
  congr 2
  funext o
  exact o.ofRole.servesAsPrimary

/-- The secondaries are the servers that reported so. -/
lemma secondaries_of_observed (hc : c.servers = .ok (os.map (·.server))) :
    c.secondaries = .ok ((os.filter (·.role = .secondary)).map (·.server)) := by
  rw [secondaries_eq hc, List.filter_map]
  congr 3
  funext o
  exact o.ofRole.servesAsSecondary

/-- The primary is the first server that reported a role in which it serves for one; the warning
about several ones comes before. -/
lemma primary?_of_observed (hc : c.servers = .ok (os.map (·.server))) :
    c.primary? = c.warnIfSplit >>= fun _ =>
      Recorded.ofChecked (.ok ((os.find? (·.role.IsPrimary)).map (·.server))) := by
  rw [primary?_eq hc, firstPrimary?, ← List.head?_filter, filter_servesAsPrimary, List.head?_map,
    List.head?_filter]

/-- Whether a port is in the way of the warning is seen from the observations. -/
lemma hasUnwritablePrimary_of_observed (os : List Observation) :
    Server.HasUnwritablePrimary (os.map (·.server)) ↔ Observation.HasUnwritablePrimary os := by
  unfold Server.HasUnwritablePrimary Observation.HasUnwritablePrimary
  rw [filter_servesAsPrimary, List.length_map]
  refine and_congr_right fun _ => ?_
  constructor
  · rintro ⟨s, hs, hprimary, a, ha, hlong⟩
    obtain ⟨o, ho, rfl⟩ := List.mem_map.mp hs
    obtain rfl : o.address = a := Address.toValue_injective (o.checked.symm.trans ha)
    exact ⟨o, ho, o.servesAsPrimary_iff.mp hprimary, hlong⟩
  · rintro ⟨o, ho, hprimary, hlong⟩
    exact ⟨o.server, List.mem_map_of_mem ho, o.servesAsPrimary_iff.mpr hprimary, o.address,
      o.checked, hlong⟩

/-- Asking for the primary ends with the first server that reported such a role, unless several did
and the port of one of them cannot be written; then it fails. -/
lemma primary?_result_of_observed (hc : c.servers = .ok (os.map (·.server))) :
    (¬ Observation.HasUnwritablePrimary os →
      c.primary?.result = .ok ((os.find? (·.role.IsPrimary)).map (·.server))) ∧
    (Observation.HasUnwritablePrimary os → c.primary?.result = .error .illFormed) := by
  have haddress : ∀ s ∈ os.map (·.server), ∃ a : Address, s.address = a.toValue := by
    intro s hs
    obtain ⟨o, -, rfl⟩ := List.mem_map.mp hs
    exact ⟨o.address, o.checked⟩
  rw [primary?_of_observed hc, Recorded.result_bind_ofChecked,
    ← hasUnwritablePrimary_of_observed]
  constructor
  · intro hwritable
    have hwarn : c.warnIfSplit.result = .ok () :=
      (canWarn_iff_of_addresses hc haddress).mpr hwritable
    rw [hwarn]
    rfl
  · intro hlong
    rw [warnIfSplit_eq_error hc haddress hlong]
    rfl

/-- A run of updates with what was observed leaves the latest observation of each server, in order
of discovery. -/
theorem updateAll_observed (hc : c.servers = .ok (first.map (·.server)))
    (hdistinct : (first.map (·.place)).Nodup) (later : List Observation) :
    ∃ (after : Cluster) (observed : List Observation),
      c.updateAll (later.map (·.member)) = .ok after ∧
      after.servers = .ok (observed.map (·.server)) ∧
      observed.map (·.place) = first.map (·.place) ++
        ((later.map (·.place)).filter (· ∉ first.map (·.place))).eraseDups ∧
      ∀ o, o ∈ observed ↔ latestAt Observation.place (first ++ later) o.place = some o := by
  let located (os : List Observation) : List Located := os.map (·.toLocated)
  have hserver (os : List Observation) : os.map (·.server) = (located os).map (·.server) := by
    rw [List.map_map]
    rfl
  have hplace (os : List Observation) : os.map (·.place) = (located os).map (·.place) := by
    rw [List.map_map]
    rfl
  have hmember : later.map (·.member) = (located later).map Located.member := by
    rw [List.map_map]
    rfl
  rw [hserver] at hc
  rw [hplace] at hdistinct
  obtain ⟨after, hafter, hmembers, -, -⟩ := updateAll_eq (servers_eq_map_iff.mp hc) (located later)
  obtain ⟨observed, hobserved, hlatest⟩ :=
    Observation.exists_map_toLocated (first ++ later)
      (Located.upsertAll (located first) (located later)) (by
        intro d
        rw [List.map_append]
        exact Located.mem_upsertAll_iff hdistinct)
  refine ⟨after, observed, ?_, ?_, ?_, hlatest⟩
  · rw [hmember]
    exact hafter
  · rw [hserver]
    show after.servers = .ok ((observed.map (·.toLocated)).map (·.server))
    rw [hobserved]
    exact servers_eq_map_iff.mpr hmembers
  · rw [hplace, hplace, hplace]
    show (observed.map (·.toLocated)).map Located.place = _
    rw [hobserved]
    exact Located.map_place_upsertAll (located first) (located later)

/-- A server that serves a preference, among observed ones, has answered in a role that serves
reads. -/
lemma exists_of_serves {p : Preference} {s : Server} (h : p.Serves (os.map (·.server)) s) :
    ∃ o ∈ os, o.server = s ∧ o.role.ServesReads ∧ o.check.AnsweredAs o.role ∧
      (p.mode = .secondary → o.role = .secondary) ∧ (p.mode = .primary → o.role.IsPrimary) := by
  obtain ⟨o, ho, rfl⟩ := List.mem_map.mp h.eligible.member
  have hreads : o.role.ServesReads := by
    rcases h.eligible.role with hfirst | hserves
    · have hserves := List.find?_some hfirst
      exact Or.inl (o.servesAsPrimary_iff.mp hserves)
    · exact Or.inr (o.servesAsSecondary_iff.mp hserves)
  exact ⟨o, ho, rfl, hreads, HealthCheck.answeredAs_of_servesReads hreads,
    fun hmode => o.servesAsSecondary_iff.mp (h.secondary hmode),
    fun hmode => o.servesAsPrimary_iff.mp (h.primary hmode)⟩

/-- **Reads go by the latest health checks.** A run of updates with what was observed succeeds,
whatever its length and its order, and leaves the latest observation of each server. The secondaries
are the servers that reported so there. The primary is the first one, in order of discovery, that
reported a role in which it serves for one; the warning about several ones comes before, and asking
for the primary fails with it exactly if one of their ports is too long to be written. Whichever
server a preference ends with, asking a faithful source, the latest check of that server was
answered with success, in a role that serves reads, and not as a hidden member; in the modes that
name one role, it is that role.

**Proof sketch.** The snapshot holds the latest observations, and a description has the flags of the
role that was reported. Whoever serves a preference has one of the two flags, so that a role that
serves reads was reported, and only an answer reports one. -/
theorem updateAll_routes_to_latest (hc : c.servers = .ok (first.map (·.server)))
    (hdistinct : (first.map (·.place)).Nodup) (later : List Observation)
    (hobjects : Server.Coherent ((first ++ later).map (·.server))) :
    ∃ (after : Cluster) (observed : List Observation),
      c.updateAll (later.map (·.member)) = .ok after ∧
      after.servers = .ok (observed.map (·.server)) ∧
      observed.map (·.place) = first.map (·.place) ++
        ((later.map (·.place)).filter (· ∉ first.map (·.place))).eraseDups ∧
      (∀ o, o ∈ observed ↔ latestAt Observation.place (first ++ later) o.place = some o) ∧
      after.secondaries = .ok ((observed.filter (·.role = .secondary)).map (·.server)) ∧
      after.primary? = (after.warnIfSplit >>= fun _ =>
        Recorded.ofChecked (.ok ((observed.find? (·.role.IsPrimary)).map (·.server)))) ∧
      (¬ Observation.HasUnwritablePrimary observed →
        after.primary?.result = .ok ((observed.find? (·.role.IsPrimary)).map (·.server))) ∧
      (Observation.HasUnwritablePrimary observed → after.primary?.result = .error .illFormed) ∧
      ∀ (p : Preference) {σ : Type} (choice : Source σ), choice.Faithful →
        ∀ run, p.route choice after = .ok run → ∀ st s, (run.run st).1 = .ok (some s) →
          ∃ o, latestAt Observation.place (first ++ later) o.place = some o ∧ o.server = s ∧
            o.role.ServesReads ∧ o.check.AnsweredAs o.role ∧
            (p.mode = .secondary → o.role = .secondary) ∧
            (p.mode = .primary → o.role.IsPrimary) := by
  obtain ⟨after, observed, hafter, hservers, horder, hlatest⟩ :=
    updateAll_observed hc hdistinct later
  obtain ⟨hfirst, hfails⟩ := primary?_result_of_observed hservers
  have hcoherent : Server.Coherent (observed.map (·.server)) := by
    have hsub : ∀ s ∈ observed.map (·.server), s ∈ (first ++ later).map (·.server) := by
      intro s hs
      obtain ⟨o, ho, rfl⟩ := List.mem_map.mp hs
      exact List.mem_map_of_mem (latestAt_eq_some ((hlatest o).mp ho)).1
    exact fun s hs t ht => hobjects s (hsub s hs) t (hsub t ht)
  refine ⟨after, observed, hafter, hservers, horder, hlatest, secondaries_of_observed hservers,
    primary?_of_observed hservers, hfirst, hfails, ?_⟩
  intro p σ choice hchoice run hrun st s hs
  obtain ⟨o, ho, hrest⟩ :=
    exists_of_serves (Preference.serves_of_route hservers hcoherent hchoice hrun hs)
  exact ⟨o, (hlatest o).mp ho, hrest⟩

/-- Two servers answer as primaries, one after the other: the first one is the primary, unless the
port of the second one is too long to be written. -/
theorem updateAll_routes_to_latest_two_primaries :
    let silent : Observation := { Located.unreached ⟨"a", ⟨1, false⟩⟩ with
      check := .failed (.tuple [.text "a", .ofInt 1])
      describes := ⟨_, rfl, rfl⟩ }
    let near := Observation.ofPrimary "a" 0 1
    let other := Observation.ofPrimary "b" 1 2
    let long := Observation.ofPrimary "b" (Nat.pow 10 Text.maxDigits) 2
    let c : Cluster := ⟨none, [silent.member], ⟨15, false⟩, .default⟩
    c.servers = .ok ([silent].map (·.server)) ∧ ([silent].map (·.place)).Nodup ∧
      Server.Coherent (([silent] ++ [near, other]).map (·.server)) ∧
      Server.Coherent (([silent] ++ [near, long]).map (·.server)) ∧
      (∃ after, c.updateAll [near.member, other.member] = .ok after ∧
        after.primary?.result = .ok (some near.server)) ∧
      ∃ after, c.updateAll [near.member, long.member] = .ok after ∧
        after.primary?.result = .error .illFormed := by
  intro silent near other long c
  have hc : c.servers = .ok ([silent].map (·.server)) := rfl
  have hdistinct : ([silent].map (·.place)).Nodup := List.nodup_singleton _
  have hobjects (n : Nat) : Server.Coherent
      (([silent] ++ [near, .ofPrimary "b" n 2]).map (·.server)) :=
    Server.coherent_of_nodup (by decide : [none, some 1, some 2].Nodup)
  -- whatever the port of the second primary, both of them are observed last
  have hrun (n : Nat) : ∃ after observed, observed = [near, Observation.ofPrimary "b" n 2] ∧
      c.updateAll [near.member, (Observation.ofPrimary "b" n 2).member] = .ok after ∧
      (¬ Observation.HasUnwritablePrimary observed →
        after.primary?.result = .ok ((observed.find? (·.role.IsPrimary)).map (·.server))) ∧
      (Observation.HasUnwritablePrimary observed → after.primary?.result = .error .illFormed) := by
    obtain ⟨after, observed, hafter, -, horder, hlatest, -, -, hfirst, hfails, -⟩ :=
      updateAll_routes_to_latest hc hdistinct [near, .ofPrimary "b" n 2] (hobjects n)
    refine ⟨after, observed, ?_, hafter, hfirst, hfails⟩
    have hplaces : observed.map (·.place) =
        [near.place, (Observation.ofPrimary "b" n 2).place] := by
      rw [horder]
      rfl
    have hother : (Observation.ofPrimary "b" n 2).place ≠ near.place :=
      fun h => absurd (congrArg Prod.fst h) (by decide : "b" ≠ "a")
    rw [Observation.eq_filterMap_latestAt hlatest, hplaces]
    simp [latestAt, hother]
  refine ⟨hc, hdistinct, hobjects 1, hobjects _, ?_, ?_⟩
  · obtain ⟨after, _, rfl, hafter, hfirst, -⟩ := hrun 1
    refine ⟨after, hafter, hfirst ?_⟩
    rintro ⟨-, o, ho, -, hlong⟩
    apply hlong
    rcases List.mem_pair.mp ho with rfl | rfl <;> exact Address.isWritable_of_lt (by decide)
  · obtain ⟨after, _, rfl, hafter, -, hfails⟩ := hrun (Nat.pow 10 Text.maxDigits)
    refine ⟨after, hafter, hfails ⟨by decide, long, List.mem_pair.mpr (Or.inr rfl), by decide, ?_⟩⟩
    have hpow : ∀ k : Nat, ¬ (k + 1 : Int).natAbs < k := by omega
    exact hpow _

end Cluster

end ReadRouting
