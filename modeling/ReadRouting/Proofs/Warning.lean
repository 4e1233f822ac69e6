import ReadRouting.Cluster.Snapshot
import ReadRouting.Proofs.Results

set_option autoImplicit false
set_option relaxedAutoImplicit false

/-!
# The warning about several primaries

A snapshot with several reachable primaries is no fault, but the warning about it names their
addresses, and an address that is no pair, or a port that is too long for a numeral, cannot be
named. Then whatever asks for the primary fails with the warning.

## Main definitions

* `ReadRouting.Cluster.CanWarn` — the warning, if one is due, can be worded.
* `ReadRouting.Address.IsWritable` — an address whose port can be written.
* `ReadRouting.Server.HasUnwritablePrimary` — the warning is due, and a port is too long for it.

## Main results

* `ReadRouting.Cluster.canWarn_iff` — no warning is due, or all addresses in it can be worded.
* `ReadRouting.Cluster.canWarn_of_writable` — addresses with ports of the usual length can.
* `ReadRouting.Cluster.warnIfSplit_eq_error`, `ReadRouting.Cluster.warnIfSplit_of_writable` — what
  the warning comes to for servers at checked addresses.
-/

namespace ReadRouting

/-- A warning about fewer than two fails never, any other if an address cannot be worded. -/
lemma result_warnOfSeveral (endpoints : List (Recorded String)) :
    (warnOfSeveral endpoints).result = .ok () ↔
      endpoints.length < 2 ∨ ∃ texts, (Recorded.collect endpoints).result = .ok texts := by
  unfold warnOfSeveral
  by_cases hlength : 2 ≤ endpoints.length
  · rw [if_pos hlength, Recorded.result_bind_record]
    cases (Recorded.collect endpoints).result with
    | error e =>
      refine ⟨nofun, ?_⟩
      rintro (h | ⟨texts, h⟩)
      · omega
      · cases h
    | ok texts => exact ⟨fun _ => Or.inr ⟨texts, rfl⟩, fun _ => rfl⟩
  · rw [if_neg hlength]
    exact ⟨fun _ => Or.inl (by omega), fun _ => rfl⟩

/-! ## The members of a snapshot as servers -/

/-- The members are servers exactly when they are the given servers, one by one. -/
lemma mapM_asServer_eq_ok_iff (members : List Value) (servers : List Server) :
    members.mapM Value.asServer = .ok servers ↔ members = servers.map .server := by
  induction members generalizing servers with
  | nil =>
    rw [List.mapM_nil]
    cases servers with
    | nil => exact ⟨fun _ => rfl, fun _ => rfl⟩
    | cons s ss => exact ⟨nofun, nofun⟩
  | cons v vs ih =>
    rw [List.mapM_cons]
    constructor
    · intro h
      cases v <;> try cases h
      rename_i s
      rcases hr : vs.mapM Value.asServer with e | ss
      · rw [hr] at h
        cases h
      · rw [hr] at h
        cases h
        rw [(ih ss).mp hr]
        rfl
    · intro h
      cases servers with
      | nil => cases h
      | cons s ss =>
        injection h with hv hvs
        rw [hv, (ih ss).mpr hvs]
        rfl

/-- The reachable primaries among servers are named by their addresses, in order. -/
lemma Server.primaryEndpoints_map (servers : List Server) :
    primaryEndpoints (servers.map .server) = (servers.filter (·.servesAsPrimary)).map endpoint := by
  induction servers with
  | nil => rfl
  | cons s ss ih =>
    rw [List.map_cons, List.filter_cons]
    cases hs : s.servesAsPrimary with
    | true => simp only [primaryEndpoints, hs, if_true, ih, List.map_cons]
    | false => simp only [primaryEndpoints, hs, ih, Bool.false_eq_true, if_false]

namespace Cluster

variable {c : Cluster} {servers : List Server}

/-- The members of a snapshot are all servers. -/
lemma servers_eq_ok_iff : c.servers = .ok servers ↔ c.members = servers.map .server :=
  mapM_asServer_eq_ok_iff c.members servers

/-- The warning about several primaries, if one is due, can be worded: no address of a reachable
primary stands in its way. -/
def CanWarn (c : Cluster) : Prop := c.warnIfSplit.result = .ok ()

/-- A warning that cannot be worded fails. -/
lemma exists_error_of_not_canWarn (h : ¬ c.CanWarn) : ∃ f, c.warnIfSplit.result = .error f := by
  rcases hw : c.warnIfSplit.result with f | u
  · exact ⟨f, rfl⟩
  · exact absurd hw h

/-- No warning is due, or the address of every reachable primary can be worded. -/
theorem canWarn_iff (hc : c.servers = .ok servers) :
    c.CanWarn ↔ (servers.filter (·.servesAsPrimary)).length < 2 ∨
      ∃ texts, (Recorded.collect
        ((servers.filter (·.servesAsPrimary)).map Server.endpoint)).result = .ok texts := by
  unfold CanWarn warnIfSplit
  rw [servers_eq_ok_iff.mp hc, Server.primaryEndpoints_map, result_warnOfSeveral, List.length_map]

/-- One reachable primary is nothing to warn of. -/
lemma canWarn_of_one_primary (hc : c.servers = .ok servers)
    (hone : (servers.filter (·.servesAsPrimary)).length ≤ 1) : c.CanWarn :=
  (canWarn_iff hc).mpr (Or.inl (Nat.lt_succ_of_le hone))

end Cluster

/-! ## Addresses that can be worded -/

/-- The port is short enough to be written. -/
def Address.IsWritable (a : Address) : Prop := a.port.value.natAbs < Nat.pow 10 Text.maxDigits

/-- Every port number in use can be written. -/
lemma Address.isWritable_of_lt {a : Address} (h : a.port.value.natAbs < 65536) :
    a.IsWritable := by
  have hpow : ∀ k, 5 ≤ k → Nat.pow 10 5 ≤ Nat.pow 10 k :=
    fun k hk => Nat.pow_le_pow_right (by omega) hk
  unfold IsWritable
  exact Nat.lt_of_lt_of_le (Nat.lt_trans h (by decide)) (hpow Text.maxDigits (by decide))

/-- An address is known from its value. -/
lemma Address.toValue_injective : Function.Injective Address.toValue := by
  rintro ⟨host, port⟩ ⟨host', port'⟩ h
  unfold toValue at h
  injection h with hitems
  injection hitems with hhost hrest
  injection hrest with hport
  obtain rfl : host = host' := Value.text.inj hhost
  obtain rfl : port = port' := Value.int.inj hport
  rfl

/-- A checked address is worded as its host and its port, if the port can be shown. -/
lemma Server.endpoint_eq {s : Server} {a : Address} (h : s.address = a.toValue) :
    s.endpoint =
      Recorded.ofChecked ((integerShown a.port.value).map fun port => a.host ++ ":" ++ port) := by
  obtain ⟨i, address, r, p, q, n, l, d⟩ := s
  subst h
  unfold endpoint
  simp only [Address.toValue, Value.allDisplayed, Value.displayedOr, Value.shown]
  cases integerShown a.port.value <;> rfl

/-- A checked address whose port can be written is worded. -/
lemma Server.endpoint_of_address {s : Server} {a : Address} (h : s.address = a.toValue)
    (ha : a.IsWritable) : s.endpoint = pure (a.host ++ ":" ++ toString a.port.value) := by
  have hport : integerShown a.port.value = .ok (toString a.port.value) := by
    unfold Address.IsWritable at ha
    unfold integerShown Text.writeInteger?
    rw [if_pos ha]
  rw [endpoint_eq h, hport]
  rfl

/-- The warning can be worded if the reachable primaries have addresses that can be written. -/
theorem Cluster.canWarn_of_writable {c : Cluster} {servers : List Server}
    (hc : c.servers = .ok servers)
    (h : ∀ s ∈ servers, s.servesAsPrimary = true →
      ∃ a : Address, s.address = a.toValue ∧ a.IsWritable) : c.CanWarn := by
  rw [canWarn_iff hc]
  have hpure : ∀ r ∈ (servers.filter (·.servesAsPrimary)).map Server.endpoint,
      ∃ text, r = pure text := by
    intro r hr
    obtain ⟨s, hs, rfl⟩ := List.mem_map.mp hr
    obtain ⟨hmem, hprimary⟩ := List.mem_filter.mp hs
    obtain ⟨a, ha, hw⟩ := h s hmem hprimary
    exact ⟨_, Server.endpoint_of_address ha hw⟩
  obtain ⟨texts, htexts⟩ := Recorded.collect_eq_pure hpure
  exact Or.inr ⟨texts, by rw [htexts]; rfl⟩

/-! ## Ports that are too long -/

namespace Server

/-- An address with a port that cannot be written cannot be worded. -/
lemma endpoint_of_not_writable {s : Server} {a : Address} (h : s.address = a.toValue)
    (ha : ¬ a.IsWritable) : s.endpoint = Recorded.ofChecked (.error .illFormed) := by
  have hport : integerShown a.port.value = .error .illFormed := by
    unfold Address.IsWritable at ha
    unfold integerShown Text.writeInteger?
    rw [if_neg ha]
  rw [endpoint_eq h, hport]
  rfl

/-- Several primaries are reachable, and one of them has a port that cannot be written. -/
def HasUnwritablePrimary (servers : List Server) : Prop :=
  2 ≤ (servers.filter (·.servesAsPrimary)).length ∧
    ∃ s ∈ servers, s.servesAsPrimary = true ∧ ∃ a : Address, s.address = a.toValue ∧ ¬ a.IsWritable

end Server

namespace Cluster

section Addresses

variable {c : Cluster} {servers : List Server} (hc : c.servers = .ok servers)
  (haddress : ∀ s ∈ servers, ∃ a : Address, s.address = a.toValue)
include hc haddress

/-- The warning fails if it is due and one of the ports in it cannot be written. -/
theorem warnIfSplit_eq_error (h : Server.HasUnwritablePrimary servers) :
    c.warnIfSplit = Recorded.ofChecked (.error .illFormed) := by
  obtain ⟨hseveral, s, hs, hprimary, a, ha, hlong⟩ := h
  have hcollect : Recorded.collect ((servers.filter (·.servesAsPrimary)).map Server.endpoint) =
      Recorded.ofChecked (.error .illFormed) := by
    apply Recorded.collect_eq_error
    · intro r hr
      obtain ⟨t, ht, rfl⟩ := List.mem_map.mp hr
      obtain ⟨b, hb⟩ := haddress t (List.mem_filter.mp ht).1
      by_cases hwritable : b.IsWritable
      · exact Or.inl ⟨_, Server.endpoint_of_address hb hwritable⟩
      · exact Or.inr (Server.endpoint_of_not_writable hb hwritable)
    · rw [← Server.endpoint_of_not_writable ha hlong]
      exact List.mem_map_of_mem (List.mem_filter.mpr ⟨hs, hprimary⟩)
  unfold warnIfSplit warnOfSeveral
  rw [servers_eq_ok_iff.mp hc, Server.primaryEndpoints_map, List.length_map, if_pos hseveral,
    hcollect]
  rfl

/-- Otherwise there is nothing to warn of, or the warning is recorded. -/
theorem warnIfSplit_of_writable (h : ¬ Server.HasUnwritablePrimary servers) :
    c.warnIfSplit = pure () ∨
      ∃ count endpoints, c.warnIfSplit = record (.severalPrimaries count endpoints) := by
  unfold warnIfSplit warnOfSeveral
  rw [servers_eq_ok_iff.mp hc, Server.primaryEndpoints_map, List.length_map]
  by_cases hseveral : 2 ≤ (servers.filter (·.servesAsPrimary)).length
  · have hpure : ∀ r ∈ (servers.filter (·.servesAsPrimary)).map Server.endpoint,
        ∃ text, r = pure text := by
      intro r hr
      obtain ⟨s, hs, rfl⟩ := List.mem_map.mp hr
      obtain ⟨hmem, hprimary⟩ := List.mem_filter.mp hs
      obtain ⟨a, ha⟩ := haddress s hmem
      have hwritable : a.IsWritable := by
        by_contra hlong
        exact h ⟨hseveral, s, hmem, hprimary, a, ha, hlong⟩
      exact ⟨_, Server.endpoint_of_address ha hwritable⟩
    obtain ⟨texts, htexts⟩ := Recorded.collect_eq_pure hpure
    rw [if_pos hseveral, htexts]
    exact Or.inr ⟨texts.length, commaSeparated texts, rfl⟩
  · rw [if_neg hseveral]
    exact Or.inl rfl

/-- The warning can be worded exactly if no port is in the way. -/
lemma canWarn_iff_of_addresses : c.CanWarn ↔ ¬ Server.HasUnwritablePrimary servers := by
  unfold CanWarn
  constructor
  · intro hwarn hlong
    rw [warnIfSplit_eq_error hc haddress hlong] at hwarn
    cases hwarn
  · intro hlong
    rcases warnIfSplit_of_writable hc haddress hlong with hnone | ⟨count, endpoints, hwarn⟩
    · rw [hnone]
      rfl
    · rw [hwarn]
      rfl

end Addresses

end Cluster

end ReadRouting
