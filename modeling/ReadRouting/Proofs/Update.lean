import Mathlib.Data.List.Nodup
import ReadRouting.Proofs.Warning
import ReadRouting.Server.Builder

set_option autoImplicit false
set_option relaxedAutoImplicit false

/-!
# Runs of updates

A snapshot after a run of updates holds the last description given for every address, in order of
discovery. So it is a map from places to descriptions in which the last writer wins, and which
remembers the order in which its keys were first set.

## Main definitions

* `ReadRouting.Address.place` — the host and the port of an address, apart from how the port is
  kept.
* `ReadRouting.latestAt` — what a history holds last at a place.
* `ReadRouting.Located` — a server description whose address has been checked.
* `ReadRouting.Located.upsert` — descriptions with the one at a place replaced, or with a new one
  at the end.
* `ReadRouting.Cluster.updateAll` — a run of updates, one after the other.

## Main results

* `ReadRouting.Cluster.update_eq` — what one update does.
* `ReadRouting.Located.find?_upsertAll`, `ReadRouting.Located.map_place_upsertAll` — what a run of
  updates leaves at each place, and in which order.
* `ReadRouting.Cluster.updateAll_last_writer_wins` — runs of updates of any length.
-/

namespace ReadRouting

/-- The host and the port. Two addresses are equal when these are, however the port is kept. -/
def Address.place (a : Address) : String × Int := (a.host, a.port.value)

/-! ## Histories -/

section Histories

variable {α β : Type} {place : α → String × Int} {history : List α} {a : α} {x : String × Int}

/-- What a history holds last at a place. -/
def latestAt (place : α → String × Int) (history : List α) (x : String × Int) : Option α :=
  history.findRev? fun a => place a = x

/-- What was written last counts. -/
lemma latestAt_append (place : α → String × Int) (history later : List α) (x : String × Int) :
    latestAt place (history ++ later) x =
      (latestAt place later x).or (latestAt place history x) := by
  simp only [latestAt, List.findRev?_eq_find?_reverse, List.reverse_append, List.find?_append]

/-- The last item of a history of one. -/
lemma latestAt_singleton (place : α → String × Int) (a : α) (x : String × Int) :
    latestAt place [a] x = if place a = x then some a else none := by
  rw [latestAt, List.findRev?_eq_find?_reverse, List.reverse_singleton, List.find?_singleton]
  simp only [decide_eq_true_eq]

/-- What is found last at a place is part of the history, and at that place. -/
lemma latestAt_eq_some (h : latestAt place history x = some a) : a ∈ history ∧ place a = x := by
  rw [latestAt, List.findRev?_eq_find?_reverse] at h
  refine ⟨List.mem_reverse.mp (List.mem_of_find?_eq_some h), ?_⟩
  have ha := List.find?_some h
  exact of_decide_eq_true ha

/-- A history that is seen through a function has the same last items. -/
lemma latestAt_map (f : β → α) (place : α → String × Int) (history : List β) (x : String × Int) :
    latestAt place (history.map f) x = (latestAt (fun b => place (f b)) history x).map f := by
  simp only [latestAt, List.findRev?_eq_find?_reverse, ← List.map_reverse, List.find?_map]
  rfl

end Histories

/-! ## Descriptions -/

/-- The description of a server whose address has been checked. -/
structure Located where
  server : Server
  address : Address
  checked : server.address = address.toValue

namespace Located

variable {d new : Located} {ds us : List Located} {x : String × Int}

/-- Where the server is found. -/
def place (d : Located) : String × Int := d.address.place

/-- The description as a member of a snapshot. -/
def member (d : Located) : Value := .server d.server

/-- The description of a server that has not answered. -/
def unreached (a : Address) : Located := ⟨ServerBuilder.new.toServer a, a, rfl⟩

/-- The comparison with a checked address never fails, and tells the places apart. -/
lemma same_located (d : Located) (a : Address) :
    (Locator.located d.server.address).same (.located a.toValue) =
      .ok (decide (d.place = a.place)) := by
  obtain ⟨s, b, h⟩ := d
  show s.address.equals a.toValue = _
  rw [h, Address.toValue_equals]
  congr 1
  rw [Bool.eq_iff_iff]
  simp only [place, Address.place, Prod.mk.injEq, Bool.and_eq_true, beq_iff_eq, decide_eq_true_eq]

/-- Descriptions with the first one at the place of a new one replaced, or with the new one at the
end. -/
def upsert (new : Located) : List Located → List Located
  | [] => [new]
  | d :: ds => if d.place = new.place then new :: ds else d :: upsert new ds

/-! ## One description more -/

/-- A place that was known keeps its position; a new one comes last. -/
lemma map_place_upsert (new : Located) (ds : List Located) :
    (upsert new ds).map place =
      if new.place ∈ ds.map place then ds.map place else ds.map place ++ [new.place] := by
  induction ds with
  | nil => rfl
  | cons d ds ih =>
    by_cases hd : d.place = new.place
    · have hmem : new.place ∈ (d :: ds).map place := by
        rw [List.map_cons, hd]
        exact List.mem_cons_self
      rw [if_pos hmem, upsert, if_pos hd, List.map_cons, List.map_cons, hd]
    · have hmem : new.place ∈ (d :: ds).map place ↔ new.place ∈ ds.map place := by
        rw [List.map_cons, List.mem_cons]
        exact or_iff_right (Ne.symm hd)
      rw [upsert, if_neg hd, List.map_cons, ih]
      by_cases hnew : new.place ∈ ds.map place
      · rw [if_pos hnew, if_pos (hmem.mpr hnew), List.map_cons]
      · rw [if_neg hnew, if_neg fun h => hnew (hmem.mp h), List.map_cons, List.cons_append]

/-- The new description is found at its place; every other place keeps what it had. -/
lemma find?_upsert (new : Located) (ds : List Located) (x : String × Int) :
    (upsert new ds).find? (·.place = x) =
      if new.place = x then some new else ds.find? (·.place = x) := by
  induction ds with
  | nil =>
    rw [upsert, List.find?_singleton]
    simp only [decide_eq_true_eq, List.find?_nil]
  | cons d ds ih =>
    by_cases hd : d.place = new.place
    · rw [upsert, if_pos hd, List.find?_cons, List.find?_cons, hd]
      by_cases hx : new.place = x
      · rw [if_pos hx, decide_eq_true hx]
      · rw [if_neg hx, decide_eq_false hx]
    · rw [upsert, if_neg hd, List.find?_cons, List.find?_cons, ih]
      by_cases hx : new.place = x
      · have hdx : d.place ≠ x := fun h => hd (h.trans hx.symm)
        rw [if_pos hx, if_pos hx, decide_eq_false hdx]
      · rw [if_neg hx, if_neg hx]

/-- Places that are all different stay so. -/
lemma nodup_upsert (new : Located) (h : (ds.map place).Nodup) :
    ((upsert new ds).map place).Nodup := by
  rw [map_place_upsert]
  by_cases hnew : new.place ∈ ds.map place
  · rw [if_pos hnew]
    exact h
  · rw [if_neg hnew]
    exact List.nodup_append_comm.mp (List.nodup_cons.mpr ⟨hnew, h⟩)

/-! ## Descriptions at different places -/

/-- Something is found at a place exactly when it is the place of one of the descriptions. -/
lemma isSome_find? (ds : List Located) (x : String × Int) :
    (ds.find? (·.place = x)).isSome = decide (x ∈ ds.map place) := by
  rw [Bool.eq_iff_iff, List.find?_isSome]
  simp only [decide_eq_true_eq, List.mem_map]

/-- Where all places are different, every description is the one found at its place. -/
lemma find?_of_mem (h : (ds.map place).Nodup) (hd : d ∈ ds) :
    ds.find? (·.place = d.place) = some d := by
  induction ds with
  | nil => cases hd
  | cons e es ih =>
    obtain ⟨he, hes⟩ := List.nodup_cons.mp h
    rcases List.mem_cons.mp hd with rfl | hd
    · rw [List.find?_cons, decide_eq_true rfl]
    · have hne : e.place ≠ d.place := fun heq => he (heq ▸ List.mem_map_of_mem hd)
      rw [List.find?_cons, decide_eq_false hne]
      exact ih hes hd

/-- Where all places are different, it makes no difference from which end they are searched. -/
lemma find?_eq_latestAt (h : (ds.map place).Nodup) (x : String × Int) :
    ds.find? (·.place = x) = latestAt place ds x := by
  rw [latestAt, List.findRev?_eq_find?_reverse]
  have hreverse : (ds.reverse.map place).Nodup := by
    rw [List.map_reverse]
    exact List.nodup_reverse.mpr h
  cases hx : ds.reverse.find? (·.place = x) with
  | none =>
    rw [List.find?_eq_none] at hx ⊢
    exact fun d hd => hx d (List.mem_reverse.mpr hd)
  | some d =>
    have hd : d ∈ ds := List.mem_reverse.mp (List.mem_of_find?_eq_some hx)
    have hplace := List.find?_some hx
    obtain rfl : d.place = x := of_decide_eq_true hplace
    exact find?_of_mem h hd

/-! ## Runs -/

/-- Descriptions after a run of new ones. -/
def upsertAll (ds us : List Located) : List Located := us.foldl (fun ds u => upsert u ds) ds

/-- Places that are all different stay so in a run. -/
lemma nodup_upsertAll (h : (ds.map place).Nodup) : ((upsertAll ds us).map place).Nodup := by
  induction us generalizing ds with
  | nil => exact h
  | cons u us ih => exact ih (nodup_upsert u h)

/-- At each place a run leaves the last description given for it, or else what was there.

**Proof sketch.** By induction on the run from its first update, for all descriptions before it:
what the rest of the run leaves is the last one given in the rest, or else what the first update
has left. -/
theorem find?_upsertAll (ds us : List Located) (x : String × Int) :
    (upsertAll ds us).find? (·.place = x) = (latestAt place us x).or (ds.find? (·.place = x)) := by
  induction us generalizing ds with
  | nil => rfl
  | cons u us ih =>
    have hcons : latestAt place (u :: us) x = (latestAt place us x).or (latestAt place [u] x) :=
      latestAt_append place [u] us x
    show (upsertAll (upsert u ds) us).find? (·.place = x) = _
    rw [ih, find?_upsert, hcons, latestAt_singleton, Option.or_assoc]
    by_cases hu : u.place = x
    · rw [if_pos hu, if_pos hu, Option.some_or]
    · rw [if_neg hu, if_neg hu, Option.none_or]

/-- A run keeps the order of the places that were known, and adds the new ones in the order in which
they first appear.

**Proof sketch.** By induction on the run from its first update, for all descriptions before it. If
the place of the first update is new, it comes right after those that were known, and later updates
at that place no longer count as new. -/
theorem map_place_upsertAll (ds us : List Located) :
    (upsertAll ds us).map place =
      ds.map place ++ ((us.map place).filter (· ∉ ds.map place)).eraseDups := by
  induction us generalizing ds with
  | nil => exact (List.append_nil _).symm
  | cons u us ih =>
    show (upsertAll (upsert u ds) us).map place = _
    rw [ih, map_place_upsert, List.map_cons, List.filter_cons]
    by_cases hu : u.place ∈ ds.map place
    · rw [if_pos hu, if_neg (by rw [decide_eq_true_eq]; exact not_not_intro hu)]
    · rw [if_neg hu, if_pos (decide_eq_true hu), List.eraseDups_cons, List.filter_filter,
        List.append_assoc, List.singleton_append]
      congr 4
      funext y
      rw [Bool.eq_iff_iff]
      simp only [List.mem_append, List.mem_singleton, decide_eq_true_eq, Bool.and_eq_true,
        Bool.not_eq_true', beq_eq_false_iff_ne, not_or]
      exact And.comm

/-- Where all places were different, a run leaves at each place what the whole history holds
last. -/
lemma find?_upsertAll_eq_latestAt (h : (ds.map place).Nodup) (us : List Located)
    (x : String × Int) :
    (upsertAll ds us).find? (·.place = x) = latestAt place (ds ++ us) x := by
  rw [find?_upsertAll, latestAt_append, find?_eq_latestAt h]

/-- What a run leaves is the last description of each place, and nothing else. -/
lemma mem_upsertAll_iff (h : (ds.map place).Nodup) :
    d ∈ upsertAll ds us ↔ latestAt place (ds ++ us) d.place = some d := by
  rw [← find?_upsertAll_eq_latestAt h]
  exact ⟨find?_of_mem (nodup_upsertAll h), List.mem_of_find?_eq_some⟩

/-! ## Snapshots -/

/-- Replacing or appending a member goes by the places. -/
lemma replaceOrAppend_member (new : Located) (ds : List Located) :
    Cluster.replaceOrAppend new.member (ds.map member) = .ok ((upsert new ds).map member) := by
  induction ds with
  | nil => rfl
  | cons d ds ih =>
    have hsame : (Locator.located d.server.address).same (.located new.server.address) =
        .ok (decide (d.place = new.place)) := by
      rw [new.checked]
      exact same_located d new.address
    rw [List.map_cons, Cluster.replaceOrAppend, ih]
    show ((Locator.located d.server.address).same (.located new.server.address) >>= _) = _
    rw [hsame]
    by_cases hd : d.place = new.place
    · rw [decide_eq_true hd, upsert, if_pos hd]
      rfl
    · rw [decide_eq_false hd, upsert, if_neg hd]
      rfl

/-- Looking a member up goes by the places. -/
lemma findAt?_member (a : Address) (ds : List Located) :
    Cluster.findAt? (.located a.toValue) (ds.map member) =
      .ok ((ds.find? (·.place = a.place)).map member) := by
  induction ds with
  | nil => rfl
  | cons d ds ih =>
    rw [List.map_cons, Cluster.findAt?, ih, List.find?_cons]
    show ((Locator.located d.server.address).same (.located a.toValue) >>= _) = _
    rw [same_located]
    cases decide (d.place = a.place) <;> rfl

end Located

namespace Cluster

open Located

variable {c : Cluster} {members : List Located}

/-- The members are servers with checked addresses. -/
lemma servers_eq_map_iff :
    c.servers = .ok (members.map (·.server)) ↔ c.members = members.map member := by
  rw [servers_eq_ok_iff, List.map_map]
  rfl

/-- One update sets the description at one place, and changes neither the window nor the source. -/
theorem update_eq (hc : c.members = members.map member) (new : Located) :
    c.update new.member = .ok ⟨none, (upsert new members).map member, c.latency, c.source⟩ := by
  rw [update, hc, replaceOrAppend_member]
  rfl

/-- What is found at an address goes by the places. -/
lemma find?_eq (hc : c.members = members.map member) (a : Address) :
    c.find? a.toValue = .ok ((members.find? (·.place = a.place)).map member) := by
  rw [find?, hc, findAt?_member]

/-- A snapshot has a member at the places of its members. -/
lemma hasServer_eq (hc : c.members = members.map member) (a : Address) :
    c.hasServer a.toValue = .ok (decide (a.place ∈ members.map place)) := by
  rw [hasServer, find?_eq hc, ← isSome_find?]
  exact congrArg Except.ok Option.isSome_map

/-- The snapshot after a run of updates, one after the other. -/
def updateAll (c : Cluster) (updates : List Value) : Checked Cluster := updates.foldlM update c

/-- A run of updates sets the descriptions one after the other. -/
lemma updateAll_eq (hc : c.members = members.map member) (updates : List Located) :
    ∃ after, c.updateAll (updates.map member) = .ok after ∧
      after.members = (upsertAll members updates).map member ∧
      after.latency = c.latency ∧ after.source = c.source := by
  induction updates generalizing c members with
  | nil => exact ⟨c, rfl, hc, rfl, rfl⟩
  | cons u us ih =>
    let next : Cluster := ⟨none, (upsert u members).map member, c.latency, c.source⟩
    obtain ⟨after, hafter, hrest⟩ := ih (c := next) rfl
    refine ⟨after, ?_, hrest⟩
    show (c.update u.member >>= fun c => c.updateAll (us.map member)) = _
    rw [update_eq hc]
    exact hafter

/-- **The last writer wins.** A run of updates of a snapshot whose members have different addresses
succeeds, whatever its length. The addresses stay different; they are those known before, in their
order, and then the new ones in the order in which they first appear. Each holds the last
description given for it, and that is what looking it up yields; at any other address nothing is
found. The window and the source stay as they are. -/
theorem updateAll_last_writer_wins (hc : c.servers = .ok (members.map (·.server)))
    (hdistinct : (members.map place).Nodup) (updates : List Located) :
    ∃ (after : Cluster) (final : List Located), c.updateAll (updates.map member) = .ok after ∧
      after.servers = .ok (final.map (·.server)) ∧
      (final.map place).Nodup ∧
      final.map place = members.map place ++
        ((updates.map place).filter (· ∉ members.map place)).eraseDups ∧
      (∀ d, d ∈ final ↔ latestAt place (members ++ updates) d.place = some d) ∧
      (∀ a : Address,
        after.find? a.toValue = .ok ((latestAt place (members ++ updates) a.place).map member) ∧
        after.hasServer a.toValue = .ok (decide (a.place ∈ final.map place))) ∧
      after.latency = c.latency ∧ after.source = c.source := by
  obtain ⟨after, hafter, hmembers, hlatency, hsource⟩ :=
    updateAll_eq (servers_eq_map_iff.mp hc) updates
  refine ⟨after, upsertAll members updates, hafter, servers_eq_map_iff.mpr hmembers,
    nodup_upsertAll hdistinct, map_place_upsertAll members updates, ?_, ?_, hlatency, hsource⟩
  · exact fun d => mem_upsertAll_iff hdistinct
  · intro a
    refine ⟨?_, ?_⟩
    · rw [find?_eq hmembers, find?_upsertAll_eq_latestAt hdistinct]
    · rw [hasServer_eq hmembers]

/-- The second of two servers answers, then a third one is discovered, which answers too. -/
theorem updateAll_last_writer_wins_three_servers :
    let unseen := fun port => Located.unreached ⟨"localhost", ⟨port, false⟩⟩
    let seen := fun port => { unseen port with
      server := { (unseen port).server with reachable := .bool true }, checked := rfl }
    let members := [unseen 1, unseen 2]
    let updates := [seen 2, unseen 3, seen 3]
    let c : Cluster := ⟨none, members.map member, ⟨15, false⟩, .default⟩
    c.servers = .ok (members.map (·.server)) ∧ (members.map place).Nodup ∧
      ∃ after, c.updateAll (updates.map member) = .ok after ∧
        after.find? (.tuple [.text "localhost", .ofInt 1]) = .ok (some (unseen 1).member) ∧
        after.find? (.tuple [.text "localhost", .ofInt 3]) = .ok (some (seen 3).member) ∧
        after.hasServer (.tuple [.text "localhost", .ofInt 4]) = .ok false := by
  intro unseen seen members updates c
  have hc : c.servers = .ok (members.map (·.server)) := rfl
  have hdistinct : (members.map place).Nodup := by decide
  obtain ⟨after, final, hafter, -, -, horder, -, hfind, -⟩ :=
    updateAll_last_writer_wins hc hdistinct updates
  have hplaces : final.map place = [("localhost", 1), ("localhost", 2), ("localhost", 3)] := by
    rw [horder]
    decide
  refine ⟨hc, hdistinct, after, hafter, (hfind ⟨"localhost", ⟨1, false⟩⟩).1,
    (hfind ⟨"localhost", ⟨3, false⟩⟩).1, ?_⟩
  have hnone := (hfind ⟨"localhost", ⟨4, false⟩⟩).2
  rw [hplaces] at hnone
  exact hnone

end Cluster

end ReadRouting
