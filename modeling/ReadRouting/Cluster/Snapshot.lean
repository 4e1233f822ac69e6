import ReadRouting.Settings
import ReadRouting.Value.Shown

set_option autoImplicit false
set_option relaxedAutoImplicit false

/-!
# Snapshots of a cluster

Making snapshots, asking them for their members by role or by address, and updating them after
a health check.

## Main definitions

* `ReadRouting.Cluster.ofMembers`, `ReadRouting.Cluster.ofSettings` — new snapshots.
* `ReadRouting.Cluster.primary?`, `secondaries`, `readable` — the reachable primary, the
  reachable secondaries, and all of them in order of discovery.
* `ReadRouting.Cluster.type` — what is known of the cluster as a whole.
* `ReadRouting.Cluster.find?`, `ReadRouting.Cluster.hasServer` — the member at an address, and
  whether there is one.
* `ReadRouting.Cluster.update` — the snapshot with the latest description of one server.

## Implementation notes

A replica set has one primary at most. If a snapshot shows several, it was taken during an
election: the first one in order of discovery is used, and an event records the others.

The primary that is used is told from the others by its place and by its number. A server without a
number was just made, and is no other server of the list, however like it is to one.
-/

namespace ReadRouting

namespace Cluster

/-- A snapshot of the members that a value yields. -/
def ofMembers (members latency source : Value) : Checked Cluster := do
  let items ← members.items
  let window ← Checked.nonNegative (.text "acceptable_latency_ms") latency
  let given ← Checked.randomSource (.text "random_source") source
  return ⟨none, items, window, given.getD RandomSource.default⟩

/-- A snapshot of members under given settings. -/
def ofSettings (settings members : Value) : Checked Cluster := do
  match settings with
  | .settings s =>
    return ⟨none, ← members.items, s.latency, s.source.getD RandomSource.default⟩
  | .cluster c => return ⟨none, ← members.items, c.latency, c.source⟩
  | _ => throw .noSuchField

/-- The first reachable primary in order of discovery. -/
def firstPrimary? (servers : List Server) : Option Server := servers.find? (·.servesAsPrimary)

/-- The reachable primary that is used, if there is one; several are recorded. -/
def primary? (c : Cluster) : Recorded (Option Server) := do
  let servers ← Recorded.ofChecked c.servers
  c.warnIfSplit
  return firstPrimary? servers

/-- The reachable secondaries in order of discovery. -/
def secondaries (c : Cluster) : Checked (List Server) := do
  return (← c.servers).filter (·.servesAsSecondary)

/-- Whether a server is one and the same object as the primary that is used, not just one like
it. -/
def isThe (primary s : Server) : Bool := primary.ident.same s.ident

/-- The servers that can serve reads beside the primary that is used: the same object, where it is
listed again, and the reachable secondaries. -/
def readableBeside (primary : Server) (servers : List Server) : List Server :=
  servers.filter fun s => isThe primary s || s.servesAsSecondary

/-- The servers that can serve reads at all: the primary that is used, and the reachable
secondaries. -/
def readableOf (servers : List Server) : List Server :=
  match servers.dropWhile (!·.servesAsPrimary) with
  | [] => servers.filter (·.servesAsSecondary)
  | primary :: after =>
    readableBeside primary (servers.takeWhile (!·.servesAsPrimary)) ++
      primary :: readableBeside primary after

/-- The primary that is used and the reachable secondaries in order of discovery. -/
def readable (c : Cluster) : Recorded (List Server) := do
  let _ ← c.primary?
  return readableOf (← Recorded.ofChecked c.servers)

/-- What is known of the cluster as a whole. -/
def type (c : Cluster) : Recorded ClusterType := do
  let servers ← Recorded.ofChecked c.servers
  c.warnIfSplit
  return Server.clusterType servers

end Cluster

/-- Where a member is found: at its address; or, for a builder, nowhere but with itself. -/
inductive Locator
  | located (address : Value)
  | ownOf (builder : Ident)

/-- Where a member is found. -/
def Value.locator : Value → Checked Locator
  | .server s => .ok (.located s.address)
  | .builder b => .ok (.ownOf b.ident)
  | _ => .error .noSuchField

/-- Whether two members are found at the same place. -/
def Locator.same : Locator → Locator → Checked Bool
  | located a, located b => a.equals b
  | ownOf i, ownOf j => .ok (i == j)
  | _, _ => .ok false

namespace Cluster

/-- The first of several members that is found at a place. -/
def findAt? (place : Locator) : List Value → Checked (Option Value)
  | [] => .ok none
  | v :: vs => do
    if ← (← v.locator).same place then return some v else findAt? place vs

/-- The member at an address, if there is one. -/
def find? (c : Cluster) (address : Value) : Checked (Option Value) :=
  findAt? (.located address) c.members

/-- Whether there is a member at an address. -/
def hasServer (c : Cluster) (address : Value) : Checked Bool := do
  return (← c.find? address).isSome

/-- Members with the first one at the place of a new one replaced, or with the new one at the
end. -/
def replaceOrAppend (new : Value) : List Value → Checked (List Value)
  | [] => .ok [new]
  | v :: vs => do
    if ← (← v.locator).same (← new.locator) then return new :: vs
    else return v :: (← replaceOrAppend new vs)

/-- The snapshot with the latest description of one server: it takes the place of the earlier
description, or comes last if the server is new. -/
def update (c : Cluster) (new : Value) : Checked Cluster := do
  return ⟨none, ← replaceOrAppend new c.members, c.latency, c.source⟩

end Cluster

end ReadRouting
