import ReadRouting.Cluster.Selection
import ReadRouting.Preference

set_option autoImplicit false
set_option relaxedAutoImplicit false

/-!
# Choosing a server

Which server a read is sent to, by a read preference and the current snapshot of the cluster.
That no member is eligible is no fault: it is recorded, and the caller may wait for the next
snapshot.

Tag sets are tried in order, and the first that any candidate satisfies is the one that
counts. The modes differ in their candidates and in what they fall back on.

## Main definitions

* `ReadRouting.Preference.effectiveTagSets` — the tag sets that are tried.
* `ReadRouting.Server.firstMatching` — the candidates that satisfy the first tag set that any
  of them satisfies.
* `ReadRouting.Preference.select` — the selection that a mode comes to.
* `ReadRouting.Preference.choose` — the same, with its events recorded.
-/

namespace ReadRouting

/-- No tag sets means one empty tag set, which every server satisfies. -/
def Preference.effectiveTagSets (p : Preference) : List LabelSet :=
  if p.tagSets.isEmpty then [LabelSet.empty] else p.tagSets

namespace Server

/-- The candidates that satisfy the first tag set that any of them satisfies. -/
def firstMatching (candidates : List Server) : List LabelSet → List Server
  | [] => []
  | t :: ts =>
    let found := matching t candidates
    if found.isEmpty then firstMatching candidates ts else found

/-- A draw within the latency window among the candidates that the tag sets leave. -/
def selectTagged (window : Int) (candidates : List Server) (tagSets : List LabelSet) :
    Checked Selection :=
  selectWithin window (firstMatching candidates tagSets)

end Server

/-- The selection of the primary: it is certain if there is one. -/
def Selection.ofPrimary : Option Server → Selection
  | some s => .certain s
  | none => .nobody

/-- Whether a selection comes to no server. -/
def Selection.isNobody : Selection → Bool
  | .nobody => true
  | _ => false

namespace Preference

/-- The selection of the primary, for which tag sets do not count. -/
def selectPrimary (c : Cluster) : Recorded Selection := do
  return .ofPrimary (← c.primary?)

/-- The selection among the reachable secondaries. -/
def selectSecondary (p : Preference) (c : Cluster) : Recorded Selection :=
  Recorded.ofChecked do
    Server.selectTagged c.latency.value (← c.secondaries) p.effectiveTagSets

/-- The selection among the primary and the reachable secondaries together. -/
def selectReadable (p : Preference) (c : Cluster) : Recorded Selection := do
  let candidates ← c.readable
  Recorded.ofChecked (Server.selectTagged c.latency.value candidates p.effectiveTagSets)

/-- A selection, or another one if it comes to nobody. -/
def orElse (first second : Recorded Selection) : Recorded Selection := do
  let s ← first
  if s.isNobody then second else return s

/-- The selection that a mode comes to. -/
def select (p : Preference) (c : Cluster) : Recorded Selection :=
  match p.mode with
  | .primary => selectPrimary c
  | .secondary => p.selectSecondary c
  | .primaryPreferred => orElse (selectPrimary c) (p.selectSecondary c)
  | .secondaryPreferred => orElse (p.selectSecondary c) (selectPrimary c)
  | .nearest => p.selectReadable c

/-- The selection for a read; that it comes to nobody is recorded. -/
def choose (p : Preference) (c : Cluster) : Recorded Selection := do
  let s ← p.select c
  if s.isNobody then record (.noneEligible p)
  return s

end Preference

end ReadRouting
