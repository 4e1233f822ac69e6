import ReadRouting.Cluster.Snapshot
import ReadRouting.RandomSource
import ReadRouting.Value.Order

set_option autoImplicit false
set_option relaxedAutoImplicit false

/-!
# Selection among candidates

Narrowing candidates down by labels and by latency. The latency window begins at the smallest
ping time among the candidates that are left, so labels go first.

Selection ends with at most one draw. It is split in two: a `ReadRouting.Selection` tells which
servers are offered to the draw, and `ReadRouting.Selection.resolve` makes it.

## Main definitions

* `ReadRouting.Server.satisfies` — whether a server carries every label of a tag set.
* `ReadRouting.Server.matching` — the candidates that do.
* `ReadRouting.Server.withinWindow` — the candidates within the latency window.
* `ReadRouting.Selection` — nobody, a certain server, or a draw from a pool.
* `ReadRouting.Cluster.filterByLabels`, `ReadRouting.Cluster.selectByLatency` — the same for
  candidates and tag sets given as values.
-/

namespace ReadRouting

/-- What a selection comes to before the draw. -/
inductive Selection
  | nobody
  | certain (s : Server)
  | draw (pool : List Server)

/-- The server that a selection ends with. -/
def Selection.resolve (r : RandomSource) (earlier : Nat) : Selection → Checked (Option Server)
  | .nobody => .ok none
  | .certain s => .ok (some s)
  | .draw pool => do return some (← r.draw earlier pool)

/-- The items that pass a check which may fail; the first that fails ends it. -/
def Checked.filter {α : Type} (p : α → Checked Bool) : List α → Checked (List α)
  | [] => .ok []
  | a :: as => do
    let keep ← p a
    let rest ← Checked.filter p as
    return if keep then a :: rest else rest

namespace Server

/-- Whether a server carries every label of a tag set. -/
def satisfies (t : LabelSet) (s : Server) : Bool := s.labels.includes t

/-- The candidates that carry every label of a tag set. -/
def matching (t : LabelSet) (candidates : List Server) : List Server :=
  candidates.filter (satisfies t)

/-- The smaller of the smallest ping time so far and that of one more server. -/
def fasterPing (fastest : Option Value) (s : Server) : Checked (Option Value) :=
  match fastest with
  | none => .ok (some s.ping)
  | some p => do
    if ← s.ping.less p then return some s.ping else return some p

/-- The smallest ping time of several servers, the first of equal ones. -/
def fastestPing (servers : List Server) : Checked (Option Value) :=
  servers.foldlM fasterPing none

/-- One millisecond in nanoseconds. -/
def nanosPerMilli : Int := 1000 * 1000

/-- The candidates whose ping time is at most `window` milliseconds above the smallest. -/
def withinWindow (window : Int) (candidates : List Server) : Checked (List Server) := do
  match ← fastestPing candidates with
  | none => return []
  | some fastest =>
    let bound ← (← fastest.number).add (window * nanosPerMilli)
    Checked.filter (fun s => s.ping.atMost bound) candidates

/-- A draw among the candidates within the window; without candidates there is none. -/
def selectWithin (window : Int) (candidates : List Server) : Checked Selection :=
  if candidates.isEmpty then .ok .nobody
  else do return .draw (← withinWindow window candidates)

end Server

namespace Cluster

/-- The candidates that carry every label of a tag set, which is checked first. An empty tag
set lets everything pass. -/
def filterByLabels (candidates labelSet : Value) : Checked (List Value) := do
  let t ← Checked.tagSet (.text "label_set") labelSet
  let items ← candidates.items
  if t.labels.isEmpty then return items
  else
    let servers ← items.mapM Value.asServer
    return (Server.matching t servers).map .server

/-- A draw among the candidates that are within the latency window of the fastest. Candidates
that do not even count as something are none. -/
def selectByLatency (c : Cluster) (candidates : Value) : Checked Selection := do
  if !candidates.isTrue then return .nobody
  else
    let items ← candidates.items
    let known := items.takeWhile fun v => match v with | .server _ => true | _ => false
    let _ ← Server.fastestPing (known.filterMap fun v => v.asServer.toOption)
    Server.selectWithin c.latency.value (← items.mapM Value.asServer)

end Cluster

end ReadRouting
