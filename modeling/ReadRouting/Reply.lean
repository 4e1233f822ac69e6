import ReadRouting.Address
import ReadRouting.LabelSet

set_option autoImplicit false
set_option relaxedAutoImplicit false

/-!
# Replies to health checks

What a server says of itself, and the role it is taken to have. Fields are read when they are
asked for, so that a reply follows its document when that changes; only the role is fixed when
the reply is made.

## Main definitions

* `ReadRouting.Value.field` — a field of a document, or else a default.
* `ReadRouting.ServerType.ofDocument` — the role that a document reports.
* `ReadRouting.Reply.ofDocument` — a reply, classified.
* `ReadRouting.Reply.isPrimary`, `isSecondary`, `allHosts`, `tags`, `setName`,
  `maxDocumentSize` — what a reply says.
-/

namespace ReadRouting

/-- A field of a document, or else a default. A moving average has a reading too, but none
that goes by a name. -/
def Value.field (v : Value) (name : String) (fallback : Value) : Checked Value :=
  match v with
  | .mapping m => .ok ((m.lookup? (.text name)).getD fallback)
  | .average _ => .error .unsupported
  | _ => .error .noSuchField

/-- Whether a field of a document counts as true. -/
def Value.holds (v : Value) (name : String) : Checked Bool := do
  return (← v.field name .null).isTrue

/-- The role of a member of a replica set: hidden members serve no reads whatever they are. -/
def ServerType.ofMember (d : Value) : Checked ServerType := do
  if ← d.holds "hidden" then return .other
  else if ← d.holds "ismaster" then return .primary
  else if ← d.holds "secondary" then return .secondary
  else if ← d.holds "arbiterOnly" then return .arbiter
  else return .other

/-- The role that a reply reports: unknown unless the command succeeded; a ghost is a member of
a replica set that knows none; a server without a set name is a router or stands alone. -/
def ServerType.ofDocument (d : Value) : Checked ServerType := do
  if !(← d.holds "ok") then return .unknown
  else if ← d.holds "isreplicaset" then return .ghost
  else if ← d.holds "setName" then ServerType.ofMember d
  else
    match ← d.field "msg" .null with
    | .text "isdbgrid" => return .router
    | _ => return .standalone

namespace Reply

/-- The largest document that a server accepts unless it says otherwise, in bytes. -/
def defaultMaxDocumentSize : Integer := ⟨4 * (1024 * 1024), false⟩

/-- A reply, classified. -/
def ofDocument (d : Value) : Checked Reply := do
  return ⟨none, d, ← ServerType.ofDocument d⟩

/-- Whether reads for the primary may go to the server. -/
def isPrimary (r : Reply) : Bool :=
  [ServerType.primary, .standalone, .router].contains r.serverType

/-- Whether the server is a secondary. -/
def isSecondary (r : Reply) : Bool := r.serverType == .secondary

/-- The addresses in one field of the reply. -/
def hostsIn (entries : Value) : Checked (List Address) := do
  (← entries.items).mapM Address.ofNode

/-- The addresses of all members that the server knows. -/
def allHosts (r : Reply) : Checked (List Address) := do
  let hosts ← r.document.field "hosts" (.ofList [])
  let passives ← r.document.field "passives" (.ofList [])
  let arbiters ← r.document.field "arbiters" (.ofList [])
  let first ← hostsIn hosts
  let second ← hostsIn passives
  let third ← hostsIn arbiters
  return first ++ second ++ third

/-- The server's tags. -/
def tags (r : Reply) : Checked LabelSet := do
  LabelSet.ofDocument (← r.document.field "tags" (.mapping (Mapping.empty .plain)))

/-- The name of the replica set, or null. -/
def setName (r : Reply) : Checked Value := r.document.field "setName" .null

/-- The largest document that the server accepts. -/
def maxDocumentSize (r : Reply) : Checked Value :=
  r.document.field "maxBsonObjectSize" (.int defaultMaxDocumentSize)

end Reply

end ReadRouting
