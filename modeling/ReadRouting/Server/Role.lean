import ReadRouting.Value.Sequence

set_option autoImplicit false
set_option relaxedAutoImplicit false

/-!
# The roles of servers

Which servers of a snapshot can serve reads, and as what. A server description keeps its flags
as they were given; here they count by their truth.

## Main definitions

* `ReadRouting.Server.isReachable`, `ReadRouting.Server.servesAsPrimary`,
  `ReadRouting.Server.servesAsSecondary` — the flags, and the two roles of a reachable server.
* `ReadRouting.Server.serverType` — the role as a server type.
* `ReadRouting.Cluster.servers` — the members of a snapshot, each of which must be a server.
* `ReadRouting.Server.clusterType` — what a list of servers says of the cluster.
-/

namespace ReadRouting

namespace Server

/-- Whether the last health check of a server succeeded. -/
def isReachable (s : Server) : Bool := s.reachable.isTrue

/-- Whether a server can serve reads as the primary. -/
def servesAsPrimary (s : Server) : Bool := s.isReachable && s.primary.isTrue

/-- Whether a server can serve reads as a secondary. -/
def servesAsSecondary (s : Server) : Bool := s.isReachable && s.secondary.isTrue

/-- The role of a server: unknown if it is unreachable or has none, and the primary's if it
has both. -/
def serverType (s : Server) : ServerType :=
  if s.servesAsPrimary then .primary
  else if s.servesAsSecondary then .secondary
  else .unknown

/-- What a list of servers says of the cluster as a whole. -/
def clusterType (servers : List Server) : ClusterType :=
  if servers.any servesAsPrimary then .withPrimary
  else if servers.any isReachable then .noPrimary
  else .unknown

end Server

/-- The members of a snapshot, each of which must be a server. -/
def Cluster.servers (c : Cluster) : Checked (List Server) := c.members.mapM Value.asServer

end ReadRouting
