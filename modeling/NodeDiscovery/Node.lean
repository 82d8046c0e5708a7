import NodeDiscovery.Distance
import NodeDiscovery.Net.Endpoint

/-!
# Nodes

A node is an identifier with the endpoint at which it is reached.  Two nodes are the same peer if
their identifiers agree, whatever their endpoints.

## Main definitions

* `Node` — the identifier and the endpoint.
* `Node.closestFirst` — nodes ranked by their distance to a target.
-/

namespace NodeDiscovery

/-- A peer: who it is and where it is reached. -/
structure Node where
  /-- Who the peer is. -/
  id : NodeId
  /-- Where the peer is reached. -/
  endpoint : Endpoint
  deriving DecidableEq, Inhabited

namespace Node

/-- Whether two nodes are the same peer, wherever they are reached. -/
def samePeer (a b : Node) : Bool :=
  a.id = b.id

/-- The abbreviated identifier and the endpoint. -/
def describe (n : Node) : String :=
  n.id.brief ++ "@" ++ n.endpoint.key

/-- The nodes ranked by distance to a target, the closest first; nodes at the same distance keep
their order. -/
def closestFirst (target : NodeId) (nodes : List Node) : List Node :=
  nodes.mergeSort fun a b => decide (a.id.distance target ≤ b.id.distance target)

end Node
end NodeDiscovery
