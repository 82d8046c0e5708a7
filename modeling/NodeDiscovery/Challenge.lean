import NodeDiscovery.Dict
import NodeDiscovery.Message
import NodeDiscovery.Timestamp

/-!
# Challenges

A newcomer whose bucket is full does not push anyone out.  The node of the bucket that was seen
longest ago, the incumbent, is sent a PING.  If it answers, it keeps its place and the newcomer is
turned away; only if the PING expires the place goes to the newcomer.  A challenge is known by the
identifier of that PING.

## Main definitions

* `Challenge` — the two nodes and the start.
* `Challenges` — the challenges that are not settled.
* `Challenges.start?` — a challenge, unless its incumbent is challenged already.
-/

namespace NodeDiscovery

/-- The question whether a node loses its place in a full bucket. -/
structure Challenge where
  /-- The node whose place is at stake. -/
  incumbent : Node
  /-- The node that wants it. -/
  challenger : Node
  /-- When the challenge began. -/
  startedAt : Timestamp
  deriving DecidableEq

/-- The challenges that are not settled, under the identifiers of the PINGs that settle them. -/
abbrev Challenges := Dict MessageId Challenge

namespace Challenges

/-- Whether a peer is the incumbent of a challenge. -/
def isChallenged (id : NodeId) (c : Challenges) : Bool :=
  c.values.any (·.incumbent.id = id)

/-- The challenge to be made, unless its incumbent is challenged already. -/
def start? (incumbent challenger : Node) (now : Timestamp) (c : Challenges) : Option Challenge :=
  if isChallenged incumbent.id c then none else some ⟨incumbent, challenger, now⟩

end Challenges
end NodeDiscovery
