import NodeDiscovery.Node

/-!
# Configuration

What a peer is told before it starts: who it is, whom to contact first, which network it belongs
to, and how patient and how big it is.

## Main definitions

* `Config` — the settings.
* `Config.standard`, `Config.brisk` — the settings where nothing else is asked for, and some with
  short periods and small buckets.
-/

namespace NodeDiscovery

/-- The settings of a peer.  All times are in milliseconds. -/
structure Config where
  /-- The peer itself. -/
  localNode : Node
  /-- The endpoints to contact first, as texts. -/
  bootstrapNodes : List String
  /-- The network that the peer belongs to. -/
  networkId : UInt32
  /-- How long a request waits for its answer. -/
  requestTimeout : Nat
  /-- The time between two rounds of asking for more nodes. -/
  refreshPeriod : Nat
  /-- The time between two rounds of expiring requests. -/
  cleanPeriod : Nat
  /-- Whether several peers may be established at one endpoint. -/
  allowMultiple : Bool
  /-- How many addresses are remembered. -/
  addressCacheSize : Nat
  /-- How many nodes a bucket has room for. -/
  bucketSize : Nat
  /-- How many nodes a NEIGHBORS message lists at most. -/
  maxNodesPerMessage : Nat
  /-- How many nodes a round asks for more nodes at most. -/
  maxNodesToAsk : Nat
  /-- How many nodes a round checks for being there at most. -/
  maxNodesToCheck : Nat
  /-- How many PINGs go unanswered before a node is given up. -/
  maxPingAttempts : UInt32
  deriving DecidableEq

namespace Config

/-- The settings where nothing else is asked for. -/
def standard (localNode : Node) : Config where
  localNode := localNode
  bootstrapNodes := []
  networkId := 0
  requestTimeout := 3000
  refreshPeriod := 60000
  cleanPeriod := 15000
  allowMultiple := true
  addressCacheSize := 200
  bucketSize := 16
  maxNodesPerMessage := 20
  maxNodesToAsk := 24
  maxNodesToCheck := 16
  maxPingAttempts := 3

/-- Settings with short periods and small buckets, for trying things out. -/
def brisk (localNode : Node) : Config :=
  { standard localNode with
    requestTimeout := 1000
    refreshPeriod := 5000
    cleanPeriod := 1000
    bucketSize := 3 }

/-- The identifier of the peer itself. -/
def localId (c : Config) : NodeId :=
  c.localNode.id

/-- Whether two configurations make the same settings for the same peer, wherever it is
reached. -/
def agrees (a b : Config) : Bool :=
  a.localNode.samePeer b.localNode && { a with localNode := b.localNode } = b

end Config
end NodeDiscovery
