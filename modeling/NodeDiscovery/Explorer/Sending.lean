import NodeDiscovery.Explorer.State

/-!
# What an explorer sends

Every request is tracked before it is queued, so that no answer can arrive for a request that
nobody knows of.  There is at most one PING under way to an address: another one is not sent, and
the first one stands for it.

## Main definitions

* `Explorer.sendPing`, `Explorer.sendFindNode` — requests.
* `Explorer.sendPong`, `Explorer.sendNeighbors` — answers.
* `Explorer.contactQueued` — a PING to every address that waits for one.
-/

namespace NodeDiscovery
namespace Explorer

/-- Queues a message. -/
def send (m : Message) (a : SocketAddress) (e : Explorer) : Explorer :=
  { e with outbox := e.outbox ++ [⟨m, a⟩] }

/-- A message from this explorer to a peer of its network. -/
def compose (e : Explorer) (id : MessageId) (body : Message.Body) : Message :=
  ⟨id, e.localId, some e.config.networkId, body⟩

/-- A request of this explorer that is sent now. -/
def request (e : Explorer) (now : Timestamp) (m : Message) (a : SocketAddress)
    (expects : MessageKind) (related : Option Node) (attempt : UInt32) : Request :=
  ⟨m, a, expects, now, e.config.requestTimeout, related, attempt⟩

/-- Sends a PING, unless one is under way to the address; gives the identifier of the PING that
is under way now. -/
def sendPing (now : Timestamp) (a : SocketAddress) (attempt : UInt32) (related : Option Node)
    (e : Explorer) : MessageId × Explorer :=
  match e.requests.pingTo? a with
  | some pending => (pending.id, e)
  | none =>
    let drawn := MessageId.draw e.random
    let m := e.compose drawn.1 (.ping e.config.localNode.endpoint)
    let tracked := e.requests.trackPing (e.request now m a .pong related attempt)
    (drawn.1, { e with random := drawn.2, requests := tracked }.send m a)

/-- Answers a PING. -/
def sendPong (ping : MessageId) (a : SocketAddress) (e : Explorer) : Explorer :=
  e.send (e.compose ping .pong) a

/-- Asks a node for the nodes around this explorer. -/
def sendFindNode (now : Timestamp) (a : SocketAddress) (node : Node) (e : Explorer) : Explorer :=
  let drawn := MessageId.draw e.random
  let m := e.compose drawn.1 (.findNode e.localId)
  let tracked := e.requests.trackFind (e.request now m a .neighbors (some node) 1)
  { e with random := drawn.2, requests := tracked }.send m a

/-- Answers a FIND_NODE. -/
def sendNeighbors (find : MessageId) (nodes : List Node) (a : SocketAddress) (e : Explorer) :
    Explorer :=
  e.send (e.compose find (.neighbors nodes)) a

/-- Sends a PING to each of some addresses. -/
def contactAll (now : Timestamp) (targets : List SocketAddress) (e : Explorer) : Explorer :=
  targets.foldl (fun e a => (e.sendPing now a 1 none).2) e

/-- Forgets the queued addresses that a PING is under way to. -/
def dequeueContacted (e : Explorer) : Explorer :=
  { e with bootNodes := e.bootNodes.filter fun a => decide (a ∉ e.requests.pingAddresses) }

/-- Sends a PING to every queued address, in ascending order, and forgets them. -/
def contactQueued (now : Timestamp) (e : Explorer) : Explorer :=
  (e.contactAll now e.bootNodes.toList).dequeueContacted

end Explorer
end NodeDiscovery
