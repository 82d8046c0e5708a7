import NodeDiscovery.BanList
import NodeDiscovery.Explorer.Membership
import NodeDiscovery.Random.Sampling

/-!
# How an explorer takes part in a conversation

A message from another network is ignored, and so is an answer that does not settle a request.
A PING is always answered, and a stranger who sends one is sent a PING in turn, so that it can
prove its address.  Only established peers are told about other nodes, and they are told at the
address at which they are established.

## Main definitions

* `Explorer.receive` — what a message does.
* `Explorer.onPing`, `Explorer.onPong`, `Explorer.onFindNode`, `Explorer.onNeighbors` — the four
  kinds of messages.
-/

namespace NodeDiscovery
namespace Explorer

/-- How many places of a NEIGHBORS message go to a random choice. -/
def neighborsRandomCount : Nat := 5

/-- Answers a PING.  An established peer counts as seen now, anyone else is sent a PING. -/
def onPing (now : Timestamp) (source : SocketAddress) (m : Message) (e : Explorer) : Explorer :=
  let e := e.sendPong m.id source
  if e.established.contains m.sender then e.refreshPeer m.sender now
  else (e.sendPing now source 1 none).2

/-- A PONG that settles a PING admits its sender, unless the PING was a challenge: then the
incumbent has answered and keeps its place. -/
def onPong (now : Timestamp) (source : SocketAddress) (m : Message) (e : Explorer) : Explorer :=
  match e.requests.takePing source m with
  | (none, requests) => { e with requests }
  | (some request, requests) =>
    let e := { e with requests }
    match e.challenges.get? m.id with
    | some c =>
      { e with
        challenges := e.challenges.erase m.id
        table := (e.table.refresh c.incumbent now).2 }
    | none => e.enroll now m.sender request.address

/-- Tells an established peer the nodes closest to a target. -/
def onFindNode (now : Timestamp) (m : Message) (target : NodeId) (e : Explorer) : Explorer :=
  match e.established.get? m.sender with
  | none => e
  | some requester =>
    match e.addresses.resolve requester.endpoint with
    | (.error _, cache) => { e with addresses := cache }
    | (.ok a, cache) =>
      let picked := Sampling.limited (e.table.closest target) e.config.maxNodesPerMessage
        neighborsRandomCount e.random
      let e := { e with addresses := cache, random := picked.2 }.sendNeighbors m.id picked.1 a
      { e with table := (e.table.refresh requester now).2 }

/-- Queues the address of a node that a neighbour has mentioned, unless the node is the explorer
itself, is banned or has no address. -/
def learn (bans : Bans) (node : Node) (e : Explorer) : Explorer :=
  if node.id = e.localId ∨ bans.node node.id = true then e
  else
    match e.addresses.resolve node.endpoint with
    | (.error _, cache) => { e with addresses := cache }
    | (.ok a, cache) =>
      let e := { e with addresses := cache }
      if bans.ip a.ip then e else { e with bootNodes := e.bootNodes.insert a }

/-- Queues the addresses of nodes that a neighbour has mentioned. -/
def learnAll (bans : Bans) (nodes : List Node) (e : Explorer) : Explorer :=
  nodes.foldl (fun e node => e.learn bans node) e

/-- Nodes mentioned in an answer to a FIND_NODE are contacted, up to the number that such an
answer may list.  In any case an established sender counts as seen now. -/
def onNeighbors (bans : Bans) (now : Timestamp) (source : SocketAddress) (m : Message)
    (nodes : List Node) (e : Explorer) : Explorer :=
  let e :=
    match e.requests.takeFind source m with
    | (none, requests) => { e with requests }
    | (some _, requests) =>
      ({ e with requests }.learnAll bans (nodes.take e.config.maxNodesPerMessage)).contactQueued now
  e.refreshPeer m.sender now

/-- Whether a message says that it belongs to another network. -/
def isForeign (m : Message) (e : Explorer) : Bool :=
  match m.network with
  | some network => network ≠ e.config.networkId
  | none => false

/-- What a message does that has come from an address. -/
def receive (bans : Bans) (now : Timestamp) (d : Datagram) (e : Explorer) : Explorer :=
  if e.isForeign d.message then e
  else
    match d.message.body with
    | .ping _ => e.onPing now d.address d.message
    | .pong => e.onPong now d.address d.message
    | .findNode target => e.onFindNode now d.message target
    | .neighbors nodes => e.onNeighbors bans now d.address d.message nodes

end Explorer
end NodeDiscovery
