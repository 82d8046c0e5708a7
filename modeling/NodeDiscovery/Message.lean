import NodeDiscovery.MessageId
import NodeDiscovery.Node

/-!
# Messages

Peers exchange four kinds of messages.  A PING is answered by a PONG, and a FIND_NODE, which asks
for the nodes closest to a target, by a NEIGHBORS.  Every message carries the identifier that ties
an answer to its request, the identity that its signature proves, and perhaps the network it
belongs to.

## Main definitions

* `Message`, `Message.Body` — a message and what is particular to its kind.
* `MessageKind` — the four kinds, their names and their codes.
* `Datagram` — a message with the address it goes to or comes from.
-/

namespace NodeDiscovery

/-- The four kinds of messages. -/
inductive MessageKind where
  /-- Asks whether a peer is there. -/
  | ping
  /-- The answer to a PING. -/
  | pong
  /-- Asks for the nodes closest to a target. -/
  | findNode
  /-- The answer to a FIND_NODE. -/
  | neighbors
  deriving DecidableEq, Repr, Inhabited

namespace MessageKind

/-- The byte that stands for a kind. -/
def code : MessageKind → Nat
  | ping => 1
  | pong => 2
  | findNode => 3
  | neighbors => 4

/-- The name of a kind. -/
def name : MessageKind → String
  | ping => "PING"
  | pong => "PONG"
  | findNode => "FIND_NODE"
  | neighbors => "NEIGHBORS"

/-- All kinds. -/
def all : List MessageKind :=
  [ping, pong, findNode, neighbors]

/-- The kind of a given name. -/
def ofName? (name : String) : Option MessageKind :=
  all.find? (·.name = name)

end MessageKind

/-- What is particular to each kind of message. -/
inductive Message.Body where
  /-- The endpoint at which the sender believes to be reached. -/
  | ping (sender : Endpoint)
  /-- Nothing. -/
  | pong
  /-- The identifier whose neighbourhood is asked for. -/
  | findNode (target : NodeId)
  /-- The nodes known around the target. -/
  | neighbors (nodes : List Node)
  deriving DecidableEq, Inhabited

/-- A message whose signature was checked. -/
structure Message where
  /-- What ties an answer to its request. -/
  id : MessageId
  /-- The identity that the signature proves. -/
  sender : NodeId
  /-- The network that the message belongs to, if it says so. -/
  network : Option UInt32
  /-- What is particular to the kind. -/
  body : Message.Body
  deriving DecidableEq, Inhabited

namespace Message

/-- The kind of a message. -/
def kind (m : Message) : MessageKind :=
  match m.body with
  | .ping _ => .ping
  | .pong => .pong
  | .findNode _ => .findNode
  | .neighbors _ => .neighbors

/-- Whether two lists name the same peers in the same order. -/
def samePeers : List Node → List Node → Bool
  | [], [] => true
  | a :: as, b :: bs => a.samePeer b && samePeers as bs
  | _, _ => false

/-- Whether two bodies say the same.  Listed nodes count as the same if they are the same peer. -/
def Body.agrees : Body → Body → Bool
  | neighbors as, neighbors bs => samePeers as bs
  | a, b => a = b

/-- Whether two messages say the same.  Listed nodes count as the same if they are the same
peer. -/
def agrees (a b : Message) : Bool :=
  a.id = b.id && a.sender = b.sender && a.network = b.network && a.body.agrees b.body

end Message

/-- A message under way: with the address it goes to, or, once it has arrived, the address it came
from. -/
structure Datagram where
  /-- The message. -/
  message : Message
  /-- Where it goes to or came from. -/
  address : SocketAddress
  deriving DecidableEq

end NodeDiscovery
