import NodeDiscovery.Message
import NodeDiscovery.Timestamp

/-!
# Requests that wait for an answer

A message settles a request only if its identifier, its kind and its source are the ones expected
and, where the request is bound to a node, if that node sent it.  Anything else leaves the request
as it is, so that a forged, late or repeated message cannot cancel it.

## Main definitions

* `Request` — a message that was sent and what would answer it.
* `Request.accepts` — whether a message answers it.
* `Request.hasExpired` — whether it has waited too long.
-/

namespace NodeDiscovery

/-- A message that was sent and waits for an answer. -/
structure Request where
  /-- The message. -/
  message : Message
  /-- Where it was sent, and where the answer must come from. -/
  address : SocketAddress
  /-- The kind of the answer. -/
  expects : MessageKind
  /-- When it was sent. -/
  createdAt : Timestamp
  /-- After how many milliseconds it has expired. -/
  timeout : Nat
  /-- The only node that may answer, if it is bound to one. -/
  related : Option Node := none
  /-- How often this has been tried, counted from one. -/
  attempt : UInt32 := 1
  deriving DecidableEq

namespace Request

/-- What ties the answer to the request. -/
def id (r : Request) : MessageId :=
  r.message.id

/-- Whether the request has waited as long as it may. -/
def hasExpired (r : Request) (now : Timestamp) : Bool :=
  r.timeout ≤ now.since r.createdAt

/-- Whether a node may answer. -/
def mayAnswer (r : Request) (sender : NodeId) : Bool :=
  match r.related with
  | some node => node.id = sender
  | none => true

/-- Whether a message from an address is the answer. -/
def accepts (r : Request) (source : SocketAddress) (answer : Message) : Bool :=
  answer.id = r.id && answer.kind = r.expects && source = r.address && r.mayAnswer answer.sender

/-- Requests ordered by the time at which they were sent.  The ones sent at the same time may come
in any order: in that of `ties` as far as it names them, and otherwise as they stand. -/
def oldestFirst (ties : List MessageId) (requests : List Request) : List Request :=
  (requests.mergeSort fun a b => decide (ties.idxOf a.id ≤ ties.idxOf b.id)).mergeSort
    fun a b => decide (a.createdAt ≤ b.createdAt)

end Request
end NodeDiscovery
