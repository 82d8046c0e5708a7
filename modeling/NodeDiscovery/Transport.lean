import NodeDiscovery.Message

/-!
# Transports

Where messages go that an explorer hands over.  A channel is a bounded queue that somebody empties
at its other end; a recorder keeps everything for later inspection.

## Main definitions

* `TransportError` — why a message was not taken.
* `Channel` — the bounded queue.
* `Recorder` — the messages taken so far.
-/

namespace NodeDiscovery

/-- Why a message was not taken. -/
inductive TransportError where
  /-- Nobody is at the other end any more. -/
  | channelClosed
  /-- The message was turned down for the given reason. -/
  | rejected (reason : String)
  deriving DecidableEq, Repr

/-- The report of the failure. -/
def TransportError.message : TransportError → String
  | channelClosed => "transport channel closed"
  | rejected reason => "transport rejected message: " ++ reason

/-! ### Channels -/

/-- A bounded queue of messages. -/
structure Channel where
  /-- How many messages wait at most. -/
  capacity : Nat
  /-- The messages that wait, the first one to be received first. -/
  queue : List Datagram
  /-- Whether somebody is at the other end. -/
  isOpen : Bool
  deriving DecidableEq

namespace Channel

/-- An empty channel for the given number of messages, at least one. -/
def ofCapacity (capacity : Nat) : Channel :=
  ⟨max capacity 1, [], true⟩

/-- Puts a message at the end of the queue, unless it is full. -/
def send (d : Datagram) (c : Channel) : Except TransportError Channel :=
  if !c.isOpen then .error .channelClosed
  else if c.queue.length < c.capacity then .ok { c with queue := c.queue ++ [d] }
  else .error (.rejected "outbound queue full")

/-- Takes the first message from the queue. -/
def receive (c : Channel) : Option Datagram × Channel :=
  match c.queue with
  | [] => (none, c)
  | d :: rest => (some d, { c with queue := rest })

/-- Leaves the other end: the messages that wait are lost. -/
def close (c : Channel) : Channel :=
  { c with queue := [], isOpen := false }

end Channel

/-! ### Recorders -/

/-- The messages taken so far, in order. -/
structure Recorder where
  /-- The messages. -/
  sent : List Datagram
  deriving DecidableEq

namespace Recorder

/-- No message was taken yet. -/
def empty : Recorder := ⟨[]⟩

/-- Takes some messages. -/
def record (sent : List Datagram) (r : Recorder) : Recorder :=
  ⟨r.sent ++ sent⟩

/-- The messages of one kind. -/
def sentOf (kind : MessageKind) (r : Recorder) : List Datagram :=
  r.sent.filter (·.message.kind = kind)

/-- The last message to an address. -/
def lastTo? (a : SocketAddress) (r : Recorder) : Option Message :=
  (r.sent.reverse.find? (·.address = a)).map Datagram.message

end Recorder
end NodeDiscovery
