import NodeDiscovery.Dict
import NodeDiscovery.Request

/-!
# The requests under way

PING and FIND_NODE requests wait for their answers in two separate maps, each under the identifier
of its message.

## Main definitions

* `RequestTracker` — the two maps.
* `RequestTracker.trackPing`, `RequestTracker.trackFind` — a request was sent.
* `RequestTracker.takePing`, `RequestTracker.takeFind` — a message may be an answer.
* `RequestTracker.drainPings`, `RequestTracker.drainFinds` — the requests that have expired.
-/

namespace NodeDiscovery

/-- Requests under the identifiers of their messages. -/
abbrev PendingRequests := Dict MessageId Request

namespace PendingRequests

/-- Adds a request. -/
def track (request : Request) (p : PendingRequests) : PendingRequests :=
  p.insert request.id request

/-- Takes out the request that a message from an address answers, if there is one. -/
def take (source : SocketAddress) (answer : Message) (p : PendingRequests) :
    Option Request × PendingRequests :=
  match p.get? answer.id with
  | some request =>
    if request.accepts source answer then (some request, p.erase answer.id) else (none, p)
  | none => (none, p)

/-- Takes out all requests that have expired, the oldest first. -/
def drain (now : Timestamp) (ties : List MessageId) (p : PendingRequests) :
    List Request × PendingRequests :=
  (Request.oldestFirst ties (p.values.filter (·.hasExpired now)),
    p.filter fun _ request => !request.hasExpired now)

end PendingRequests

/-- All requests that wait for an answer. -/
structure RequestTracker where
  /-- The PINGs. -/
  pings : PendingRequests
  /-- The FIND_NODEs. -/
  finds : PendingRequests

namespace RequestTracker

/-- No requests. -/
def empty : RequestTracker := ⟨.empty, .empty⟩

instance : Inhabited RequestTracker := ⟨empty⟩

/-- Adds a PING that was sent. -/
def trackPing (request : Request) (t : RequestTracker) : RequestTracker :=
  { t with pings := PendingRequests.track request t.pings }

/-- Adds a FIND_NODE that was sent. -/
def trackFind (request : Request) (t : RequestTracker) : RequestTracker :=
  { t with finds := PendingRequests.track request t.finds }

/-- The PING under way to an address. -/
def pingTo? (a : SocketAddress) (t : RequestTracker) : Option Request :=
  t.pings.values.find? (·.address = a)

/-- The addresses that a PING is under way to. -/
def pingAddresses (t : RequestTracker) : List SocketAddress :=
  t.pings.values.map Request.address

/-- Binds a PING to a node: only that node may answer it from now on. -/
def bind (id : MessageId) (node : Node) (t : RequestTracker) : RequestTracker :=
  { t with pings := t.pings.adjust id fun request => { request with related := some node } }

/-- Takes out the PING that a message from an address answers, if there is one. -/
def takePing (source : SocketAddress) (answer : Message) (t : RequestTracker) :
    Option Request × RequestTracker :=
  let (request, pings) := PendingRequests.take source answer t.pings
  (request, { t with pings })

/-- Takes out the FIND_NODE that a message from an address answers, if there is one. -/
def takeFind (source : SocketAddress) (answer : Message) (t : RequestTracker) :
    Option Request × RequestTracker :=
  let (request, finds) := PendingRequests.take source answer t.finds
  (request, { t with finds })

/-- Takes out the PINGs that have expired, the oldest first. -/
def drainPings (now : Timestamp) (ties : List MessageId) (t : RequestTracker) :
    List Request × RequestTracker :=
  let (expired, pings) := PendingRequests.drain now ties t.pings
  (expired, { t with pings })

/-- Takes out the FIND_NODEs that have expired, the oldest first. -/
def drainFinds (now : Timestamp) (ties : List MessageId) (t : RequestTracker) :
    List Request × RequestTracker :=
  let (expired, finds) := PendingRequests.drain now ties t.finds
  (expired, { t with finds })

end RequestTracker
end NodeDiscovery
