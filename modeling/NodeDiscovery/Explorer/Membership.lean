import NodeDiscovery.Explorer.Sending

/-!
# Who belongs to the peers of an explorer

A peer is admitted once it has answered a PING.  It is then established at the address that the
answer came from, and has a place in the table.  If its bucket is full it has to wait until the
node seen longest ago fails to answer a challenge.  Where only one peer may be established at an
endpoint, a new identity at that endpoint takes the place of the old one.

## Main definitions

* `Explorer.enroll` — a peer has answered.
* `Explorer.forget` — a peer is given up.
* `Explorer.pursue` — the incumbent of a challenge is sent a PING.
-/

namespace NodeDiscovery
namespace Explorer

/-- Gives up a peer: it is no longer established and has no place in the table. -/
def forget (id : NodeId) (e : Explorer) : Explorer :=
  { e with
    table := (e.table.remove id).2
    established := e.established.erase id
    knownHosts := e.knownHosts.filter fun _ known => decide (known ≠ id) }

/-- Marks an established peer as seen now; nothing happens for any other. -/
def refreshPeer (id : NodeId) (now : Timestamp) (e : Explorer) : Explorer :=
  match e.established.get? id with
  | some node => { e with table := (e.table.refresh node now).2 }
  | none => e

/-- Sends the incumbent of a challenge a PING that only the incumbent can answer, and lets the
challenge depend on it.  A PING already under way to its address is bound to it. -/
def pursue (now : Timestamp) (a : SocketAddress) (attempt : UInt32) (c : Challenge)
    (e : Explorer) : Explorer :=
  let sent := e.sendPing now a attempt (some c.incumbent)
  { sent.2 with
    requests := sent.2.requests.bind sent.1 c.incumbent
    challenges := sent.2.challenges.insert sent.1 c }

/-- Challenges the incumbent of a full bucket, unless it is challenged already. -/
def challenge (now : Timestamp) (incumbent challenger : Node) (e : Explorer) : Explorer :=
  match Challenges.start? incumbent challenger now e.challenges with
  | none => e
  | some c =>
    match e.addresses.resolve incumbent.endpoint with
    | (.ok a, cache) => { e with addresses := cache }.pursue now a 1 c
    | (.error _, cache) => { e with addresses := cache }

/-- Where only one peer may be established at an endpoint, gives up any other one there. -/
def vacate (node : Node) (e : Explorer) : Explorer :=
  if e.config.allowMultiple then e
  else
    match e.knownHosts.get? node.endpoint.key with
    | some prior => if prior = node.id then e else e.forget prior
    | none => e

/-- The known hosts without the earlier endpoint of a peer that has moved. -/
def hostsWithoutEarlier (node : Node) (e : Explorer) : Dict String NodeId :=
  match e.established.get? node.id with
  | some earlier =>
    if earlier.endpoint.key ≠ node.endpoint.key
        ∧ e.knownHosts.get? earlier.endpoint.key = some node.id then
      e.knownHosts.erase earlier.endpoint.key
    else e.knownHosts
  | none => e.knownHosts

/-- Establishes a peer that has a place in the given table. -/
def establish (node : Node) (table : DistanceTable) (e : Explorer) : Explorer :=
  { e with
    table
    knownHosts := (e.hostsWithoutEarlier node).insert node.endpoint.key node.id
    established := e.established.insert node.id node }

/-- Gives a peer a place in the table, or challenges the incumbent of its full bucket. -/
def place (now : Timestamp) (node : Node) (e : Explorer) : Explorer :=
  match e.table.add node now with
  | (.ok (.conflict incumbent), table) => { e with table }.challenge now incumbent node
  | (.ok .added, table) => e.establish node table
  | (.ok .refreshed, table) => e.establish node table
  | (.error _, table) => { e with table }

/-- Admits a peer that has answered a PING from an address. -/
def enroll (now : Timestamp) (id : NodeId) (a : SocketAddress) (e : Explorer) : Explorer :=
  if id = e.localId then e
  else (e.vacate ⟨id, .ofAddress a⟩).place now ⟨id, .ofAddress a⟩

end Explorer
end NodeDiscovery
