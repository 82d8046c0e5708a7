import NodeDiscovery.Challenge
import NodeDiscovery.Config
import NodeDiscovery.Net.AddressCache
import NodeDiscovery.RequestTracker
import NodeDiscovery.Table.DistanceTable

/-!
# The state of an explorer

An explorer looks for the peers of its network and keeps track of those that are there.  Its state
is a value: every operation takes one and gives another.  Messages that an operation wants to send
are queued in the state, and whoever called the operation takes them from there.

## Main definitions

* `Phase` — an explorer is created, then running, then finished.
* `Explorer` — the state.
* `Explorer.create` — an explorer that has not started.
-/

namespace NodeDiscovery

/-- How far the life of an explorer has come. -/
inductive Phase where
  /-- It has not started. -/
  | created
  /-- It handles messages. -/
  | running
  /-- It has ended and does nothing any more. -/
  | finished
  deriving DecidableEq, Repr, Inhabited

/-- The name of a phase. -/
def Phase.name : Phase → String
  | created => "CREATED"
  | running => "RUNNING"
  | finished => "FINISHED"

/-- The state of an explorer. -/
structure Explorer where
  /-- The settings. -/
  config : Config
  /-- How far its life has come. -/
  phase : Phase
  /-- The addresses to contact next. -/
  bootNodes : AddressSet
  /-- The requests that wait for an answer. -/
  requests : RequestTracker
  /-- The peers that have answered, with the endpoint at which they did so last. -/
  established : Dict NodeId Node
  /-- The peer established last at each endpoint, by the text of the endpoint. -/
  knownHosts : Dict String NodeId
  /-- The established peers by distance. -/
  table : DistanceTable
  /-- The challenges that are not settled. -/
  challenges : Challenges
  /-- The addresses remembered for endpoints. -/
  addresses : AddressCache
  /-- Where random choices and fresh identifiers come from. -/
  random : RandomSource
  /-- The messages to be sent. -/
  outbox : List Datagram

namespace Explorer

/-- The identifier of the explorer itself. -/
def localId (e : Explorer) : NodeId :=
  e.config.localId

/-- Looks up the endpoints to contact first, in order, each through the cache that the earlier
ones have left.  Those without an address are skipped. -/
def lookupAll (system : SystemLookup) :
    List String → AddressCache → AddressSet → AddressCache × AddressSet
  | [], cache, found => (cache, found)
  | text :: rest, cache, found =>
    match cache.lookupText system text with
    | (.ok a, cache) => lookupAll system rest cache (found.insert a)
    | (.error _, cache) => lookupAll system rest cache found

/-- An explorer that has not started. -/
def create (config : Config) (system : SystemLookup) (random : RandomSource) : Explorer :=
  let found := lookupAll system config.bootstrapNodes
    (.ofCapacity config.addressCacheSize) .empty
  { config
    phase := .created
    bootNodes := found.2
    requests := .empty
    established := .empty
    knownHosts := .empty
    table := .empty config.localId config.bucketSize
    challenges := .empty
    addresses := found.1
    random
    outbox := [] }

/-- The counts by which an explorer is watched. -/
structure Stats where
  /-- How far its life has come. -/
  phase : Phase
  /-- The number of established peers. -/
  established : Nat
  /-- The number of nodes in the table. -/
  tableSize : Nat
  /-- The number of PINGs that wait for an answer. -/
  pendingPings : Nat
  /-- The number of FIND_NODEs that wait for an answer. -/
  pendingFinds : Nat
  /-- The number of challenges that are not settled. -/
  challenges : Nat
  /-- The number of addresses remembered. -/
  cachedAddresses : Nat
  deriving DecidableEq

/-- The present counts. -/
def stats (e : Explorer) : Stats where
  phase := e.phase
  established := e.established.size
  tableSize := e.table.size
  pendingPings := e.requests.pings.size
  pendingFinds := e.requests.finds.size
  challenges := e.challenges.size
  cachedAddresses := e.addresses.size

end Explorer
end NodeDiscovery
