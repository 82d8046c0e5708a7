import NodeDiscovery.Explorer.Membership
import NodeDiscovery.Random.Sampling

/-!
# The rounds of an explorer

From time to time an explorer expires the requests that wait for too long, and from time to time
it asks the peers closest to it for more nodes and checks whether some of its peers are there.

A PING that has expired is sent again, up to a number of attempts.  After the last one the node
that it was bound to is given up, and if it was a challenge, the challenger is sent a PING so that
it can take the place.

## Main definitions

* `Explorer.purge` — the round of expiring requests.
* `Explorer.explore` — the round of asking and checking.
-/

namespace NodeDiscovery
namespace Explorer

/-- How many places of the round of asking go to a random choice. -/
def findNodeRandomCount : Nat := 5

/-- How many places of the round of checking go to a random choice. -/
def checkRandomCount : Nat := 10

/-- Sends an expired PING again.  A challenge that depended on it depends on the new one. -/
def retry (now : Timestamp) (request : Request) (challenge : Option Challenge) (e : Explorer) :
    Explorer :=
  match challenge with
  | some c => e.pursue now request.address (request.attempt + 1) c
  | none => (e.sendPing now request.address (request.attempt + 1) request.related).2

/-- Gives up the node that a PING was bound to. -/
def giveUp (request : Request) (e : Explorer) : Explorer :=
  match request.related with
  | some node => e.forget node.id
  | none => e

/-- Sends a PING to the challenger of a challenge that its incumbent has lost. -/
def recheckChallenger (now : Timestamp) (challenge : Option Challenge) (e : Explorer) :
    Explorer :=
  match challenge with
  | none => e
  | some c =>
    match e.addresses.resolve c.challenger.endpoint with
    | (.ok a, cache) => ({ e with addresses := cache }.sendPing now a 1 none).2
    | (.error _, cache) => { e with addresses := cache }

/-- What becomes of a PING that has expired. -/
def expirePing (now : Timestamp) (request : Request) (e : Explorer) : Explorer :=
  let challenge := e.challenges.get? request.id
  let e := { e with challenges := e.challenges.erase request.id }
  if request.attempt < e.config.maxPingAttempts then e.retry now request challenge
  else (e.giveUp request).recheckChallenger now challenge

/-- Deals with PINGs that have expired, one after the other. -/
def expirePings (now : Timestamp) (expired : List Request) (e : Explorer) : Explorer :=
  expired.foldl (fun e request => e.expirePing now request) e

/-- Expires the requests that wait for too long.  A FIND_NODE is not sent again. -/
def purge (now : Timestamp) (ties : List MessageId) (e : Explorer) : Explorer :=
  let pings := e.requests.drainPings now ties
  let e := { e with requests := pings.2 }.expirePings now pings.1
  { e with requests := (e.requests.drainFinds now ties).2 }

/-- Asks a node for more nodes. -/
def ask (now : Timestamp) (node : Node) (e : Explorer) : Explorer :=
  match e.addresses.resolve node.endpoint with
  | (.ok a, cache) => { e with addresses := cache }.sendFindNode now a node
  | (.error _, cache) => { e with addresses := cache }

/-- Checks whether a node is there. -/
def check (now : Timestamp) (node : Node) (e : Explorer) : Explorer :=
  match e.addresses.resolve node.endpoint with
  | (.ok a, cache) => ({ e with addresses := cache }.sendPing now a 1 (some node)).2
  | (.error _, cache) => { e with addresses := cache }

/-- Asks each of some nodes for more nodes. -/
def askAll (now : Timestamp) (nodes : List Node) (e : Explorer) : Explorer :=
  nodes.foldl (fun e node => e.ask now node) e

/-- Checks whether each of some nodes is there. -/
def checkAll (now : Timestamp) (nodes : List Node) (e : Explorer) : Explorer :=
  nodes.foldl (fun e node => e.check now node) e

/-- Asks some of the peers closest to the explorer for more nodes, then checks whether some of
them are there. -/
def explore (now : Timestamp) (e : Explorer) : Explorer :=
  let ranked := e.table.closest e.localId
  let toAsk := Sampling.limited ranked e.config.maxNodesToAsk findNodeRandomCount e.random
  let e := { e with random := toAsk.2 }.askAll now toAsk.1
  let toCheck := Sampling.limited ranked e.config.maxNodesToCheck checkRandomCount e.random
  { e with random := toCheck.2 }.checkAll now toCheck.1

end Explorer
end NodeDiscovery
