import NodeDiscovery.Net.Ip
import NodeDiscovery.NodeId

/-!
# Bans

Nodes that a neighbour mentions are ignored if their IP address or their identifier is banned.

## Main definitions

* `Bans` — what is banned, as two questions.
* `Bans.none` — nothing is banned.
* `BanList` — a list of bans that can be changed.
-/

namespace NodeDiscovery

/-- What is banned at some moment. -/
structure Bans where
  /-- Whether an IP address is banned. -/
  ip : IpAddress → Bool
  /-- Whether a node is banned. -/
  node : NodeId → Bool

/-- Nothing is banned. -/
def Bans.none : Bans := ⟨fun _ => false, fun _ => false⟩

/-- A list of bans. -/
structure BanList where
  /-- The banned IP addresses. -/
  ips : List IpAddress
  /-- The banned nodes. -/
  ids : List NodeId
  deriving DecidableEq

namespace BanList

/-- The list without bans. -/
def empty : BanList := ⟨[], []⟩

/-- Bans an IP address. -/
def banIp (ip : IpAddress) (l : BanList) : BanList :=
  { l with ips := if ip ∈ l.ips then l.ips else ip :: l.ips }

/-- Bans a node. -/
def banNode (id : NodeId) (l : BanList) : BanList :=
  { l with ids := if id ∈ l.ids then l.ids else id :: l.ids }

/-- Lifts the ban of an IP address and says whether there was one. -/
def unbanIp (ip : IpAddress) (l : BanList) : Bool × BanList :=
  (decide (ip ∈ l.ips), { l with ips := l.ips.filter (· ≠ ip) })

/-- Lifts the ban of a node and says whether there was one. -/
def unbanNode (id : NodeId) (l : BanList) : Bool × BanList :=
  (decide (id ∈ l.ids), { l with ids := l.ids.filter (· ≠ id) })

/-- The bans of the list. -/
def bans (l : BanList) : Bans :=
  ⟨fun ip => decide (ip ∈ l.ips), fun id => decide (id ∈ l.ids)⟩

end BanList
end NodeDiscovery
