import NodeDiscovery.Node
import NodeDiscovery.Timestamp

/-!
# Buckets

A bucket lists nodes in the order in which they were last seen, the one seen longest ago first.

## Main definitions

* `Bucket` — the list.
* `Bucket.add`, `Bucket.refresh`, `Bucket.remove` — its operations.
* `Bucket.slot?` — where a node stands.
-/

namespace NodeDiscovery

/-- A node in a bucket. -/
structure BucketEntry where
  /-- The node as it was last seen. -/
  node : Node
  /-- When it was last seen. -/
  lastSeen : Timestamp
  deriving DecidableEq

/-- Whether an entry is about the node with a given identifier. -/
def BucketEntry.isAbout (id : NodeId) (e : BucketEntry) : Bool :=
  e.node.id = id

/-- Nodes in the order in which they were last seen. -/
structure Bucket where
  /-- The entries, the one seen longest ago first. -/
  entries : List BucketEntry
  deriving DecidableEq

namespace Bucket

/-- The bucket without nodes. -/
def empty : Bucket := ⟨[]⟩

instance : Inhabited Bucket := ⟨empty⟩

/-- The number of nodes. -/
def size (b : Bucket) : Nat :=
  b.entries.length

/-- Whether there is no room for another node. -/
def isFull (capacity : Nat) (b : Bucket) : Bool :=
  capacity ≤ b.size

/-- Where a node stands, counted from the one seen longest ago. -/
def slot? (id : NodeId) (b : Bucket) : Option Nat :=
  b.entries.findIdx? (·.isAbout id)

/-- Whether a node is in the bucket. -/
def contains (id : NodeId) (b : Bucket) : Bool :=
  b.entries.any (·.isAbout id)

/-- The node with a given identifier. -/
def find? (id : NodeId) (b : Bucket) : Option Node :=
  (b.entries.find? (·.isAbout id)).map BucketEntry.node

/-- The node seen longest ago. -/
def oldest? (b : Bucket) : Option Node :=
  b.entries.head?.map BucketEntry.node

/-- Adds a node as the one seen last. -/
def add (node : Node) (now : Timestamp) (b : Bucket) : Bucket :=
  ⟨b.entries ++ [⟨node, now⟩]⟩

/-- Removes a node. -/
def remove (id : NodeId) (b : Bucket) : Bucket :=
  ⟨b.entries.eraseP (·.isAbout id)⟩

/-- Moves a node to the place of the one seen last and takes over how it is seen now. -/
def refresh (node : Node) (now : Timestamp) (b : Bucket) : Bucket :=
  (b.remove node.id).add node now

end Bucket
end NodeDiscovery
