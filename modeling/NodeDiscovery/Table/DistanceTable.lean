import NodeDiscovery.Table.Bucket

/-!
# The distance table

The nodes that a peer knows, in 256 buckets by the number of leading bits that their identifiers
share with its own.  A bucket has room for a fixed number of nodes.  A full bucket never makes room
by itself: a newcomer is reported as a conflict with the node seen longest ago, and whoever keeps
the table finds out whether that node is still there.

## Main definitions

* `DistanceTable` — the table.
* `DistanceTable.add`, `DistanceTable.refresh`, `DistanceTable.remove` — its operations.
* `DistanceTable.nodes`, `DistanceTable.closest` — its contents, and their ranking by distance.
-/

namespace NodeDiscovery

/-- The nodes known to a peer, in buckets by their distance. -/
structure DistanceTable where
  /-- The identifier of the peer that keeps the table. -/
  localId : NodeId
  /-- How many nodes a bucket has room for. -/
  bucketSize : Nat
  /-- The buckets, the most distant nodes first. -/
  buckets : Vector Bucket 256

/-- What became of a node that was to be added. -/
inductive Admission where
  /-- It was added. -/
  | added
  /-- It was there and counts as seen now. -/
  | refreshed
  /-- Its bucket is full; the incumbent is the node seen longest ago. -/
  | conflict (incumbent : Node)
  deriving DecidableEq

/-- Whether the node is in the table now. -/
def Admission.isSuccess : Admission → Bool
  | added => true
  | refreshed => true
  | conflict _ => false

/-- Why a node cannot be added at all. -/
inductive TableError where
  /-- The keeper of the table is not a node in it. -/
  | selfConnection
  /-- The table has no room for any node, so that there is no incumbent either. -/
  | nodeNotFound
  deriving DecidableEq, Repr

/-- The report of the failure. -/
def TableError.message : TableError → String
  | selfConnection => "cannot add local node to distance table"
  | nodeNotFound => "node not found in distance table"

namespace DistanceTable

/-- The table without nodes. -/
def empty (localId : NodeId) (bucketSize : Nat) : DistanceTable :=
  ⟨localId, bucketSize, Vector.replicate 256 .empty⟩

/-- The bucket that an identifier belongs to. -/
def indexOf (t : DistanceTable) (id : NodeId) : Fin 256 :=
  t.localId.bucketIndex id

/-- The nodes that share a bucket with an identifier. -/
def bucketFor (t : DistanceTable) (id : NodeId) : Bucket :=
  t.buckets[t.indexOf id]

/-- Replaces the bucket that an identifier belongs to. -/
def setBucket (t : DistanceTable) (id : NodeId) (b : Bucket) : DistanceTable :=
  { t with buckets := t.buckets.set (t.indexOf id) b }

/-! ### Contents -/

/-- All entries, by bucket. -/
def entries (t : DistanceTable) : List BucketEntry :=
  t.buckets.toList.flatMap Bucket.entries

/-- All nodes, by bucket. -/
def nodes (t : DistanceTable) : List Node :=
  t.entries.map BucketEntry.node

/-- The number of nodes. -/
def size (t : DistanceTable) : Nat :=
  t.entries.length

/-- The bucket at a position. -/
def bucket? (t : DistanceTable) (index : Nat) : Option Bucket :=
  t.buckets[index]?

/-- The bucket and the slot of a node. -/
def locate? (t : DistanceTable) (id : NodeId) : Option (Nat × Nat) :=
  ((t.bucketFor id).slot? id).map fun slot => ((t.indexOf id).val, slot)

/-- Whether a node is in the table. -/
def contains (t : DistanceTable) (id : NodeId) : Bool :=
  (t.locate? id).isSome

/-- The entry in a slot of a bucket. -/
def entry? (t : DistanceTable) (index slot : Nat) : Option BucketEntry :=
  (t.bucket? index).bind (·.entries[slot]?)

/-- The nodes ranked by distance to a target, the closest first. -/
def closest (t : DistanceTable) (target : NodeId) : List Node :=
  Node.closestFirst target t.nodes

/-! ### Operations -/

/-- Marks a node as seen now and takes over the endpoint at which it was seen; says whether it is
in the table at all. -/
def refresh (node : Node) (now : Timestamp) (t : DistanceTable) : Bool × DistanceTable :=
  if (t.bucketFor node.id).contains node.id then
    (true, t.setBucket node.id ((t.bucketFor node.id).refresh node now))
  else (false, t)

/-- Adds a node, or marks it as seen now if it is there.  If its bucket has no room the table is
left as it is. -/
def add (node : Node) (now : Timestamp) (t : DistanceTable) :
    Except TableError Admission × DistanceTable :=
  if node.id = t.localId then (.error .selfConnection, t)
  else
    let b := t.bucketFor node.id
    if b.contains node.id then
      (.ok .refreshed, t.setBucket node.id (b.refresh node now))
    else if b.isFull t.bucketSize then
      match b.oldest? with
      | some incumbent => (.ok (.conflict incumbent), t)
      | none => (.error .nodeNotFound, t)
    else (.ok .added, t.setBucket node.id (b.add node now))

/-- Removes a node and gives it back, if it was there. -/
def remove (id : NodeId) (t : DistanceTable) : Option Node × DistanceTable :=
  ((t.bucketFor id).find? id, t.setBucket id ((t.bucketFor id).remove id))

end DistanceTable
end NodeDiscovery
