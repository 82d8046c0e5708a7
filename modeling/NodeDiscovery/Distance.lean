import NodeDiscovery.NodeId

/-!
# The XOR metric

The distance of two identifiers is their bitwise exclusive or, compared as a number written most
significant byte first.  The bucket of a remote identifier counts the leading bits that it shares
with the local one: the higher the bucket, the closer the identifier.

## Main definitions

* `Distance`, `NodeId.distance` — the metric.
* `Distance.leadingZeros` — the shared leading bits.
* `NodeId.bucketIndex` — the bucket of one identifier as another sees it.
-/

namespace NodeDiscovery

/-- The distance of two identifiers: 32 bytes, most significant first. -/
@[ext]
structure Distance where
  /-- The bytes, most significant first. -/
  bytes : List UInt8
  /-- There are 32 of them. -/
  length_bytes : bytes.length = 32

instance : DecidableEq Distance := fun _ _ => decidable_of_iff _ Distance.ext_iff.symm

/-- The bitwise exclusive or of two identifiers. -/
def NodeId.distance (a b : NodeId) : Distance where
  bytes := List.zipWith (· ^^^ ·) a.bytes b.bytes
  length_bytes := by simp [a.length_bytes, b.length_bytes]

/-- How many zero bits a list of bytes starts with. -/
def leadingZeroBits : List UInt8 → Nat
  | [] => 0
  | b :: rest => if b = 0 then 8 + leadingZeroBits rest else 7 - b.toNat.log2

namespace Distance

/-- Distances compare at the first byte in which they differ. -/
instance : LT Distance := ⟨fun d e => d.bytes < e.bytes⟩

instance : LE Distance := ⟨fun d e => d.bytes ≤ e.bytes⟩

instance (d e : Distance) : Decidable (d < e) :=
  inferInstanceAs (Decidable (d.bytes < e.bytes))

instance (d e : Distance) : Decidable (d ≤ e) :=
  inferInstanceAs (Decidable (d.bytes ≤ e.bytes))

/-- How many zero bits the distance starts with, from 0 to 256. -/
def leadingZeros (d : Distance) : Nat :=
  leadingZeroBits d.bytes

/-- Whether this is the distance of an identifier to itself. -/
def isZero (d : Distance) : Bool :=
  d.bytes.all (· == 0)

/-- The text form: 64 lowercase hexadecimal digits. -/
def toHex (d : Distance) : String :=
  String.ofList (Hex.encode d.bytes)

end Distance

/-- The bucket of a remote identifier as a local one sees it: the number of leading bits that
the two share.  The local identifier itself shares the bucket of its closest neighbour. -/
def NodeId.bucketIndex (here remote : NodeId) : Fin 256 :=
  ⟨min (here.distance remote).leadingZeros 255, by omega⟩

end NodeDiscovery
