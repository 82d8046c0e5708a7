import NodeDiscovery.Codec.Hex
import NodeDiscovery.Codec.Keccak

/-!
# Node identifiers

A node is known by 32 bytes, the Keccak-256 digest of its public key.  The bytes are most
significant first, as in the text form of 64 hexadecimal digits.

## Main definitions

* `NodeId` — the identifier.
* `NodeId.ofPublicKey` — the identifier of the holder of a key.
* `NodeId.ofHex`, `NodeId.toHex` — the text form, read and written.
* `NodeId.brief` — the abbreviated form for people to read.
-/

namespace NodeDiscovery

/-- The identifier of a node: 32 bytes, most significant first. -/
structure NodeId where
  /-- The bytes, most significant first. -/
  bytes : List UInt8
  /-- There are 32 of them. -/
  length_bytes : bytes.length = 32
  deriving DecidableEq

/-- A text that was taken for a node identifier and is none. -/
structure InvalidNodeId where
  /-- The text as it was given. -/
  text : String
  deriving DecidableEq, Repr

namespace InvalidNodeId

/-- The report of an invalid identifier. -/
def message (e : InvalidNodeId) : String :=
  "invalid node identifier: " ++ e.text

end InvalidNodeId

namespace NodeId

/-- The identifier of 32 given bytes, `none` for any other number of them. -/
def ofBytes? (bytes : List UInt8) : Option NodeId :=
  if h : bytes.length = 32 then some ⟨bytes, h⟩ else none

/-- The identifier of the holder of a public key: the Keccak-256 digest of the key. -/
def ofPublicKey (key : List UInt8) : NodeId :=
  ⟨Keccak.digest key, Keccak.length_digest key⟩

/-- The identifier of 32 zero bytes. -/
def zero : NodeId :=
  ⟨List.replicate 32 0, List.length_replicate⟩

instance : Inhabited NodeId := ⟨zero⟩

/-! ### Text -/

/-- The digits that follow any number of `0x` marks. -/
def dropMarks : List Char → List Char
  | '0' :: 'x' :: rest => dropMarks rest
  | digits => digits

/-- Reads 64 hexadecimal digits of either case behind any number of `0x` marks. -/
def ofHex (text : String) : Except InvalidNodeId NodeId :=
  match (Hex.decode? (dropMarks text.toList)).bind ofBytes? with
  | some id => .ok id
  | none => .error ⟨text⟩

/-- The 64 lowercase digits. -/
def toHex (id : NodeId) : String :=
  String.ofList (Hex.encode id.bytes)

/-- The first and the last four bytes, which people use to tell identifiers apart. -/
def brief (id : NodeId) : String :=
  String.ofList (Hex.encode (id.bytes.take 4) ++ ['.', '.'] ++ Hex.encode (id.bytes.drop 28))

/-- The abbreviated form under the name of its type. -/
def tagged (id : NodeId) : String :=
  "NodeId(" ++ id.brief ++ ")"

end NodeId
end NodeDiscovery
