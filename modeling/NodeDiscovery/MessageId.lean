import NodeDiscovery.Codec.Hex
import NodeDiscovery.Random.Source

/-!
# Message identifiers

A request and its answer carry the same identifier: 16 bytes, written as a hyphenated UUID.  Fresh
identifiers are random UUIDs of version 4.

## Main definitions

* `MessageId` — the identifier.
* `MessageId.draw` — a fresh identifier.
* `MessageId.text`, `MessageId.parse?` — the hyphenated text, written and read.
-/

namespace NodeDiscovery

/-- What ties an answer to its request: 16 bytes. -/
structure MessageId where
  /-- The bytes, in the order in which they are written. -/
  bytes : List UInt8
  /-- There are 16 of them. -/
  length_bytes : bytes.length = 16
  deriving DecidableEq

namespace MessageId

/-- The identifier of 16 given bytes, `none` for any other number of them. -/
def ofBytes? (bytes : List UInt8) : Option MessageId :=
  if h : bytes.length = 16 then some ⟨bytes, h⟩ else none

/-- The identifier of 16 zero bytes. -/
def nil : MessageId :=
  ⟨List.replicate 16 0, List.length_replicate⟩

instance : Inhabited MessageId := ⟨nil⟩

/-- Marks bytes as a random UUID: version 4 in the upper half of byte 6, the variant in the two
upper bits of byte 8. -/
def stamp (bytes : List UInt8) : List UInt8 :=
  (bytes.modify 6 fun b => (b &&& 0x0f) ||| 0x40).modify 8 fun b => (b &&& 0x3f) ||| 0x80

@[simp] theorem length_stamp (bytes : List UInt8) : (stamp bytes).length = bytes.length := by
  simp [stamp]

/-- Draws a fresh identifier.  Each byte takes a word of its own. -/
def draw (r : RandomSource) : MessageId × RandomSource :=
  (⟨stamp ((r.take 16).1.map UInt32.toUInt8), by simp⟩, (r.take 16).2)

/-- The version that the identifier claims: the upper half of byte 6. -/
def version (id : MessageId) : Nat :=
  ((id.bytes[6]?).getD 0).toNat / 16

/-- The digits of the first `n` bytes. -/
def renderGroup (n : Nat) (bytes : List UInt8) : List Char :=
  Hex.encode (bytes.take n)

/-- The hyphenated text: groups of 4, 2, 2, 2 and 6 bytes. -/
def text (id : MessageId) : String :=
  String.ofList <|
    renderGroup 4 id.bytes ++ '-' :: renderGroup 2 (id.bytes.drop 4) ++
      '-' :: renderGroup 2 (id.bytes.drop 6) ++ '-' :: renderGroup 2 (id.bytes.drop 8) ++
      '-' :: renderGroup 6 (id.bytes.drop 10)

/-- Removes the hyphens after the digits of the groups; the list gives the digits of each group
that a hyphen follows. -/
def dropHyphens? : List Nat → List Char → Option (List Char)
  | [], text => some text
  | n :: rest, text =>
    match text.drop n with
    | '-' :: after => (dropHyphens? rest after).map (text.take n ++ ·)
    | _ => none

/-- Reads a hyphenated text with digits of either case. -/
def parse? (text : String) : Option MessageId :=
  match dropHyphens? [8, 4, 4, 4] text.toList with
  | some digits => (Hex.decode? digits).bind ofBytes?
  | none => none

end MessageId
end NodeDiscovery
