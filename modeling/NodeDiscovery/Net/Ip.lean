import NodeDiscovery.Codec.Numeral

/-!
# IP addresses

Addresses of both families and their text.  An IPv4 address is written as four decimal numbers.
An IPv6 address is written as lowercase hexadecimal groups, of which the first longest run of at
least two zero groups is written `::`; an address that stands for an IPv4 one ends in its dotted
form.  Reading an IPv6 address accepts every usual spelling: digits of either case, one `::` for
one or more zero groups anywhere, and a dotted IPv4 address in place of the last two groups.

## Main definitions

* `Ipv4`, `Ipv6`, `IpAddress` — the addresses.
* `Ipv4.render`, `Ipv6.render`, `IpAddress.text` — the text.
* `Ipv4.parse?`, `Ipv6.parse?`, `IpAddress.parse?` — the reading of a text.
-/

namespace NodeDiscovery

/-- An IPv4 address, by its four bytes. -/
structure Ipv4 where
  /-- The first byte. -/
  a : UInt8
  /-- The second byte. -/
  b : UInt8
  /-- The third byte. -/
  c : UInt8
  /-- The fourth byte. -/
  d : UInt8
  deriving DecidableEq, Repr, Inhabited

/-- An IPv6 address: eight groups of sixteen bits. -/
structure Ipv6 where
  /-- The groups, most significant first. -/
  groups : List UInt16
  /-- There are eight of them. -/
  length_groups : groups.length = 8
  deriving DecidableEq

/-- An IP address of either family. -/
inductive IpAddress where
  /-- An IPv4 address. -/
  | v4 (ip : Ipv4)
  /-- An IPv6 address. -/
  | v6 (ip : Ipv6)
  deriving DecidableEq

/-- The pieces of a text between the occurrences of a character; always at least one. -/
def splitAt (sep : Char) : List Char → List (List Char)
  | [] => [[]]
  | c :: rest =>
    if c = sep then [] :: splitAt sep rest
    else match splitAt sep rest with
      | piece :: pieces => (c :: piece) :: pieces
      | [] => [[c]]

/-! ### IPv4 -/

namespace Ipv4

/-- The four bytes. -/
def octets (ip : Ipv4) : List UInt8 :=
  [ip.a, ip.b, ip.c, ip.d]

/-- The dotted decimal form. -/
def render (ip : Ipv4) : List Char :=
  Numeral.decimal ip.a.toNat ++ '.' :: Numeral.decimal ip.b.toNat ++
    '.' :: Numeral.decimal ip.c.toNat ++ '.' :: Numeral.decimal ip.d.toNat

/-- Reads a number from 0 to 255 without leading zeros. -/
def readOctet? (text : List Char) : Option UInt8 :=
  match Numeral.readDecimal? text with
  | some n => if n < 256 ∧ text = Numeral.decimal n then some (UInt8.ofNat n) else none
  | none => none

/-- Reads four numbers from 0 to 255 separated by dots, and nothing else. -/
def parse? (text : List Char) : Option Ipv4 :=
  match splitAt '.' text with
  | [a, b, c, d] =>
    match readOctet? a, readOctet? b, readOctet? c, readOctet? d with
    | some a, some b, some c, some d => some ⟨a, b, c, d⟩
    | _, _, _, _ => none
  | _ => none

/-- The two groups that the address takes at the end of an IPv6 one. -/
def toGroups (ip : Ipv4) : List UInt16 :=
  [UInt16.ofNat (256 * ip.a.toNat + ip.b.toNat), UInt16.ofNat (256 * ip.c.toNat + ip.d.toNat)]

end Ipv4

/-! ### IPv6 -/

namespace Ipv6

/-- The address of eight given groups, `none` for any other number of them. -/
def ofGroups? (groups : List UInt16) : Option Ipv6 :=
  if h : groups.length = 8 then some ⟨groups, h⟩ else none

/-- One group: hexadecimal without leading zeros. -/
def renderGroup (g : UInt16) : List Char :=
  Numeral.write 16 g.toNat

/-- Groups separated by colons. -/
def renderGroups : List UInt16 → List Char
  | [] => []
  | [g] => renderGroup g
  | g :: rest => renderGroup g ++ ':' :: renderGroups rest

/-- How many zero groups a list starts with. -/
def zeroRun (groups : List UInt16) : Nat :=
  (groups.takeWhile (· == 0)).length

/-- Start and length of the first longest run of zero groups; `at_` is the place of the first
group of the list, and `best` the longest run seen before it. -/
def longestZeroRun : List UInt16 → Nat → Nat × Nat → Nat × Nat
  | [], _, best => best
  | g :: rest, at_, best =>
    let here := zeroRun (g :: rest)
    longestZeroRun rest (at_ + 1) (if best.2 < here then (at_, here) else best)

/-- The IPv4 address that an address of the form `::ffff:a.b.c.d` stands for. -/
def mappedIpv4? (ip : Ipv6) : Option Ipv4 :=
  match ip.groups with
  | [0, 0, 0, 0, 0, 0xffff, g, h] =>
    some ⟨(g >>> 8).toUInt8, g.toUInt8, (h >>> 8).toUInt8, h.toUInt8⟩
  | _ => none

/-- The text of an address. -/
def render (ip : Ipv6) : List Char :=
  match ip.mappedIpv4? with
  | some v4 => [':', ':', 'f', 'f', 'f', 'f', ':'] ++ v4.render
  | none =>
    let run := longestZeroRun ip.groups 0 (0, 0)
    if 2 ≤ run.2 then
      renderGroups (ip.groups.take run.1) ++ ':' :: ':' ::
        renderGroups (ip.groups.drop (run.1 + run.2))
    else renderGroups ip.groups

/-- Reads one to four hexadecimal digits. -/
def readGroup? (text : List Char) : Option UInt16 :=
  if text ≠ [] ∧ text.length ≤ 4 ∧ text.all Numeral.isHexDigit then
    some (UInt16.ofNat (Numeral.value 16 text))
  else none

/-- Reads every piece as one group. -/
def readGroups? : List (List Char) → Option (List UInt16)
  | [] => some []
  | piece :: rest =>
    match readGroup? piece, readGroups? rest with
    | some g, some gs => some (g :: gs)
    | _, _ => none

/-- Reads every piece as one group, except that the last may be a dotted IPv4 address. -/
def readTail? : List (List Char) → Option (List UInt16)
  | [] => some []
  | [piece] =>
    match readGroup? piece with
    | some g => some [g]
    | none => (Ipv4.parse? piece).map Ipv4.toGroups
  | piece :: rest =>
    match readGroup? piece, readTail? rest with
    | some g, some gs => some (g :: gs)
    | _, _ => none

/-- The pieces of a text between colons, none for the empty text. -/
def pieces (text : List Char) : List (List Char) :=
  if text = [] then [] else splitAt ':' text

/-- The texts before and after the first `::`. -/
def cutAtGap : List Char → Option (List Char × List Char)
  | ':' :: ':' :: rest => some ([], rest)
  | c :: rest => (cutAtGap rest).map fun (before, after) => (c :: before, after)
  | [] => none

/-- Reads an address.  A `::` stands for at least one group. -/
def parse? (text : List Char) : Option Ipv6 :=
  match cutAtGap text with
  | none => (readTail? (pieces text)).bind ofGroups?
  | some (before, after) =>
    match readGroups? (pieces before), readTail? (pieces after) with
    | some head, some tail =>
      if head.length + tail.length < 8 then
        ofGroups? (head ++ List.replicate (8 - head.length - tail.length) 0 ++ tail)
      else none
    | _, _ => none

end Ipv6

/-! ### Either family -/

namespace IpAddress

/-- The characters of the text of an address. -/
def render : IpAddress → List Char
  | v4 ip => ip.render
  | v6 ip => ip.render

/-- The text of an address. -/
def text (ip : IpAddress) : String :=
  String.ofList ip.render

/-- Reads an address of either family. -/
def read? (text : List Char) : Option IpAddress :=
  match Ipv4.parse? text with
  | some ip => some (v4 ip)
  | none => (Ipv6.parse? text).map v6

/-- Reads an address of either family: no brackets, no scope, nothing around it. -/
def parse? (text : String) : Option IpAddress :=
  read? text.toList

end IpAddress
end NodeDiscovery
