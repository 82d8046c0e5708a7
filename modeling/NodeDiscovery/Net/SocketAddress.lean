import NodeDiscovery.Net.Ip

/-!
# Socket addresses

An IP address with a port and, for IPv6, the scope in which it is meant.  Addresses are ordered:
IPv4 before IPv6, then by address, port and scope.

The flow information of an IPv6 socket is left out.  No text shows it, an address that is read from
a text has none, and so has one that is found for the endpoint of a node.

## Main definitions

* `SocketAddress` — the address.
* `SocketAddress.text`, `SocketAddress.parse?` — `1.2.3.4:5`, `[::1]:5` and `[fe80::1%3]:5`.
* `AddressSet` — a set of addresses in ascending order.
-/

namespace NodeDiscovery

/-- Where a datagram comes from or goes to. -/
inductive SocketAddress where
  /-- An IPv4 address and a port. -/
  | v4 (ip : Ipv4) (port : UInt16)
  /-- An IPv6 address, a port and the scope, zero for none.  There is no flow information. -/
  | v6 (ip : Ipv6) (port : UInt16) (scope : UInt32)
  deriving DecidableEq

namespace SocketAddress

/-- The address of a port at an IP address, without a scope. -/
def ofIp : IpAddress → UInt16 → SocketAddress
  | .v4 ip, port => v4 ip port
  | .v6 ip, port => v6 ip port 0

/-- The IP address. -/
def ip : SocketAddress → IpAddress
  | v4 ip _ => .v4 ip
  | v6 ip _ _ => .v6 ip

/-- The port. -/
def port : SocketAddress → UInt16
  | v4 _ port => port
  | v6 _ port _ => port

/-- The scope, zero for none. -/
def scope : SocketAddress → UInt32
  | v4 _ _ => 0
  | v6 _ _ scope => scope

@[simp] theorem ip_ofIp (ip : IpAddress) (port : UInt16) : (ofIp ip port).ip = ip := by
  cases ip <;> rfl

@[simp] theorem port_ofIp (ip : IpAddress) (port : UInt16) : (ofIp ip port).port = port := by
  cases ip <;> rfl

@[simp] theorem scope_ofIp (ip : IpAddress) (port : UInt16) : (ofIp ip port).scope = 0 := by
  cases ip <;> rfl

/-! ### Text -/

/-- The characters of the text. -/
def render : SocketAddress → List Char
  | v4 ip port => ip.render ++ ':' :: Numeral.decimal port.toNat
  | v6 ip port scope =>
    '[' :: ip.render ++ (if scope = 0 then [] else '%' :: Numeral.decimal scope.toNat) ++
      ']' :: ':' :: Numeral.decimal port.toNat

/-- The text: a port after a colon, and brackets around an IPv6 address and its scope. -/
def text (a : SocketAddress) : String :=
  String.ofList a.render

/-- The texts before and after the last occurrence of a character. -/
def cutAtLast (sep : Char) : List Char → Option (List Char × List Char)
  | [] => none
  | c :: rest =>
    match cutAtLast sep rest with
    | some (before, after) => some (c :: before, after)
    | none => if c = sep then some ([], rest) else none

/-- Reads a scope: decimal digits up to 4294967295. -/
def readScope? (text : List Char) : Option UInt32 :=
  match Numeral.readDecimal? text with
  | some n => if n < 4294967296 then some (UInt32.ofNat n) else none
  | none => none

/-- Reads an IPv6 address that a percent sign and a scope may follow. -/
def readScoped? (text : List Char) : Option (Ipv6 × UInt32) :=
  match cutAtLast '%' text with
  | none => (Ipv6.parse? text).map (·, 0)
  | some (ip, scope) =>
    match Ipv6.parse? ip, readScope? scope with
    | some ip, some scope => some (ip, scope)
    | _, _ => none

/-- Reads the text between brackets, which must end the list. -/
def readBracketed? (text : List Char) : Option (Ipv6 × UInt32) :=
  match cutAtLast ']' text with
  | some (inner, []) => readScoped? inner
  | _ => none

/-- Reads a socket address. -/
def parse? (text : String) : Option SocketAddress :=
  match cutAtLast ':' text.toList with
  | none => none
  | some (host, port) =>
    match Numeral.readPort? port, host with
    | some port, '[' :: rest => (readBracketed? rest).map fun (ip, scope) => v6 ip port scope
    | some port, host => (Ipv4.parse? host).map (v4 · port)
    | none, _ => none

/-! ### Order -/

/-- The numbers by which addresses are ordered: family, address, port, scope. -/
def sortKey : SocketAddress → List Nat
  | v4 ip port => 4 :: ip.octets.map UInt8.toNat ++ [port.toNat]
  | v6 ip port scope => 6 :: ip.groups.map UInt16.toNat ++ [port.toNat, scope.toNat]

instance : LT SocketAddress := ⟨fun a b => a.sortKey < b.sortKey⟩

instance (a b : SocketAddress) : Decidable (a < b) :=
  inferInstanceAs (Decidable (a.sortKey < b.sortKey))

end SocketAddress

/-! ### Sets in ascending order -/

/-- A set of addresses, kept in ascending order. -/
structure AddressSet where
  /-- The members in ascending order. -/
  toList : List SocketAddress
  /-- Each member is below all that follow it. -/
  ascending : toList.Pairwise (· < ·)

namespace AddressSet

/-- The set without members. -/
def empty : AddressSet := ⟨[], .nil⟩

/-- Puts an address into its place in an ascending list, unless it is there already. -/
def insertSorted (a : SocketAddress) : List SocketAddress → List SocketAddress
  | [] => [a]
  | b :: rest =>
    if a < b then a :: b :: rest
    else if b < a then b :: insertSorted a rest
    else b :: rest

theorem mem_insertSorted {a x : SocketAddress} :
    ∀ {l : List SocketAddress}, x ∈ insertSorted a l → x = a ∨ x ∈ l
  | [], h => by simpa [insertSorted] using h
  | b :: rest, h => by
    unfold insertSorted at h
    split at h
    · simpa using h
    · split at h
      · rcases List.mem_cons.1 h with rfl | h
        · simp
        · rcases mem_insertSorted h with rfl | h <;> simp_all
      · exact .inr h

theorem ascending_insertSorted (a : SocketAddress) :
    ∀ {l : List SocketAddress}, l.Pairwise (· < ·) → (insertSorted a l).Pairwise (· < ·)
  | [], _ => by simp [insertSorted]
  | b :: rest, h => by
    obtain ⟨hb, hrest⟩ := List.pairwise_cons.1 h
    unfold insertSorted
    split
    · next hab =>
      refine List.pairwise_cons.2 ⟨fun x hx => ?_, h⟩
      rcases List.mem_cons.1 hx with rfl | hx
      · exact hab
      · exact List.lt_trans (α := Nat) hab (hb x hx)
    · split
      · next hba =>
        refine List.pairwise_cons.2 ⟨fun x hx => ?_, ascending_insertSorted a hrest⟩
        rcases mem_insertSorted hx with rfl | hx
        · exact hba
        · exact hb x hx
      · exact h

/-- Adds an address. -/
def insert (a : SocketAddress) (s : AddressSet) : AddressSet :=
  ⟨insertSorted a s.toList, ascending_insertSorted a s.ascending⟩

/-- Keeps the members that satisfy `p`. -/
def filter (p : SocketAddress → Bool) (s : AddressSet) : AddressSet :=
  ⟨s.toList.filter p, s.ascending.filter p⟩

end AddressSet
end NodeDiscovery
