import NodeDiscovery.Net.Endpoint

/-!
# Numeric host names

The old numeric spellings of an IPv4 address: one to four numbers separated by dots, each decimal,
octal after a leading `0` or hexadecimal after `0x`.  All numbers but the last stand for one byte
each, and the last one fills the bytes that are left: `127.1` is `127.0.0.1`.

## Main definitions

* `Ipv4.parseNumeric?` — the reading of such a spelling.
* `numericLookup` — the look-up of hosts in this spelling alone, for use where no name service is
  at hand.
-/

namespace NodeDiscovery

namespace Ipv4

/-- Reads one or more hexadecimal digits of either case. -/
def readHexPart? (digits : List Char) : Option Nat :=
  if digits ≠ [] ∧ digits.all Numeral.isHexDigit then some (Numeral.value 16 digits) else none

/-- Reads any number of octal digits. -/
def readOctalPart? (digits : List Char) : Option Nat :=
  if digits.all fun c => '0' ≤ c && c ≤ '7' then some (Numeral.value 8 digits) else none

/-- Reads one number: decimal, octal after a leading `0`, hexadecimal after `0x`. -/
def readPart? : List Char → Option Nat
  | '0' :: 'x' :: digits => readHexPart? digits
  | '0' :: 'X' :: digits => readHexPart? digits
  | '0' :: digits => readOctalPart? digits
  | digits => Numeral.readDecimal? digits

/-- The address of a 32-bit number, most significant byte first. -/
def ofNat (n : Nat) : Ipv4 :=
  ⟨UInt8.ofNat (n >>> 24), UInt8.ofNat (n >>> 16), UInt8.ofNat (n >>> 8), UInt8.ofNat n⟩

/-- Adds up numbers of which all but the last stand for one byte; the first argument counts the
bytes that are still to be filled. -/
def fillBytes? : Nat → List Nat → Option Nat
  | 0, _ => none
  | _, [] => none
  | left + 1, [n] => if n < 1 <<< (8 * (left + 1)) then some n else none
  | left + 1, n :: rest =>
    if n < 256 then (fillBytes? left rest).map (n <<< (8 * left) + ·) else none

/-- Reads a numeric spelling of an IPv4 address. -/
def parseNumeric? (text : List Char) : Option Ipv4 :=
  match (splitAt '.' text).mapM readPart? with
  | some numbers => (fillBytes? 4 numbers).map Ipv4.ofNat
  | none => none

end Ipv4

/-- Finds the address of a host that is written as a number, and of no other. -/
def numericLookup (e : Endpoint) : Option SocketAddress :=
  (Ipv4.parseNumeric? e.host.toList).map (.v4 · e.port)

end NodeDiscovery
