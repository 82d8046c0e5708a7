import NodeDiscovery.Codec.Hex

/-!
# Numerals

Natural numbers written in a base up to sixteen, most significant digit first, without leading
zeros and with lowercase letters for the digits from ten up.

## Main definitions

* `Numeral.write` — the digits of a number.
* `Numeral.value` — the number that digits stand for.
* `Numeral.decimal`, `Numeral.readDecimal?` — decimal digits, written and read.
* `Numeral.readPort?` — a port number as people write it.
-/

namespace NodeDiscovery
namespace Numeral

/-- Puts the digits of `n` before `tail`; the second argument bounds how many there are. -/
def writeBefore (base : Nat) : Nat → Nat → List Char → List Char
  | 0, _, tail => tail
  | k + 1, n, tail =>
    if n < base then Hex.digit n :: tail
    else writeBefore base k (n / base) (Hex.digit (n % base) :: tail)

/-- The digits of a number in a base from two to sixteen. -/
def write (base n : Nat) : List Char :=
  writeBefore base (n + 1) n []

/-- The value of a digit, zero for any other character. -/
def digitValue (c : Char) : Nat :=
  (Hex.digitValue? c).getD 0

/-- The number that digits stand for, zero for no digits at all. -/
def value (base : Nat) (digits : List Char) : Nat :=
  digits.foldl (fun n c => base * n + digitValue c) 0

/-- The decimal digits of a number. -/
def decimal (n : Nat) : List Char :=
  write 10 n

/-- Whether a character is one of the ten decimal digits. -/
def isDigit (c : Char) : Bool :=
  '0' ≤ c && c ≤ '9'

/-- Whether a character is a hexadecimal digit of either case. -/
def isHexDigit (c : Char) : Bool :=
  (Hex.digitValue? c).isSome

/-- Reads one or more decimal digits. -/
def readDecimal? (digits : List Char) : Option Nat :=
  if digits ≠ [] ∧ digits.all isDigit then some (value 10 digits) else none

/-- The text without a leading plus sign. -/
def dropPlus : List Char → List Char
  | '+' :: rest => rest
  | digits => digits

/-- Reads a port: decimal digits up to 65535, any number of leading zeros, perhaps a plus sign. -/
def readPort? (text : List Char) : Option UInt16 :=
  match readDecimal? (dropPlus text) with
  | some n => if n < 65536 then some (UInt16.ofNat n) else none
  | none => none

end Numeral
end NodeDiscovery
