/-!
# Hexadecimal text

Bytes are written as two lowercase digits each, high half first.  Reading accepts digits of
either case and refuses an odd digit and every other character.

## Main definitions

* `Hex.digit`, `Hex.digitValue?` — one digit, written and read.
* `Hex.encode`, `Hex.decode?` — a list of bytes, written and read.
-/

namespace NodeDiscovery
namespace Hex

/-- The lowercase digit standing for a value below sixteen. -/
def digit (n : Nat) : Char :=
  if n < 10 then Char.ofNat (48 + n) else Char.ofNat (87 + n)

/-- The value of a hexadecimal digit of either case. -/
def digitValue? (c : Char) : Option Nat :=
  if '0' ≤ c ∧ c ≤ '9' then some (c.toNat - 48)
  else if 'a' ≤ c ∧ c ≤ 'f' then some (c.toNat - 87)
  else if 'A' ≤ c ∧ c ≤ 'F' then some (c.toNat - 55)
  else none

/-- The two digits of one byte, high half first. -/
def byteDigits (b : UInt8) : List Char :=
  [digit (b.toNat / 16), digit (b.toNat % 16)]

/-- The digits of a list of bytes. -/
def encode (bytes : List UInt8) : List Char :=
  bytes.flatMap byteDigits

/-- The bytes that pairs of digits stand for; `none` at an odd digit or a foreign character. -/
def decode? : List Char → Option (List UInt8)
  | [] => some []
  | [_] => none
  | hi :: lo :: rest =>
    match digitValue? hi, digitValue? lo with
    | some h, some l => (decode? rest).map (UInt8.ofNat (16 * h + l) :: ·)
    | _, _ => none

@[simp] theorem encode_nil : encode [] = [] := rfl

@[simp] theorem encode_cons (b : UInt8) (bytes : List UInt8) :
    encode (b :: bytes) = digit (b.toNat / 16) :: digit (b.toNat % 16) :: encode bytes := rfl

@[simp] theorem decode?_nil : decode? [] = some [] := rfl

end Hex
end NodeDiscovery
