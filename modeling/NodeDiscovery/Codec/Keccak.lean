/-!
# Keccak-256

The sponge over a state of twenty-five 64-bit lanes with a rate of 136 bytes, a domain byte of
`0x01` and a digest of 32 bytes.  This is the padding of the first Keccak submission, not the
one that the later standard settled on, so digests differ from SHA3-256.

## Main definitions

* `Keccak.permute` — the 24 rounds.
* `Keccak.digest` — the digest of a list of bytes.
-/

namespace NodeDiscovery
namespace Keccak

/-- The state: lane `(x, y)` is stored at `x + 5 * y`. -/
abbrev State := Vector UInt64 25

/-- Lane `(x, y)`, both coordinates taken modulo five. -/
def State.lane (s : State) (x y : Nat) : UInt64 :=
  s.get ⟨x % 5 + 5 * (y % 5), by omega⟩

/-- Rotation to the left by `n < 64` bits. -/
def rotl (w : UInt64) (n : Nat) : UInt64 :=
  if n = 0 then w else (w <<< UInt64.ofNat n) ||| (w >>> UInt64.ofNat (64 - n))

/-- How far each lane is rotated, in storage order. -/
def rotations : Vector Nat 25 :=
  #v[0, 1, 62, 28, 27,
     36, 44, 6, 55, 20,
     3, 10, 43, 25, 39,
     41, 45, 15, 21, 8,
     18, 2, 61, 56, 14]

/-- The constants that the rounds mix into lane `(0, 0)`, first round first. -/
def roundConstants : List UInt64 :=
  [0x0000000000000001, 0x0000000000008082, 0x800000000000808a, 0x8000000080008000,
   0x000000000000808b, 0x0000000080000001, 0x8000000080008081, 0x8000000000008009,
   0x000000000000008a, 0x0000000000000088, 0x0000000080008009, 0x000000008000000a,
   0x000000008000808b, 0x800000000000008b, 0x8000000000008089, 0x8000000000008003,
   0x8000000000008002, 0x8000000000000080, 0x000000000000800a, 0x800000008000000a,
   0x8000000080008081, 0x8000000000008080, 0x0000000080000001, 0x8000000080008008]

/-! ### One round -/

/-- The parity of a column. -/
def columnParity (s : State) (x : Nat) : UInt64 :=
  s.lane x 0 ^^^ s.lane x 1 ^^^ s.lane x 2 ^^^ s.lane x 3 ^^^ s.lane x 4

/-- Mixes into each lane the parities of two neighbouring columns. -/
def theta (s : State) : State :=
  let parities : Vector UInt64 5 := Vector.ofFn fun x => columnParity s x
  let parity (x : Nat) : UInt64 := parities.get ⟨x % 5, by omega⟩
  Vector.ofFn fun i => s[i] ^^^ parity (i + 4) ^^^ rotl (parity (i + 1)) 1

/-- Rotates every lane and moves it to its new place. -/
def rotateAndPlace (s : State) : State :=
  Vector.ofFn fun i =>
    let x := i.val % 5
    let y := i.val / 5
    let source : Fin 25 := ⟨(x + 3 * y) % 5 + 5 * x, by omega⟩
    rotl (s.get source) (rotations.get source)

/-- The only step that is not linear: combines each lane with the next two of its row. -/
def chi (s : State) : State :=
  Vector.ofFn fun i =>
    let x := i.val % 5
    let y := i.val / 5
    s[i] ^^^ (~~~ s.lane (x + 1) y &&& s.lane (x + 2) y)

/-- One round with its constant. -/
def round (s : State) (constant : UInt64) : State :=
  let mixed := chi (rotateAndPlace (theta s))
  mixed.set 0 (mixed[0] ^^^ constant)

/-- The permutation: all rounds in order. -/
def permute (s : State) : State :=
  roundConstants.foldl round s

/-! ### The sponge -/

/-- Bytes absorbed between two permutations. -/
def rate : Nat := 136

/-- The number that bytes stand for, least significant byte first. -/
def littleEndian (bytes : List UInt8) : UInt64 :=
  bytes.foldr (fun b w => (w <<< 8) ||| b.toUInt64) 0

/-- The eight bytes of a lane, least significant first. -/
def laneBytes (w : UInt64) : List UInt8 :=
  (List.range 8).map fun i => (w >>> UInt64.ofNat (8 * i)).toUInt8

/-- The input, a `0x01` byte, zeros, and a final `0x80` bit, up to a multiple of the rate. -/
def pad (bytes : List UInt8) : List UInt8 :=
  let missing := rate - bytes.length % rate
  if missing = 1 then bytes ++ [0x81]
  else bytes ++ 0x01 :: List.replicate (missing - 2) 0x00 ++ [0x80]

/-- Mixes one block into the state and permutes it. -/
def absorbBlock (s : State) (block : List UInt8) : State :=
  permute <| Vector.ofFn fun i =>
    s[i] ^^^ littleEndian ((block.drop (8 * i.val)).take 8)

/-- Absorbs the given number of blocks from the front of a padded input. -/
def absorb : Nat → List UInt8 → State → State
  | 0, _, s => s
  | n + 1, bytes, s => absorb n (bytes.drop rate) (absorbBlock s (bytes.take rate))

/-- The Keccak-256 digest. -/
def digest (bytes : List UInt8) : List UInt8 :=
  let padded := pad bytes
  let s := absorb (padded.length / rate) padded (Vector.replicate 25 0)
  laneBytes s[0] ++ laneBytes s[1] ++ laneBytes s[2] ++ laneBytes s[3]

@[simp] theorem length_laneBytes (w : UInt64) : (laneBytes w).length = 8 := by
  simp [laneBytes]

@[simp] theorem length_digest (bytes : List UInt8) : (digest bytes).length = 32 := by
  simp [digest]

end Keccak
end NodeDiscovery
