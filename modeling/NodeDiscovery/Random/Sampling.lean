import NodeDiscovery.Random.Source

/-!
# Random samples

A sample of `n` positions out of `len` is drawn in one of four ways, whichever needs the least work
at these sizes.  The front of the list of all positions can be shuffled.  Floyd's method draws one
position for each of the last `n` ones and resolves a repetition by taking the last position itself:
with few positions it inserts so that the order comes out random, and with many it appends and
shuffles at the end.  Or positions are drawn from all, and one that was drawn before is drawn again.

## Main definitions

* `Sampling.positions` — positions in the order they were drawn.
* `Sampling.choose` — elements of a list in the order they were drawn.
* `Sampling.limited` — a bounded part of a list: a front part as it stands, then a random sample
  of the rest.
-/

namespace NodeDiscovery
namespace Sampling

/-! ### Shuffling in place -/

/-- Swaps position `i` and its successors, as many as the first argument says, each with a
position drawn from itself to the last. -/
def shuffleFront : Nat → Nat → Array Nat → RandomSource → Array Nat × RandomSource
  | 0, _, a, r => (a, r)
  | k + 1, i, a, r =>
    let (j, r) := r.between i (a.size - 1)
    shuffleFront k (i + 1) (a.swapIfInBounds i j) r

/-- The first `n` positions after shuffling the front of the list of all. -/
def inPlace (len n : Nat) (r : RandomSource) : List Nat × RandomSource :=
  let (a, r) := shuffleFront n 0 (Array.range len) r
  (a.toList.take n, r)

/-! ### Floyd's method -/

/-- Puts `j` before the first occurrence of `t`; without an occurrence, `t` at the end. -/
def insertDrawn (j t : Nat) : List Nat → List Nat
  | [] => [t]
  | a :: rest => if a = t then j :: a :: rest else a :: insertDrawn j t rest

/-- Draws one position for each of `j` and its successors, as many as the first argument says. -/
def floydInserting : Nat → Nat → List Nat → RandomSource → List Nat × RandomSource
  | 0, _, chosen, r => (chosen, r)
  | k + 1, j, chosen, r =>
    let (t, r) := r.between 0 j
    floydInserting k (j + 1) (insertDrawn j t chosen) r

/-- Like `floydInserting`, but adds every position at the end. -/
def floydAppending : Nat → Nat → List Nat → RandomSource → List Nat × RandomSource
  | 0, _, chosen, r => (chosen, r)
  | k + 1, j, chosen, r =>
    let (t, r) := r.between 0 j
    floydAppending k (j + 1) (chosen ++ [if t ∈ chosen then j else t]) r

/-- Swaps each position from `i` down to the second with a position drawn from the first to
itself. -/
def shuffleBack : Nat → Array Nat → RandomSource → Array Nat × RandomSource
  | 0, a, r => (a, r)
  | i + 1, a, r =>
    let (j, r) := r.between 0 (i + 1)
    shuffleBack i (a.swapIfInBounds (i + 1) j) r

/-- `n` positions out of `len` by Floyd's method. -/
def floyd (len n : Nat) (r : RandomSource) : List Nat × RandomSource :=
  if n < 50 then floydInserting n (len - n) [] r
  else
    let (chosen, r) := floydAppending n (len - n) [] r
    let (a, r) := shuffleBack (n - 1) chosen.toArray r
    (a.toList, r)

/-! ### Rejection

A word times `len` has a position in its upper half.  Words with a lower half above a bound are
rejected, so that equally many are left for each position. -/

/-- The position that a word stands for. -/
def scaled (w : Width) (len v : Nat) : Nat :=
  v * len / w.count

/-- Whether a word stands for a position that is not among those chosen. -/
def isNew (w : Width) (len : Nat) (chosen : List Nat) (v : Nat) : Bool :=
  v * len % w.count ≤ w.count - 1 - (w.count - len) % len && !chosen.contains (scaled w len v)

/-- Every position has a word: the least one whose product reaches it. -/
theorem exists_scaled {w : Width} {len p : Nat} {chosen : List Nat} (hlen : len ≤ w.count)
    (hp : p < len) (hnew : p ∉ chosen) : ∃ v < w.count, isNew w len chosen v = true := by
  have hpos : 0 < len := Nat.zero_lt_of_lt hp
  have hceil := Nat.div_add_mod (p * w.count + len - 1) len
  have hrest := Nat.mod_lt (p * w.count + len - 1) hpos
  generalize (p * w.count + len - 1) / len = v at hceil
  generalize (p * w.count + len - 1) % len = rest at hceil hrest
  have hproduct : v * len = p * w.count + (len - 1 - rest) := by
    rw [Nat.mul_comm]
    omega
  have hlow : len - 1 - rest < w.count := by omega
  have hscaled : scaled w len v = p := by
    rw [scaled, hproduct, Nat.mul_comm p, Nat.mul_add_div (by omega), Nat.div_eq_of_lt hlow,
      Nat.add_zero]
  have haccepted : v * len % w.count ≤ w.count - 1 - (w.count - len) % len := by
    have hmod : (w.count - len) % len ≤ w.count - len := Nat.mod_le _ _
    rw [hproduct, Nat.mul_comm p, Nat.mul_add_mod, Nat.mod_eq_of_lt hlow]
    omega
  refine ⟨v, ?_, by simp [isNew, haccepted, hscaled, hnew]⟩
  refine Nat.lt_of_mul_lt_mul_right (a := len) ?_
  have hall : (p + 1) * w.count ≤ len * w.count := Nat.mul_le_mul_right _ hp
  rw [hproduct, Nat.mul_comm w.count]
  rw [Nat.succ_mul] at hall
  omega

/-- A list that is shorter than the range leaves a position out. -/
theorem exists_left_out {len : Nat} {chosen : List Nat} (h : chosen.length < len) :
    ∃ p < len, p ∉ chosen := by
  induction len generalizing chosen with
  | zero => exact absurd h (Nat.not_lt_zero _)
  | succ len ih =>
    by_cases hlast : len ∈ chosen
    · have hrest : (chosen.erase len).length < len := by
        have hlength := List.length_erase_of_mem hlast
        have hpos := List.length_pos_of_mem hlast
        omega
      obtain ⟨p, hp, hnew⟩ := ih hrest
      refine ⟨p, Nat.lt_succ_of_lt hp, fun hin => hnew ?_⟩
      exact (List.mem_erase_of_ne (Nat.ne_of_lt hp)).2 hin
    · exact ⟨len, Nat.lt_succ_self len, hlast⟩

theorem exists_isNew {w : Width} {len : Nat} {chosen : List Nat} (hlen : len ≤ w.count)
    (h : chosen.length < len) : ∃ v < w.count, isNew w len chosen v = true := by
  obtain ⟨p, hp, hnew⟩ := exists_left_out h
  exact exists_scaled hlen hp hnew

/-- Draws more positions, as many as the first argument says, until each of them is new. -/
def rejecting (w : Width) (len : Nat) (hlen : len ≤ w.count) :
    (k : Nat) → (chosen : List Nat) → chosen.length + k ≤ len → RandomSource →
      List Nat × RandomSource
  | 0, chosen, _, r => (chosen, r)
  | k + 1, chosen, h, r =>
    let (v, r) := r.drawUntil w (isNew w len chosen) (exists_isNew hlen (by omega))
    rejecting w len hlen k (chosen ++ [scaled w len v]) (by simp; omega) r

/-! ### The choice between them

The sizes are compared in single precision. -/

/-- The number of single precision next to a number, which has 24 significant bits: the even one if
there are two. -/
def single (n : Nat) : Nat :=
  let unit := 1 <<< (n.log2 - 23)
  let down := n / unit
  let left := 2 * (n % unit)
  if unit < left || (left == unit && down % 2 == 1) then (down + 1) * unit else down * unit

/-- Whether shuffling needs less work than any other way.  Up to 11 positions it never does, and up
to 162 it does if `len` is below `(10 + 1.6 n) n`.  From 163 on the bound is `270 n`, or 330 ninths
of `n` in a list of 500000 or more. -/
def prefersInPlace (len n : Nat) : Bool :=
  if n < 163 then 11 < n && 10 * len < (100 + 16 * n) * n
  else if len < 500000 then single len < single (270 * single n)
  -- In single precision 330 / 9 is this number of parts.
  else single len <<< 18 < single (9611947 * single n)

/-- `n` distinct positions out of `len`, all of them if there are no more, in random order. -/
def positions (len n : Nat) (r : RandomSource) : List Nat × RandomSource :=
  let k := min n len
  have hk : ([] : List Nat).length + k ≤ len := by
    rw [List.length_nil, Nat.zero_add]
    exact Nat.min_le_right n len
  if hword : len < Width.word.count then
    if prefersInPlace len k then inPlace len k r
    else if k < 163 then floyd len k r
    else rejecting .word len (Nat.le_of_lt hword) k [] hk r
  else if hlong : len < Width.long.count then
    rejecting .long len (Nat.le_of_lt hlong) k [] hk r
  -- No list in memory is that long.
  else inPlace len k r

/-- `n` elements of a list at distinct random positions, in the order drawn. -/
def choose {α : Type} (items : List α) (n : Nat) (r : RandomSource) : List α × RandomSource :=
  let a := items.toArray
  let (chosen, r) := positions a.size n r
  (chosen.filterMap (a[·]?), r)

/-- At most `max` elements.  A list that is no longer is returned as it stands and nothing is
drawn.  Of a longer one, the front is kept and the last `random` places are given to a random
sample of all that follows the front. -/
def limited {α : Type} (items : List α) (max random : Nat) (r : RandomSource) :
    List α × RandomSource :=
  if items.length ≤ max then (items, r)
  else
    let k := min random max
    let (sample, r) := choose (items.drop (max - k)) k r
    (items.take (max - k) ++ sample, r)

end Sampling
end NodeDiscovery
