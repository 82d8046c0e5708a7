/-!
# Random words

A source of random numbers is a sequence of places, with a 32-bit word and a 64-bit word to be drawn
at each of them, and the place where the next draw begins.  Everything random in this library is a
function of the words it draws, in the order it draws them.

Some words have to be rejected, and then others are drawn in their place until one will do.  Every
word comes again in a source, however many have been drawn, so that this has an end.  Apart from
that a source may begin with any words (`RandomSource.exists_beginning`).

## Main definitions

* `RandomWords`, `RandomSource` — the sequence, and the place in it.
* `RandomSource.continuing` — the source that begins with given words.
* `RandomSource.next`, `RandomSource.take` — the words that come next.
* `RandomSource.drawUntil` — words are drawn until one will do.
* `RandomSource.between` — a number between two bounds, all equally likely.
* `SplitMix.source` — the sequence that a 64-bit seed stands for.
-/

namespace NodeDiscovery

/-! ### Searching a sequence -/

/-- A later place is looked at after one where nothing was found. -/
def LooksOn (p : Nat → Bool) (step later place : Nat) : Prop :=
  p place = false ∧ later = place + step

/-- A search has an end if it would come to a place where something is found. -/
theorem acc_looksOn {p : Nat → Bool} {step : Nat} (k place : Nat)
    (h : p (place + step * k) = true) : Acc (LooksOn p step) place := by
  induction k generalizing place with
  | zero => exact ⟨_, fun _ hlater => by simp [hlater.1] at h⟩
  | succ k ih =>
    refine ⟨_, fun _ hlater => ?_⟩
    rw [hlater.2]
    refine ih _ ?_
    rwa [Nat.add_assoc, Nat.add_comm step, ← Nat.mul_succ]

instance (p : Nat → Bool) (step : Nat) :
    WellFoundedRelation { place // Acc (LooksOn p step) place } :=
  Acc.wfRel

/-- The first place where something is found, from one on in steps of a given size. -/
def firstFrom (p : Nat → Bool) (step place : Nat) (h : Acc (LooksOn p step) place) : Nat :=
  match hp : p place with
  | true => place
  | false => firstFrom p step (place + step) (h.inv ⟨hp, rfl⟩)
termination_by Subtype.mk place h
decreasing_by exact ⟨hp, rfl⟩

theorem firstFrom_of_true {p : Nat → Bool} {step place : Nat} (h : Acc (LooksOn p step) place)
    (hp : p place = true) : firstFrom p step place h = place := by
  rw [firstFrom]
  split
  · rfl
  · next hfalse => simp [hp] at hfalse

theorem firstFrom_of_false {p : Nat → Bool} {step place : Nat} (h : Acc (LooksOn p step) place)
    (hp : p place = false) :
    firstFrom p step place h = firstFrom p step (place + step) (h.inv ⟨hp, rfl⟩) := by
  rw [firstFrom]
  split
  · next htrue => simp [hp] at htrue
  · rfl

/-- Something is found where a search ends. -/
theorem firstFrom_holds {p : Nat → Bool} {step place : Nat} (h : Acc (LooksOn p step) place) :
    p (firstFrom p step place h) = true := by
  induction h with
  | intro place hlater ih =>
    cases hp : p place with
    | true => rwa [firstFrom_of_true _ hp]
    | false =>
      rw [firstFrom_of_false _ hp]
      exact ih _ ⟨hp, rfl⟩

/-! ### Sources -/

/-- The widths of random words. -/
inductive Width where
  /-- 32 bits. -/
  | word
  /-- 64 bits. -/
  | long
  deriving DecidableEq

/-- The number of words of a width. -/
def Width.count : Width → Nat
  | word => 0x100000000
  | long => 0x10000000000000000

/-- A sequence of random words. -/
structure RandomWords where
  /-- The 32-bit word at every place.  It takes one place. -/
  words : Nat → UInt32
  /-- The 64-bit word at every place. -/
  longs : Nat → UInt64
  /-- How many places a 64-bit word takes. -/
  stride : Nat
  /-- Every 32-bit word comes again. -/
  words_recur : ∀ (w : UInt32) (place : Nat), ∃ k, words (place + k) = w
  /-- Every 64-bit word comes again, wherever such words are drawn from. -/
  longs_recur : ∀ (w : UInt64) (place : Nat), ∃ k, longs (place + stride * k) = w

/-- A sequence of random words and the place in it. -/
structure RandomSource extends RandomWords where
  /-- How many places were passed so far. -/
  drawn : Nat

namespace RandomSource

theorem exists_word (w : UInt32) (place : Nat) : ∃ k, UInt32.ofNat (place + k) = w := by
  refine ⟨(w - UInt32.ofNat place).toNat, ?_⟩
  rw [UInt32.ofNat_add, UInt32.ofNat_toNat, UInt32.add_comm, UInt32.sub_add_cancel]

theorem exists_long (w : UInt64) (place : Nat) : ∃ k, UInt64.ofNat (place + 1 * k) = w := by
  refine ⟨(w - UInt64.ofNat place).toNat, ?_⟩
  rw [Nat.one_mul, UInt64.ofNat_add, UInt64.ofNat_toNat, UInt64.add_comm, UInt64.sub_add_cancel]

/-- The source of some 32-bit words, with 64-bit words that count up. -/
def ofWords (words : Nat → UInt32)
    (words_recur : ∀ (w : UInt32) (place : Nat), ∃ k, words (place + k) = w) : RandomSource where
  words := words
  longs := UInt64.ofNat
  stride := 1
  drawn := 0
  words_recur := words_recur
  longs_recur := exists_long

/-- The source of which the words at the first `n` places are given, and count up from there on. -/
def continuing (n : Nat) (words : Nat → UInt32) (longs : Nat → UInt64) (stride : Nat)
    (hstride : 0 < stride) : RandomSource where
  words place := if place < n then words place else .ofNat place
  longs place := if place < n then longs place else .ofNat (place / stride)
  stride := stride
  drawn := 0
  words_recur w place := by
    obtain ⟨k, hk⟩ := exists_word w (place + n)
    exact ⟨n + k, by rwa [if_neg (by omega), ← Nat.add_assoc]⟩
  longs_recur w place := by
    obtain ⟨k, hk⟩ := exists_long w (place / stride + n)
    have hle : n + k ≤ stride * (n + k) := Nat.le_mul_of_pos_left _ hstride
    refine ⟨n + k, ?_⟩
    rwa [if_neg (by omega), Nat.add_mul_div_left _ _ hstride, ← Nat.add_assoc, ← Nat.one_mul k]

instance : Inhabited RandomSource := ⟨ofWords UInt32.ofNat exists_word⟩

/-- A source may begin with any words, however many, so that no draws which have an end are left
out. -/
theorem exists_beginning (n : Nat) (words : Nat → UInt32) (longs : Nat → UInt64) {stride : Nat}
    (hstride : 0 < stride) :
    ∃ r : RandomSource, r.drawn = 0 ∧ r.stride = stride ∧
      ∀ place < n, r.words place = words place ∧ r.longs place = longs place :=
  ⟨continuing n words longs stride hstride, rfl, rfl, fun _ h => ⟨if_pos h, if_pos h⟩⟩

/-- The source after some more places. -/
def skip (n : Nat) (r : RandomSource) : RandomSource :=
  { r with drawn := r.drawn + n }

/-- Draws a word. -/
def next (r : RandomSource) : UInt32 × RandomSource :=
  (r.words r.drawn, r.skip 1)

/-- Draws some words. -/
def take (n : Nat) (r : RandomSource) : List UInt32 × RandomSource :=
  ((List.range n).map fun i => r.words (r.drawn + i), r.skip n)

@[simp] theorem length_take (n : Nat) (r : RandomSource) : (r.take n).1.length = n := by
  simp [take]

/-! ### Words that will do -/

/-- The word of a width at a place, as a number. -/
def number (r : RandomSource) (w : Width) (place : Nat) : Nat :=
  match w with
  | .word => (r.words place).toNat
  | .long => (r.longs place).toNat

/-- How many places a word of a width takes. -/
def step (r : RandomSource) : Width → Nat
  | .word => 1
  | .long => r.stride

theorem number_lt (r : RandomSource) (w : Width) (place : Nat) : r.number w place < w.count := by
  cases w with
  | word => exact (r.words place).toNat_lt
  | long => exact (r.longs place).toNat_lt

/-- Every number comes again. -/
theorem number_recurs (r : RandomSource) {w : Width} {v : Nat} (hv : v < w.count) (place : Nat) :
    ∃ k, r.number w (place + r.step w * k) = v := by
  cases w with
  | word =>
    obtain ⟨k, hk⟩ := r.words_recur (UInt32.ofNat v) place
    refine ⟨k, ?_⟩
    rw [number, step, Nat.one_mul, hk]
    exact UInt32.toNat_ofNat_of_lt' hv
  | long =>
    obtain ⟨k, hk⟩ := r.longs_recur (UInt64.ofNat v) place
    refine ⟨k, ?_⟩
    rw [number, step, hk]
    exact UInt64.toNat_ofNat_of_lt' hv

theorem acc_of_exists (r : RandomSource) {w : Width} {p : Nat → Bool}
    (h : ∃ v < w.count, p v = true) (place : Nat) :
    Acc (LooksOn (fun place => p (r.number w place)) (r.step w)) place := by
  obtain ⟨v, hv, hp⟩ := h
  obtain ⟨k, hk⟩ := r.number_recurs hv place
  exact acc_looksOn k place (hk ▸ hp)

/-- Draws words of a width until one will do. -/
def drawUntil (w : Width) (p : Nat → Bool) (h : ∃ v < w.count, p v = true) (r : RandomSource) :
    Nat × RandomSource :=
  let place := firstFrom (fun place => p (r.number w place)) (r.step w) r.drawn
    (r.acc_of_exists h r.drawn)
  (r.number w place, { r with drawn := place + r.step w })

/-- A word that will do is taken, and after any other one drawing goes on. -/
theorem drawUntil_eq {w : Width} {p : Nat → Bool} (h : ∃ v < w.count, p v = true)
    (r : RandomSource) :
    r.drawUntil w p h =
      if p (r.number w r.drawn) then (r.number w r.drawn, r.skip (r.step w))
      else (r.skip (r.step w)).drawUntil w p h := by
  have hacc := r.acc_of_exists h r.drawn
  cases hp : p (r.number w r.drawn) with
  | true =>
    have hplace := firstFrom_of_true hacc hp
    simp only [drawUntil, hplace, ↓reduceIte]
    rfl
  | false =>
    have hplace := firstFrom_of_false hacc hp
    simp only [drawUntil, hplace, Bool.false_eq_true, ↓reduceIte]
    rfl

/-- What is drawn will do. -/
theorem drawUntil_holds {w : Width} {p : Nat → Bool} (h : ∃ v < w.count, p v = true)
    (r : RandomSource) : p (r.drawUntil w p h).1 = true :=
  firstFrom_holds (r.acc_of_exists h r.drawn)

theorem drawUntil_lt {w : Width} {p : Nat → Bool} (h : ∃ v < w.count, p v = true)
    (r : RandomSource) : (r.drawUntil w p h).1 < w.count :=
  r.number_lt w _

/-! ### Bounded numbers

A word times the size of the range has the result in its upper half.  Its lower half is rejected
above a bound that leaves each result equally many words. -/

/-- The bound on the lower half of the product for a range of the given size: below the largest
multiple of the size by a power of two that fits in a word. -/
def acceptanceBound (size : Nat) : Nat :=
  size <<< (31 - size.log2) - 1

/-- Draws a number below a size. -/
def below (size : Nat) (r : RandomSource) : Nat × RandomSource :=
  -- The word zero is never rejected.
  let (v, r) := r.drawUntil .word
    (fun v => decide (v * size % Width.word.count ≤ acceptanceBound size)) ⟨0, by decide, by simp⟩
  (v * size / Width.word.count, r)

/-- Draws a number from `lo` to `hi`, both included. -/
def between (lo hi : Nat) (r : RandomSource) : Nat × RandomSource :=
  let (n, r) := r.below (hi - lo + 1)
  (lo + n, r)

end RandomSource

/-! ### SplitMix64 -/

namespace SplitMix

/-- The odd step between two states. -/
def gamma : UInt64 := 0x9E3779B97F4A7C15

/-- The output of a state. -/
def mix (state : UInt64) : UInt64 :=
  let z := (state ^^^ (state >>> 30)) * 0xBF58476D1CE4E5B9
  let z := (z ^^^ (z >>> 27)) * 0x94D049BB133111EB
  z ^^^ (z >>> 31)

/-- Output number `n` of a seed, counted from zero: the state after `n + 1` steps, mixed. -/
def output (seed : UInt64) (n : Nat) : UInt64 :=
  mix (seed + UInt64.ofNat (n + 1) * gamma)

theorem shiftRight_thrice (z s : UInt64) (hlow : 22 ≤ s.toNat) (hhigh : s.toNat < 64) :
    z >>> s >>> s >>> s = 0 := by
  apply UInt64.toNat_inj.1
  simp only [UInt64.toNat_shiftRight, Nat.mod_eq_of_lt hhigh, Nat.shiftRight_eq_div_pow,
    Nat.div_div_eq_div_mul, ← Nat.pow_add]
  have hlarge : 2 ^ 64 ≤ 2 ^ (s.toNat + s.toNat + s.toNat) :=
    Nat.pow_le_pow_right (by decide) (by omega)
  exact Nat.div_eq_of_lt (Nat.lt_of_lt_of_le z.toNat_lt hlarge)

/-- Adding the upper bits of a word to its lower ones can be undone: after three shifts no bit is
left. -/
theorem exists_xor_shiftRight (s : UInt64) (hlow : 22 ≤ s.toNat) (hhigh : s.toNat < 64)
    (z : UInt64) : ∃ y, y ^^^ (y >>> s) = z := by
  refine ⟨z ^^^ (z >>> s) ^^^ (z >>> s >>> s), ?_⟩
  rw [UInt64.shiftRight_xor, UInt64.shiftRight_xor, shiftRight_thrice z s hlow hhigh,
    UInt64.xor_zero, UInt64.xor_assoc z, UInt64.xor_assoc z, UInt64.xor_self, UInt64.xor_zero]

/-- So can the multiplication by an odd number. -/
theorem exists_mul {b c : UInt64} (h : b * c = 1) (z : UInt64) : ∃ y, y * c = z :=
  ⟨z * b, by rw [UInt64.mul_assoc, h, UInt64.mul_one]⟩

/-- Every word is the output of some state. -/
theorem exists_mix (w : UInt64) : ∃ state, mix state = w := by
  obtain ⟨a, ha⟩ := exists_xor_shiftRight 31 (by decide) (by decide) w
  obtain ⟨b, hb⟩ := exists_mul (b := 0x319642B2D24D8EC3) (c := 0x94D049BB133111EB) (by decide) a
  obtain ⟨c, hc⟩ := exists_xor_shiftRight 27 (by decide) (by decide) b
  obtain ⟨d, hd⟩ := exists_mul (b := 0x96DE1B173F119089) (c := 0xBF58476D1CE4E5B9) (by decide) c
  obtain ⟨state, hstate⟩ := exists_xor_shiftRight 30 (by decide) (by decide) d
  refine ⟨state, ?_⟩
  simp only [mix, hstate, hd, hc, hb, ha]

/-- Every word comes again among the outputs of a seed. -/
theorem output_recurs (seed w : UInt64) (n : Nat) : ∃ k, output seed (n + k) = w := by
  obtain ⟨state, rfl⟩ := exists_mix w
  -- The steps run through all states, since their size is odd.
  have hodd : (state - seed) * 0xF1DE83E19937733D * gamma = state - seed := by
    rw [UInt64.mul_assoc, show (0xF1DE83E19937733D : UInt64) * gamma = 1 by decide, UInt64.mul_one]
  refine ⟨((state - seed) * 0xF1DE83E19937733D - UInt64.ofNat (n + 1)).toNat, ?_⟩
  rw [output, Nat.add_right_comm, UInt64.ofNat_add, UInt64.ofNat_toNat, UInt64.add_comm (.ofNat _),
    UInt64.sub_add_cancel, hodd, UInt64.add_comm, UInt64.sub_add_cancel]

/-- The outputs of a seed, and their upper halves as the 32-bit words. -/
def source (seed : UInt64) : RandomSource where
  words := fun n => (output seed n >>> 32).toUInt32
  longs := output seed
  stride := 1
  drawn := 0
  words_recur := by
    intro w place
    obtain ⟨k, hk⟩ := output_recurs seed (w.toUInt64 <<< 32) place
    refine ⟨k, ?_⟩
    rw [hk]
    apply UInt32.toNat_inj.1
    have hw : w.toNat < 2 ^ 32 := w.toNat_lt
    have hshift : (32 : UInt64).toNat % 64 = 32 := rfl
    simp only [UInt64.toNat_toUInt32, UInt64.toNat_shiftRight, UInt64.toNat_shiftLeft,
      UInt32.toNat_toUInt64, Nat.shiftLeft_eq, Nat.shiftRight_eq_div_pow, hshift]
    omega
  longs_recur := by
    intro w place
    obtain ⟨k, hk⟩ := output_recurs seed w place
    exact ⟨k, by rw [Nat.one_mul]; exact hk⟩

end SplitMix
end NodeDiscovery
