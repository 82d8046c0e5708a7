import Mathlib.Data.List.Nodup
import NodeDiscovery.Random.Sampling

/-!
# Samples

However the random words fall, a sample of positions has as many as were asked for, or all of them
if there are no more; none of them is out of range, and none occurs twice.  Shuffling only changes
the order of all positions.  Floyd's method draws each position from a range that is longer by one
than that of the draw before, so that a repetition can be resolved by the last position of the
range, which no earlier draw could give.  Where positions are drawn from all, drawing goes on until
one is new.

## Main definitions

* `Sampling.IsSample` — positions below a bound, none of them twice.

## Main results

* `Sampling.IsSample.step` — what one draw of Floyd's method keeps.
* `Sampling.isSample_positions`, `Sampling.length_positions` — a sample of positions is one, and has
  as many as there can be.
* `Sampling.map_some_choose` — what is chosen stands at the positions drawn.
* `Sampling.length_limited`, `Sampling.nodup_limited` — how long a bounded part of a list is, and
  that it repeats nothing that the list does not repeat.
* `Sampling.limited_draws` — all of it, for every list, bound and source of random words.
-/

namespace NodeDiscovery

/-! ### Bounded numbers -/

namespace RandomSource

theorem below_lt {size : Nat} (hsize : 0 < size) (r : RandomSource) : (r.below size).1 < size :=
  Nat.div_lt_of_lt_mul (Nat.mul_lt_mul_of_pos_right (r.number_lt .word _) hsize)

/-- A number that is drawn keeps within its bounds. -/
theorem between_le {lo hi : Nat} (h : lo ≤ hi) (r : RandomSource) : (r.between lo hi).1 ≤ hi := by
  have hdrawn : (r.below (hi - lo + 1)).1 < hi - lo + 1 := below_lt (Nat.succ_pos _) r
  show lo + (r.below (hi - lo + 1)).1 ≤ hi
  omega

end RandomSource

namespace Sampling

/-- Positions below a bound, none of them twice. -/
structure IsSample (bound : Nat) (chosen : List Nat) : Prop where
  /-- No position occurs twice. -/
  nodup : chosen.Nodup
  /-- Every position is below the bound. -/
  lt : ∀ p ∈ chosen, p < bound

theorem IsSample.of_perm {bound : Nat} {chosen chosen' : List Nat} (h : IsSample bound chosen)
    (hperm : chosen'.Perm chosen) : IsSample bound chosen' where
  nodup := hperm.nodup_iff.2 h.nodup
  lt := fun p hp => h.lt p (hperm.mem_iff.1 hp)

theorem IsSample.nil {bound : Nat} : IsSample bound [] where
  nodup := List.nodup_nil
  lt := fun _ hp => absurd hp List.not_mem_nil

/-! ### Shuffling -/

theorem perm_swapIfInBounds (a : Array Nat) (i j : Nat) : (a.swapIfInBounds i j).Perm a := by
  rw [Array.swapIfInBounds_def]
  split
  · split
    · exact Array.swap_perm _ _
    · exact .refl a
  · exact .refl a

/-- Shuffling the front changes the order only. -/
theorem perm_shuffleFront (k i : Nat) (a : Array Nat) (r : RandomSource) :
    (shuffleFront k i a r).1.Perm a := by
  induction k generalizing i a r with
  | zero => exact .refl a
  | succ k ih => exact (ih _ _ _).trans (perm_swapIfInBounds a i _)

/-- So does shuffling from the back. -/
theorem perm_shuffleBack (i : Nat) (a : Array Nat) (r : RandomSource) :
    (shuffleBack i a r).1.Perm a := by
  induction i generalizing a r with
  | zero => exact .refl a
  | succ i ih => exact (ih _ _).trans (perm_swapIfInBounds a (i + 1) _)

theorem length_inPlace (len n : Nat) (r : RandomSource) :
    (inPlace len n r).1.length = min n len := by
  show ((shuffleFront _ _ _ _).1.toList.take n).length = _
  rw [List.length_take, Array.length_toList, (perm_shuffleFront n 0 _ r).size_eq, Array.size_range]

theorem isSample_inPlace (len n : Nat) (r : RandomSource) : IsSample len (inPlace len n r).1 := by
  have hperm := (perm_shuffleFront n 0 (Array.range len) r).toList
  rw [Array.toList_range] at hperm
  have hall : IsSample len (List.range len) := ⟨List.nodup_range, fun p hp => List.mem_range.1 hp⟩
  have hshuffled := hall.of_perm hperm
  exact ⟨hshuffled.nodup.sublist (List.take_sublist n _),
    fun p hp => hshuffled.lt p (List.mem_of_mem_take hp)⟩

/-! ### Floyd's method -/

/-- What one draw adds to the positions: the one drawn, or the last of the range if the one drawn is
there already. -/
def newPosition (j t : Nat) (chosen : List Nat) : Nat :=
  if t ∈ chosen then j else t

/-- One draw of Floyd's method from the range up to `j` keeps the positions below the bound and
distinct: if what is drawn is there already, `j` is not, since no earlier range reached it. -/
theorem IsSample.step {j t : Nat} {chosen chosen' : List Nat} (h : IsSample j chosen) (ht : t ≤ j)
    (hperm : chosen'.Perm (newPosition j t chosen :: chosen)) : IsSample (j + 1) chosen' := by
  have hnew : newPosition j t chosen ∉ chosen := by
    unfold newPosition
    split
    · exact fun hj => Nat.lt_irrefl j (h.lt j hj)
    · assumption
  have hle : newPosition j t chosen ≤ j := by
    unfold newPosition
    split
    · exact Nat.le_refl j
    · exact ht
  refine IsSample.of_perm ⟨List.nodup_cons.2 ⟨hnew, h.nodup⟩, fun p hp => ?_⟩ hperm
  rcases List.mem_cons.1 hp with rfl | hp
  · exact Nat.lt_succ_of_le hle
  · exact Nat.lt_succ_of_lt (h.lt p hp)

/-- Inserting puts the new position somewhere among the others. -/
theorem perm_insertDrawn (j t : Nat) (chosen : List Nat) :
    (insertDrawn j t chosen).Perm (newPosition j t chosen :: chosen) := by
  induction chosen with
  | nil => exact .refl [t]
  | cons c chosen ih =>
    unfold insertDrawn
    by_cases hc : c = t
    · rw [if_pos hc, newPosition, if_pos (by simp [hc])]
    · have hsame : newPosition j t (c :: chosen) = newPosition j t chosen := by
        simp [newPosition, Ne.symm hc]
      rw [if_neg hc, hsame]
      exact (ih.cons c).trans (.swap _ c chosen)

theorem length_floydInserting (k j : Nat) (chosen : List Nat) (r : RandomSource) :
    (floydInserting k j chosen r).1.length = chosen.length + k := by
  induction k generalizing j chosen r with
  | zero => rfl
  | succ k ih =>
    unfold floydInserting
    rw [ih, (perm_insertDrawn j _ chosen).length_eq, List.length_cons]
    omega

theorem isSample_floydInserting {k j : Nat} {chosen : List Nat} (h : IsSample j chosen)
    (r : RandomSource) : IsSample (j + k) (floydInserting k j chosen r).1 := by
  induction k generalizing j chosen r with
  | zero => exact h
  | succ k ih =>
    have hone := h.step (r.between_le (Nat.zero_le j)) (perm_insertDrawn j _ chosen)
    rw [show j + (k + 1) = j + 1 + k by omega]
    exact ih hone _

theorem length_floydAppending (k j : Nat) (chosen : List Nat) (r : RandomSource) :
    (floydAppending k j chosen r).1.length = chosen.length + k := by
  induction k generalizing j chosen r with
  | zero => rfl
  | succ k ih =>
    unfold floydAppending
    rw [ih, List.length_append, List.length_singleton]
    omega

theorem isSample_floydAppending {k j : Nat} {chosen : List Nat} (h : IsSample j chosen)
    (r : RandomSource) : IsSample (j + k) (floydAppending k j chosen r).1 := by
  induction k generalizing j chosen r with
  | zero => exact h
  | succ k ih =>
    have hone := h.step (r.between_le (Nat.zero_le j)) (List.perm_append_singleton _ chosen)
    rw [show j + (k + 1) = j + 1 + k by omega]
    exact ih hone _

theorem length_floyd (len n : Nat) (r : RandomSource) : (floyd len n r).1.length = n := by
  unfold floyd
  split
  · rw [length_floydInserting, List.length_nil, Nat.zero_add]
  · show (shuffleBack _ _ _).1.toList.length = n
    rw [Array.length_toList, (perm_shuffleBack _ _ _).size_eq, List.size_toArray,
      length_floydAppending, List.length_nil, Nat.zero_add]

theorem isSample_floyd {len n : Nat} (h : n ≤ len) (r : RandomSource) :
    IsSample len (floyd len n r).1 := by
  have hbound : len - n + n = len := Nat.sub_add_cancel h
  unfold floyd
  split
  · have hinserted := isSample_floydInserting (k := n) (j := len - n) .nil r
    rwa [hbound] at hinserted
  · have happended := isSample_floydAppending (k := n) (j := len - n) .nil r
    rw [hbound] at happended
    exact happended.of_perm (perm_shuffleBack _ _ _).toList

/-! ### Rejection -/

/-- A word below all words stands for a position below the length. -/
theorem scaled_lt {w : Width} {len v : Nat} (hlen : 0 < len) (hv : v < w.count) :
    scaled w len v < len :=
  Nat.div_lt_of_lt_mul (Nat.mul_lt_mul_of_pos_right hv hlen)

theorem not_mem_of_isNew {w : Width} {len v : Nat} {chosen : List Nat}
    (h : isNew w len chosen v = true) : scaled w len v ∉ chosen := by
  intro hin
  simp [isNew, hin] at h

theorem length_rejecting {w : Width} {len k : Nat} {chosen : List Nat} (hlen : len ≤ w.count)
    (h : chosen.length + k ≤ len) (r : RandomSource) :
    (rejecting w len hlen k chosen h r).1.length = chosen.length + k := by
  induction k generalizing chosen r with
  | zero => rfl
  | succ k ih =>
    unfold rejecting
    rw [ih, List.length_append, List.length_singleton]
    omega

theorem isSample_rejecting {w : Width} {len k : Nat} {chosen : List Nat} (hlen : len ≤ w.count)
    (h : chosen.length + k ≤ len) (hchosen : IsSample len chosen) (r : RandomSource) :
    IsSample len (rejecting w len hlen k chosen h r).1 := by
  induction k generalizing chosen r with
  | zero => exact hchosen
  | succ k ih =>
    have hsome := exists_isNew hlen (show chosen.length < len by omega)
    have hnew := not_mem_of_isNew (RandomSource.drawUntil_holds hsome r)
    have hlt : scaled w len (r.drawUntil w (isNew w len chosen) hsome).1 < len :=
      scaled_lt (by omega) (RandomSource.drawUntil_lt hsome r)
    refine ih _ (IsSample.of_perm ⟨List.nodup_cons.2 ⟨hnew, hchosen.nodup⟩, fun p hp => ?_⟩
      (List.perm_append_singleton _ chosen)) _
    rcases List.mem_cons.1 hp with rfl | hp
    · exact hlt
    · exact hchosen.lt p hp

/-! ### The choice between them -/

/-- What every way to draw a sample gives, a sample gives. -/
theorem positions_induction {P : List Nat → Prop} (len n : Nat) (r : RandomSource)
    (hinPlace : P (inPlace len (min n len) r).1) (hfloyd : P (floyd len (min n len) r).1)
    (hrejecting : ∀ (w : Width) (hlen : len ≤ w.count) (h : [].length + min n len ≤ len),
      P (rejecting w len hlen (min n len) [] h r).1) :
    P (positions len n r).1 := by
  unfold positions
  dsimp only
  split
  · split
    · exact hinPlace
    · split
      · exact hfloyd
      · exact hrejecting _ _ _
  · split
    · exact hrejecting _ _ _
    · exact hinPlace

/-- A sample has as many positions as were asked for, or all of them if there are no more. -/
theorem length_positions (len n : Nat) (r : RandomSource) :
    (positions len n r).1.length = min n len := by
  refine positions_induction (P := fun chosen => chosen.length = min n len) len n r ?_ ?_ ?_
  · rw [length_inPlace]
    omega
  · exact length_floyd len _ r
  · intro w hlen h
    rw [length_rejecting hlen h, List.length_nil, Nat.zero_add]

/-- Whichever way it is drawn, a sample has no position out of range and none twice. -/
theorem isSample_positions (len n : Nat) (r : RandomSource) :
    IsSample len (positions len n r).1 := by
  refine positions_induction (P := IsSample len) len n r ?_ ?_ ?_
  · exact isSample_inPlace len _ r
  · exact isSample_floyd (Nat.min_le_right n len) r
  · exact fun w hlen h => isSample_rejecting hlen h .nil r

/-! ### What is chosen -/

variable {α : Type}

/-- What is chosen stands at the positions drawn. -/
theorem map_some_choose (items : List α) (n : Nat) (r : RandomSource) :
    (choose items n r).1.map some = (positions items.length n r).1.map (items[·]?) := by
  have hlt := (isSample_positions items.length n r).lt
  show ((positions items.length n r).1.filterMap (items.toArray[·]?)).map some = _
  revert hlt
  induction (positions items.length n r).1 with
  | nil => intro _; rfl
  | cons p chosen ih =>
    intro hlt
    have hp : p < items.length := hlt p List.mem_cons_self
    have hsome : items.toArray[p]? = some items[p] := by simp [hp]
    rw [List.filterMap_cons_some hsome, List.map_cons, List.map_cons,
      ih fun q hq => hlt q (List.mem_cons_of_mem p hq), List.getElem?_eq_getElem hp]

theorem mem_of_choose {items : List α} {n : Nat} {r : RandomSource} {x : α}
    (h : x ∈ (choose items n r).1) : x ∈ items := by
  obtain ⟨p, -, hp⟩ := List.mem_filterMap.1 h
  exact List.mem_toArray.1 (Array.mem_of_getElem? hp)

theorem length_choose (items : List α) (n : Nat) (r : RandomSource) :
    (choose items n r).1.length = min n items.length := by
  have hmap := congrArg List.length (map_some_choose items n r)
  rwa [List.length_map, List.length_map, length_positions] at hmap

/-- Of elements that are all different none is chosen twice. -/
theorem nodup_choose {items : List α} (h : items.Nodup) (n : Nat) (r : RandomSource) :
    (choose items n r).1.Nodup := by
  have hsample := isSample_positions items.length n r
  refine List.Nodup.of_map some ?_
  rw [map_some_choose]
  refine hsample.nodup.map_on fun p hp q _ hpq => ?_
  exact (List.getElem?_inj (hsample.lt p hp) h).1 hpq

/-- Which positions are drawn does not depend on what stands there. -/
theorem choose_map {β : Type} (f : α → β) (items : List α) (n : Nat) (r : RandomSource) :
    choose (items.map f) n r = ((choose items n r).1.map f, (choose items n r).2) := by
  have hfound : ∀ p : Nat, (items.map f).toArray[p]? = (items.toArray[p]?).map f := by simp
  unfold choose
  dsimp only
  rw [List.map_filterMap, List.size_toArray, List.size_toArray, List.length_map]
  simp only [hfound]

/-! ### Bounded parts of a list -/

theorem limited_of_le {items : List α} {max : Nat} (h : items.length ≤ max) (random : Nat)
    (r : RandomSource) : limited items max random r = (items, r) :=
  if_pos h

theorem limited_of_lt {items : List α} {max : Nat} (h : max < items.length) (random : Nat)
    (r : RandomSource) :
    (limited items max random r).1 = items.take (max - min random max) ++
      (choose (items.drop (max - min random max)) (min random max) r).1 := by
  rw [limited, if_neg (Nat.not_le.2 h)]

/-- The front part ends where the places begin that go to chance. -/
theorem length_front {items : List α} {max : Nat} (h : max < items.length) (random : Nat) :
    (items.take (max - min random max)).length = max - min random max := by
  rw [List.length_take]
  omega

theorem take_limited {items : List α} {max : Nat} (h : max < items.length) (random : Nat)
    (r : RandomSource) :
    (limited items max random r).1.take (max - min random max)
      = items.take (max - min random max) := by
  rw [limited_of_lt h, List.take_left' (length_front h random)]

theorem drop_limited {items : List α} {max : Nat} (h : max < items.length) (random : Nat)
    (r : RandomSource) :
    (limited items max random r).1.drop (max - min random max)
      = (choose (items.drop (max - min random max)) (min random max) r).1 := by
  rw [limited_of_lt h, List.drop_left' (length_front h random)]

theorem length_limited (items : List α) (max random : Nat) (r : RandomSource) :
    (limited items max random r).1.length = min items.length max := by
  rcases Nat.lt_or_ge max items.length with h | h
  · rw [limited_of_lt h, List.length_append, List.length_take, length_choose, List.length_drop]
    omega
  · rw [limited_of_le h, Nat.min_eq_left h]

/-- A bounded part of a list keeps within its bound. -/
theorem length_limited_le (items : List α) (max random : Nat) (r : RandomSource) :
    (limited items max random r).1.length ≤ max := by
  rw [length_limited]
  exact Nat.min_le_right _ _

/-- What is taken from a list is taken from the list. -/
theorem mem_of_limited {items : List α} {max random : Nat} {r : RandomSource} {x : α}
    (h : x ∈ (limited items max random r).1) : x ∈ items := by
  rcases Nat.lt_or_ge max items.length with hlt | hle
  · rw [limited_of_lt hlt] at h
    rcases List.mem_append.1 h with h | h
    · exact List.mem_of_mem_take h
    · exact List.mem_of_mem_drop (mem_of_choose h)
  · rwa [limited_of_le hle] at h

/-- Of elements that are all different none is taken twice. -/
theorem nodup_limited {items : List α} (h : items.Nodup) (max random : Nat) (r : RandomSource) :
    (limited items max random r).1.Nodup := by
  rcases Nat.lt_or_ge max items.length with hlt | hle
  · rw [limited_of_lt hlt]
    rw [← List.take_append_drop (max - min random max) items] at h
    obtain ⟨hfront, hrest, hdisjoint⟩ := List.nodup_append.1 h
    refine List.nodup_append.2 ⟨hfront, nodup_choose hrest _ r, ?_⟩
    exact fun x hx y hy => hdisjoint x hx y (mem_of_choose hy)
  · rwa [limited_of_le hle]

theorem limited_map {β : Type} (f : α → β) (items : List α) (max random : Nat) (r : RandomSource) :
    (limited (items.map f) max random r).1 = (limited items max random r).1.map f := by
  rcases Nat.lt_or_ge max items.length with hlt | hle
  · rw [limited_of_lt hlt, limited_of_lt (by rwa [List.length_map]), List.map_append,
      List.map_take, ← List.map_drop, choose_map]
  · rw [limited_of_le hle, limited_of_le (by rwa [List.length_map])]

/-- **A bounded part of a list takes nothing twice.**  A list that keeps within the bound is left as
it stands, and no random word is drawn.  Of a longer one as many elements are taken as the bound
says: a front part in its order, and then, for as many places as go to chance or as there are, what
stands at different positions behind the front part, all of them positions of the list. -/
theorem limited_draws (items : List α) (max random : Nat) (r : RandomSource) :
    (items.length ≤ max → limited items max random r = (items, r)) ∧
    (max < items.length →
      let k := min random max
      let part := (limited items max random r).1
      let picked := (positions (items.length - (max - k)) k r).1.map (max - k + ·)
      part.length = max ∧ part.take (max - k) = items.take (max - k) ∧
      picked.length = k ∧ picked.Nodup ∧ (∀ p ∈ picked, max - k ≤ p ∧ p < items.length) ∧
      (part.drop (max - k)).map some = picked.map (items[·]?)) := by
  refine ⟨fun h => limited_of_le h random r, fun h => ?_⟩
  intro k part picked
  have hsample := isSample_positions (items.length - (max - k)) k r
  refine ⟨?_, ?_, ?_, ?_, ?_, ?_⟩
  · rw [length_limited, Nat.min_eq_right (Nat.le_of_lt h)]
  · exact take_limited h random r
  · rw [List.length_map, length_positions]
    omega
  · exact hsample.nodup.map fun p q hpq => Nat.add_left_cancel hpq
  · intro p hp
    obtain ⟨q, hq, rfl⟩ := List.mem_map.1 hp
    have hbound := hsample.lt q hq
    omega
  · rw [drop_limited h, map_some_choose, List.length_drop, List.map_map]
    -- A position in the rest of the list is one in the list, counted from behind the front part.
    refine List.map_congr_left fun p _ => ?_
    rw [List.getElem?_drop]
    rfl

end Sampling
end NodeDiscovery
