import Mathlib.Data.List.Sort
import NodeDiscovery.Proofs.TableRuns

/-!
# The ranking by distance

Distances are linearly ordered, and two identifiers at one distance from a target are the same.  So
nodes of distinct identifiers have exactly one strict ranking, and a ranking of a table depends on
nothing but the nodes that are in it: neither on the slots they stand in nor on how they got there.

## Main definitions

* `Node.Closer` — one node is closer to a target than another.
* `DistanceTable.Holds` — some slot holds the node.

## Main results

* `NodeId.distance_injective` — no two identifiers are at one distance from a target.
* `Node.pairwise_closestFirst`, `Node.closestFirst_eq` — nodes of distinct identifiers are ranked
  strictly, and there is no other strict ranking of them.
* `DistanceTable.Sound.closest_congr` — tables that hold the same nodes rank them alike.
* `DistanceTable.closest_run` — both, for whatever has been done to a table.
-/

namespace NodeDiscovery

/-! ### Distances -/

namespace Distance

instance : LinearOrder Distance where
  le_refl d := List.le_refl d.bytes
  le_trans _ _ _ := List.le_trans
  le_antisymm _ _ h h' := Distance.ext (List.le_antisymm h h')
  le_total d e := List.le_total d.bytes e.bytes
  lt_iff_le_not_ge _ _ := ⟨fun h => ⟨List.le_of_lt h, List.not_le.2 h⟩, fun h => List.not_le.1 h.2⟩
  toDecidableLE := inferInstance
  toDecidableEq := inferInstance
  toDecidableLT := inferInstance

end Distance

/-- Lists that agree after an exclusive or with the same bytes agree before it. -/
theorem zipWith_xor_inj {xs ys zs : List UInt8} (hx : xs.length = zs.length)
    (hy : ys.length = zs.length)
    (h : List.zipWith (· ^^^ ·) xs zs = List.zipWith (· ^^^ ·) ys zs) : xs = ys := by
  refine List.ext_getElem (hx.trans hy.symm) ?_
  intro i hi hi'
  have hbyte := congrArg (·[i]?) h
  simpa [List.getElem?_zipWith, hi, hi', hx ▸ hi, UInt8.xor_left_inj] using hbyte

/-- **No two identifiers are at one distance from a target.** -/
theorem NodeId.distance_injective (target : NodeId) :
    Function.Injective fun id : NodeId => id.distance target := by
  intro a b h
  have hbytes : a.bytes = b.bytes :=
    zipWith_xor_inj (a.length_bytes.trans target.length_bytes.symm)
      (b.length_bytes.trans target.length_bytes.symm) (congrArg Distance.bytes h)
  cases a
  cases b
  simpa using hbytes

/-! ### Ranked nodes -/

namespace Node

/-- One node is closer to a target than another. -/
def Closer (target : NodeId) (a b : Node) : Prop :=
  a.id.distance target < b.id.distance target

instance (target : NodeId) : DecidableRel (Closer target) :=
  fun a b => inferInstanceAs (Decidable (a.id.distance target < b.id.distance target))

instance (target : NodeId) : Std.Irrefl (Closer target) :=
  ⟨fun _ => lt_irrefl _⟩

instance (target : NodeId) : Std.Antisymm (Closer target) :=
  ⟨fun _ _ hab hba => absurd (lt_trans hab hba) (lt_irrefl _)⟩

variable {target : NodeId} {ns ns' : List Node}

theorem mem_closestFirst {n : Node} : n ∈ closestFirst target ns ↔ n ∈ ns := by
  rw [closestFirst, List.mem_mergeSort]

theorem length_closestFirst (target : NodeId) (ns : List Node) :
    (closestFirst target ns).length = ns.length := by
  rw [closestFirst, List.length_mergeSort]

/-- Nodes of distinct identifiers are ranked strictly. -/
theorem pairwise_closestFirst (hns : (ns.map id).Nodup) :
    (closestFirst target ns).Pairwise (Closer target) := by
  have hle : (closestFirst target ns).Pairwise fun a b =>
      a.id.distance target ≤ b.id.distance target := by
    have : Std.Total fun a b : Node => a.id.distance target ≤ b.id.distance target :=
      ⟨fun _ _ => le_total _ _⟩
    have : IsTrans Node fun a b => a.id.distance target ≤ b.id.distance target :=
      ⟨fun _ _ _ => le_trans⟩
    exact List.pairwise_mergeSort' _ ns
  -- Nothing is at the same distance, since equal distances are those of one identifier.
  have hne : (closestFirst target ns).Pairwise fun a b => a.id ≠ b.id := by
    have hperm : ((closestFirst target ns).map id).Perm (ns.map id) :=
      (List.mergeSort_perm ns _).map id
    exact List.pairwise_map.1 (hperm.nodup_iff.2 hns)
  refine (hle.and hne).imp ?_
  rintro a b ⟨hab, hid⟩
  exact lt_of_le_of_ne hab fun h => hid (NodeId.distance_injective target h)

/-- A strict ranking names no identifier twice. -/
theorem nodup_ids_of_pairwise (h : ns.Pairwise (Closer target)) : (ns.map id).Nodup := by
  refine List.pairwise_map.2 (h.imp ?_)
  intro a b hab hid
  unfold Closer at hab
  rw [hid] at hab
  exact lt_irrefl _ hab

/-- Nodes have no other strict ranking. -/
theorem closestFirst_eq {ranked : List Node} (hperm : ranked.Perm ns)
    (hranked : ranked.Pairwise (Closer target)) : closestFirst target ns = ranked := by
  have hns : (ns.map id).Nodup := (hperm.map id).nodup_iff.1 (nodup_ids_of_pairwise hranked)
  refine (pairwise_closestFirst hns).eq_of_mem_iff hranked fun n => ?_
  rw [mem_closestFirst, hperm.mem_iff]

end Node

/-! ### The ranking of a table -/

namespace DistanceTable

variable {t t' : DistanceTable} {target : NodeId}

/-- Some slot holds the node. -/
def Holds (t : DistanceTable) (n : Node) : Prop :=
  ∃ i slot e, t.entry? i slot = some e ∧ e.node = n

theorem holds_iff_mem {n : Node} : t.Holds n ↔ n ∈ t.nodes := by
  simp only [Holds, nodes, List.mem_map, mem_entries, entry?_eq_some]
  constructor
  · rintro ⟨i, slot, e, ⟨hi, he⟩, rfl⟩
    exact ⟨e, ⟨⟨i, hi⟩, List.mem_of_getElem? he⟩, rfl⟩
  · rintro ⟨e, ⟨i, he⟩, rfl⟩
    obtain ⟨slot, hslot⟩ := List.getElem?_of_mem he
    exact ⟨i, slot, e, ⟨i.isLt, hslot⟩, rfl⟩

theorem mem_closest {n : Node} : n ∈ t.closest target ↔ t.Holds n := by
  rw [closest, Node.mem_closestFirst, holds_iff_mem]

theorem length_closest (t : DistanceTable) (target : NodeId) :
    (t.closest target).length = t.size := by
  rw [closest, Node.length_closestFirst, nodes, List.length_map, size]

theorem Sound.pairwise_closest (ht : t.Sound) (target : NodeId) :
    (t.closest target).Pairwise (Node.Closer target) :=
  Node.pairwise_closestFirst ht.nodup_ids

/-- The ranking of a sound table names every identifier once. -/
theorem Sound.nodup_closest (ht : t.Sound) (target : NodeId) :
    ((t.closest target).map Node.id).Nodup :=
  Node.nodup_ids_of_pairwise (ht.pairwise_closest target)

/-- Sound tables that hold the same nodes rank them alike. -/
theorem Sound.closest_congr (ht : t.Sound) (ht' : t'.Sound) (h : ∀ n, t.Holds n ↔ t'.Holds n)
    (target : NodeId) : t.closest target = t'.closest target := by
  refine (ht.pairwise_closest target).eq_of_mem_iff (ht'.pairwise_closest target) ?_
  intro n
  rw [mem_closest, mem_closest, h]

/-- **The ranking of a table is complete, strict and without memory.**  Whatever has been done to a
table, its ranking for a target names exactly the nodes that some slot holds, each once, and every
node is strictly closer to the target than the ones after it.  Any other table that holds the same
nodes has the same ranking, whoever keeps it, whatever room its buckets have, and whatever has been
done to it. -/
theorem closest_run (localId : NodeId) (bucketSize : Nat) (os : List Operation)
    (target : NodeId) :
    let t := (empty localId bucketSize).run os
    (∀ n, n ∈ t.closest target ↔ t.Holds n) ∧
      ((t.closest target).map Node.id).Nodup ∧
      (t.closest target).length = t.size ∧
      (t.closest target).Pairwise (Node.Closer target) ∧
      ∀ localId' bucketSize' os',
        let t' := (empty localId' bucketSize').run os'
        (∀ n, t.Holds n ↔ t'.Holds n) → t.closest target = t'.closest target := by
  intro t
  have ht : t.Sound := ((sound_empty localId bucketSize).run os).1
  refine ⟨fun _ => mem_closest, ht.nodup_closest target, length_closest t target,
    ht.pairwise_closest target, ?_⟩
  intro localId' bucketSize' os' t' hsame
  have ht' : t'.Sound := ((sound_empty localId' bucketSize').run os').1
  exact ht.closest_congr ht' hsame target

end DistanceTable
end NodeDiscovery
