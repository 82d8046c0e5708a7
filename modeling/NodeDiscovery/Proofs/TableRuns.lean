import Mathlib.Data.Set.Card
import NodeDiscovery.Proofs.TableEntries

/-!
# The tables that operations make

Whatever is done to a table that starts without nodes, every slot holds a node that belongs to the
bucket it is in, and no other slot holds the same identifier.  That is why looking in one bucket is
enough to find a node, and why counting slots counts identifiers.

## Main definitions

* `DistanceTable.Operation` — what can be done to a table.
* `DistanceTable.run` — the table after a sequence of operations.
* `DistanceTable.Stores` — some slot holds a node with the identifier.

## Main results

* `DistanceTable.Sound.apply` — an operation keeps a table sound.
* `DistanceTable.Sound.locate?_eq_some` — a sound table locates a node exactly where it stands.
* `DistanceTable.Sound.size_eq_ncard` — a sound table has as many slots as identifiers.
* `DistanceTable.represents_run` — all of it, for every sequence of operations on an empty table.
-/

namespace NodeDiscovery

/-! ### Slots of a bucket -/

namespace Bucket

/-- Two slots of a bucket that hold one identifier are the same. -/
theorem Distinct.slot_unique {b : Bucket} (hb : b.Distinct) {s s' : Nat} {e e' : BucketEntry}
    (he : b.entries[s]? = some e) (he' : b.entries[s']? = some e')
    (hid : e.node.id = e'.node.id) : s = s' := by
  have hlt : s < (b.entries.map fun e => e.node.id).length := by
    rw [List.length_map]
    exact (List.getElem?_eq_some_iff.1 he).1
  refine (List.getElem?_inj hlt hb).1 ?_
  rw [List.getElem?_map, List.getElem?_map, he, he', Option.map_some, Option.map_some, hid]

/-- The slot that is found is the one that holds the identifier. -/
theorem Distinct.slot?_eq_some {b : Bucket} (hb : b.Distinct) {id : NodeId} {s : Nat} :
    b.slot? id = some s ↔ ∃ e, b.entries[s]? = some e ∧ e.node.id = id := by
  unfold slot?
  rw [List.findIdx?_eq_some_iff_getElem]
  constructor
  · rintro ⟨hs, hid, -⟩
    exact ⟨b.entries[s], List.getElem?_eq_getElem hs, isAbout_iff.1 hid⟩
  · rintro ⟨e, he, rfl⟩
    obtain ⟨hs, rfl⟩ := List.getElem?_eq_some_iff.1 he
    refine ⟨hs, isAbout_iff.2 rfl, ?_⟩
    intro j hj hid
    have hlt : j < b.entries.length := by omega
    have hsame := hb.slot_unique (List.getElem?_eq_getElem hlt) he (isAbout_iff.1 hid)
    omega

end Bucket

namespace DistanceTable

/-! ### Operations -/

/-- What can be done to a table. -/
inductive Operation where
  /-- A node is to be added. -/
  | add (node : Node) (now : Timestamp)
  /-- A node has been seen. -/
  | refresh (node : Node) (now : Timestamp)
  /-- A node is to be removed. -/
  | remove (id : NodeId)

/-- The table after an operation. -/
def Operation.apply (t : DistanceTable) : Operation → DistanceTable
  | add node now => (t.add node now).2
  | refresh node now => (t.refresh node now).2
  | remove id => (t.remove id).2

/-- The table after a sequence of operations. -/
def run (t : DistanceTable) (os : List Operation) : DistanceTable :=
  os.foldl Operation.apply t

variable {t : DistanceTable}

theorem apply_add {n : Node} {now : Timestamp} {r : Except TableError Admission}
    {t' : DistanceTable} (h : t.add n now = (r, t')) : (Operation.add n now).apply t = t' := by
  rw [Operation.apply, h]

/-- An operation keeps a table sound, and its measures. -/
theorem Sound.apply (ht : t.Sound) (o : Operation) :
    (o.apply t).Sound ∧ (o.apply t).localId = t.localId ∧
      (o.apply t).bucketSize = t.bucketSize := by
  cases o with
  | add n now =>
    rcases add_cases t n now with
      ⟨-, hadd⟩ | ⟨-, hin, hadd⟩ | ⟨-, -, -, ⟨i, -, hadd⟩ | hadd⟩ | ⟨hself, hnew, hroom, hadd⟩
    · rw [apply_add hadd]
      exact ⟨ht, rfl, rfl⟩
    · rw [apply_add hadd]
      exact ⟨ht.setBucket ((ht.fits n.id).refresh hin now), rfl, rfl⟩
    · rw [apply_add hadd]
      exact ⟨ht, rfl, rfl⟩
    · rw [apply_add hadd]
      exact ⟨ht, rfl, rfl⟩
    · rw [apply_add hadd]
      exact ⟨ht.setBucket ((ht.fits n.id).add hself hnew hroom now), rfl, rfl⟩
  | refresh n now => exact ⟨ht.refresh n now, localId_refresh t n now, bucketSize_refresh t n now⟩
  | remove id => exact ⟨ht.remove id, rfl, rfl⟩

theorem Sound.run (ht : t.Sound) (os : List Operation) :
    (t.run os).Sound ∧ (t.run os).localId = t.localId ∧ (t.run os).bucketSize = t.bucketSize := by
  induction os generalizing t with
  | nil => exact ⟨ht, rfl, rfl⟩
  | cons o os ih =>
    obtain ⟨hsound, hid, hsize⟩ := ht.apply o
    obtain ⟨hsound', hid', hsize'⟩ := ih hsound
    exact ⟨hsound', hid'.trans hid, hsize'.trans hsize⟩

/-! ### Slots -/

/-- Some slot holds a node with the identifier. -/
def Stores (t : DistanceTable) (id : NodeId) : Prop :=
  ∃ i slot e, t.entry? i slot = some e ∧ e.node.id = id

theorem bucket?_eq_some {i : Nat} {b : Bucket} :
    t.bucket? i = some b ↔ ∃ h : i < 256, t.buckets.get ⟨i, h⟩ = b := by
  unfold bucket?
  rw [Vector.getElem?_eq_some_iff]
  rfl

theorem entry?_eq_some {i slot : Nat} {e : BucketEntry} :
    t.entry? i slot = some e ↔
      ∃ h : i < 256, (t.buckets.get ⟨i, h⟩).entries[slot]? = some e := by
  unfold entry?
  rw [Option.bind_eq_some_iff]
  constructor
  · rintro ⟨b, hb, he⟩
    obtain ⟨h, rfl⟩ := bucket?_eq_some.1 hb
    exact ⟨h, he⟩
  · rintro ⟨h, he⟩
    exact ⟨_, bucket?_eq_some.2 ⟨h, rfl⟩, he⟩

theorem stores_iff_mem {id : NodeId} : t.Stores id ↔ id ∈ t.nodes.map Node.id := by
  simp only [Stores, nodes, List.mem_map, mem_entries, entry?_eq_some]
  constructor
  · rintro ⟨i, slot, e, ⟨hi, he⟩, rfl⟩
    exact ⟨e.node, ⟨e, ⟨⟨i, hi⟩, List.mem_of_getElem? he⟩, rfl⟩, rfl⟩
  · rintro ⟨-, ⟨e, ⟨i, he⟩, rfl⟩, rfl⟩
    obtain ⟨slot, hslot⟩ := List.getElem?_of_mem he
    exact ⟨i, slot, e, ⟨i.isLt, hslot⟩, rfl⟩

/-- A node stands in the bucket that its identifier belongs to. -/
theorem Sound.indexOf_of_entry? (ht : t.Sound) {i slot : Nat} {e : BucketEntry}
    (h : t.entry? i slot = some e) : i = (t.indexOf e.node.id).val := by
  obtain ⟨hi, he⟩ := entry?_eq_some.1 h
  rw [(ht ⟨i, hi⟩).placed e (List.mem_of_getElem? he)]

/-- No other slot holds the identifier. -/
theorem Sound.slot_unique (ht : t.Sound) {i slot i' slot' : Nat} {e e' : BucketEntry}
    (h : t.entry? i slot = some e) (h' : t.entry? i' slot' = some e')
    (hid : e.node.id = e'.node.id) : i = i' ∧ slot = slot' := by
  obtain rfl : i = i' := by rw [ht.indexOf_of_entry? h, ht.indexOf_of_entry? h', hid]
  obtain ⟨hi, he⟩ := entry?_eq_some.1 h
  obtain ⟨_, he'⟩ := entry?_eq_some.1 h'
  exact ⟨rfl, (ht ⟨i, hi⟩).distinct.slot_unique he he' hid⟩

/-- A sound table locates a node exactly where it stands. -/
theorem Sound.locate?_eq_some (ht : t.Sound) {id : NodeId} {i slot : Nat} :
    t.locate? id = some (i, slot) ↔ ∃ e, t.entry? i slot = some e ∧ e.node.id = id := by
  unfold locate?
  simp only [Option.map_eq_some_iff, (ht.distinct id).slot?_eq_some, Prod.mk.injEq]
  constructor
  · rintro ⟨s, ⟨e, he, hid⟩, rfl, rfl⟩
    exact ⟨e, entry?_eq_some.2 ⟨(t.indexOf id).isLt, he⟩, hid⟩
  · rintro ⟨e, h, rfl⟩
    obtain ⟨hi, he⟩ := entry?_eq_some.1 h
    obtain rfl := ht.indexOf_of_entry? h
    exact ⟨slot, ⟨e, he, rfl⟩, rfl, rfl⟩

theorem Sound.contains_iff (ht : t.Sound) {id : NodeId} : t.contains id = true ↔ t.Stores id := by
  unfold contains Stores
  rw [Option.isSome_iff_exists, Prod.exists]
  simp only [ht.locate?_eq_some]

/-! ### Counting -/

/-- A sound table lists no identifier twice. -/
theorem Sound.nodup_ids (ht : t.Sound) : (t.nodes.map Node.id).Nodup := by
  have hids : t.nodes.map Node.id
      = t.buckets.toList.flatMap fun b => b.entries.map fun e => e.node.id := by
    rw [nodes, entries, List.map_map, List.map_flatMap]
    rfl
  rw [hids, List.nodup_flatMap]
  constructor
  · intro b hb
    obtain ⟨i, hi, rfl⟩ := Vector.mem_iff_getElem.1 (Vector.mem_toList_iff.1 hb)
    exact (ht ⟨i, hi⟩).distinct
  · -- An identifier determines its bucket, so two buckets have none in common.
    rw [List.pairwise_iff_getElem]
    intro i j hi hj hij id hid hid'
    rw [Vector.length_toList] at hi hj
    obtain ⟨e, he, rfl⟩ := List.mem_map.1 hid
    obtain ⟨e', he', heq⟩ := List.mem_map.1 hid'
    have hplace : t.indexOf e.node.id = ⟨i, hi⟩ := (ht ⟨i, hi⟩).placed e he
    have hplace' : t.indexOf e'.node.id = ⟨j, hj⟩ := (ht ⟨j, hj⟩).placed e' he'
    rw [heq, hplace] at hplace'
    exact absurd (congrArg Fin.val hplace') (Nat.ne_of_lt hij)

/-- A sound table has as many slots as identifiers. -/
theorem Sound.size_eq_ncard (ht : t.Sound) : t.size = {id | t.Stores id}.ncard := by
  have hset : {id | t.Stores id} = ((t.nodes.map Node.id).toFinset : Set NodeId) := by
    ext id
    rw [Set.mem_ofPred_eq, stores_iff_mem, Finset.mem_coe, List.mem_toFinset]
  rw [hset, Set.ncard_coe_finset, List.toFinset_card_of_nodup ht.nodup_ids, nodes, List.length_map,
    List.length_map, size]

/-- **Whatever is done to a new table, it is a finite map from identifiers to slots.**  Every node
stands in the bucket that its identifier belongs to, no identifier stands in two slots, no bucket
has more nodes than room, and the keeper of the table is not in it.  So looking in one bucket finds
exactly the nodes that are stored, and the slots are as many as the identifiers. -/
theorem represents_run (localId : NodeId) (bucketSize : Nat) (os : List Operation) :
    let t := (empty localId bucketSize).run os
    (∀ i slot e, t.entry? i slot = some e → i = (localId.bucketIndex e.node.id).val) ∧
      (∀ i slot e i' slot' e', t.entry? i slot = some e → t.entry? i' slot' = some e' →
        e.node.id = e'.node.id → i = i' ∧ slot = slot') ∧
      (∀ i b, t.bucket? i = some b → b.size ≤ bucketSize) ∧
      ¬ t.Stores localId ∧
      (∀ id i slot, t.locate? id = some (i, slot) ↔
        ∃ e, t.entry? i slot = some e ∧ e.node.id = id) ∧
      (∀ id, t.contains id = true ↔ t.Stores id) ∧
      t.size = {id | t.Stores id}.ncard := by
  intro t
  obtain ⟨ht, hlocal, hsize⟩ : t.Sound ∧ t.localId = localId ∧ t.bucketSize = bucketSize :=
    (sound_empty localId bucketSize).run os
  refine ⟨?_, fun _ _ _ _ _ _ => ht.slot_unique, ?_, ?_, fun _ _ _ => ht.locate?_eq_some,
    fun _ => ht.contains_iff, ht.size_eq_ncard⟩
  · intro i slot e h
    rw [ht.indexOf_of_entry? h, indexOf, hlocal]
  · intro i b h
    obtain ⟨hi, rfl⟩ := bucket?_eq_some.1 h
    exact hsize ▸ (ht ⟨i, hi⟩).size_le
  · rintro ⟨i, slot, e, h, hid⟩
    obtain ⟨hi, he⟩ := entry?_eq_some.1 h
    exact (ht ⟨i, hi⟩).foreign e (List.mem_of_getElem? he) (hid.trans hlocal.symm)

end DistanceTable
end NodeDiscovery
