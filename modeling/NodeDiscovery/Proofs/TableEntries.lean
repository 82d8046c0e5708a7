import Mathlib.Data.List.Nodup
import NodeDiscovery.Table.DistanceTable

/-!
# What a distance table stores

A table is sound if every node stands in the bucket that its identifier belongs to, no bucket
lists an identifier twice or more nodes than it has room for, and the keeper of the table is not in
it.  Every operation keeps a table sound, and a sound table is a finite map from identifiers to
nodes: `DistanceTable.node?` looks a node up in the one bucket where it can be.

## Main definitions

* `Bucket.Distinct` — no two entries are about the same node.
* `DistanceTable.node?` — the node stored under an identifier.
* `DistanceTable.Sound` — the invariant of a table.

## Main results

* `DistanceTable.mem_nodes` — the nodes of a sound table are what `node?` finds.
* `DistanceTable.node?_refresh`, `DistanceTable.node?_remove`, `DistanceTable.add_of_isSuccess` —
  the equations of the operations.
* `DistanceTable.add_cases` — the four outcomes of adding a node.
* `DistanceTable.add_eq_conflict_iff` — when a newcomer meets an incumbent.
* `DistanceTable.table_of_conflict`, `DistanceTable.table_of_error` — a node that is not added
  leaves the table as it is.
-/

namespace NodeDiscovery

/-! ### Buckets -/

namespace Bucket

/-- No two entries are about the same node. -/
def Distinct (b : Bucket) : Prop :=
  (b.entries.map fun e => e.node.id).Nodup

theorem isAbout_iff {id : NodeId} {e : BucketEntry} : e.isAbout id = true ↔ e.node.id = id := by
  simp [BucketEntry.isAbout]

theorem contains_iff {b : Bucket} {id : NodeId} :
    b.contains id = true ↔ ∃ e ∈ b.entries, e.node.id = id := by
  simp [contains, isAbout_iff]

/-- No entry is about a node that is not in the bucket. -/
theorem ne_of_absent {b : Bucket} {id : NodeId} (h : b.contains id = false) {e : BucketEntry}
    (he : e ∈ b.entries) : e.node.id ≠ id := by
  intro hid
  rw [contains_iff.2 ⟨e, he, hid⟩] at h
  cases h

theorem isSome_find? (b : Bucket) (id : NodeId) : (b.find? id).isSome = b.contains id := by
  rw [find?, Option.isSome_map, List.isSome_find?, contains]

theorem id_of_find? {b : Bucket} {id : NodeId} {n : Node} (h : b.find? id = some n) :
    n.id = id := by
  unfold find? at h
  obtain ⟨e, he, rfl⟩ := Option.map_eq_some_iff.1 h
  exact isAbout_iff.1 (List.find?_some he)

theorem mem_of_find? {b : Bucket} {id : NodeId} {n : Node} (h : b.find? id = some n) :
    ∃ e ∈ b.entries, e.node = n := by
  unfold find? at h
  obtain ⟨e, he, rfl⟩ := Option.map_eq_some_iff.1 h
  exact ⟨e, List.mem_of_find?_eq_some he, rfl⟩

/-- The node seen longest ago is in the bucket. -/
theorem mem_of_oldest? {b : Bucket} {n : Node} (h : b.oldest? = some n) :
    ∃ e ∈ b.entries, e.node = n := by
  unfold oldest? at h
  obtain ⟨e, he, rfl⟩ := Option.map_eq_some_iff.1 h
  exact ⟨e, List.mem_of_head? he, rfl⟩

theorem contains_of_oldest? {b : Bucket} {n : Node} (h : b.oldest? = some n) :
    b.contains n.id = true := by
  obtain ⟨e, he, rfl⟩ := mem_of_oldest? h
  exact contains_iff.2 ⟨e, he, rfl⟩

/-- Two entries about the same node are one. -/
theorem Distinct.eq_of_id {b : Bucket} (hb : b.Distinct) {e e' : BucketEntry}
    (he : e ∈ b.entries) (he' : e' ∈ b.entries) (hid : e.node.id = e'.node.id) : e = e' :=
  List.inj_on_of_nodup_map hb he he' hid

theorem Distinct.find?_eq_some {b : Bucket} (hb : b.Distinct) {id : NodeId} {n : Node} :
    b.find? id = some n ↔ n.id = id ∧ ∃ e ∈ b.entries, e.node = n := by
  constructor
  · intro h
    exact ⟨id_of_find? h, mem_of_find? h⟩
  · rintro ⟨rfl, e, he, rfl⟩
    have hsome : (b.find? e.node.id).isSome = true := by
      rw [isSome_find?, contains_iff]
      exact ⟨e, he, rfl⟩
    obtain ⟨n, hn⟩ := Option.isSome_iff_exists.1 hsome
    obtain ⟨e', he', rfl⟩ := mem_of_find? hn
    rw [hn, hb.eq_of_id he' he (id_of_find? hn)]

/-- Removing a node keeps the others in their order. -/
theorem entries_remove {b : Bucket} (hb : b.Distinct) (id : NodeId) :
    (b.remove id).entries = b.entries.filter fun e => decide (e.node.id ≠ id) := by
  obtain ⟨l⟩ := b
  unfold Distinct at hb
  unfold remove
  dsimp only at hb ⊢
  induction l with
  | nil => rfl
  | cons e l ih =>
    rw [List.map_cons, List.nodup_cons] at hb
    by_cases he : e.node.id = id
    · -- The node is listed only once, so the rest passes the filter.
      have hall : l.filter (fun e => decide (e.node.id ≠ id)) = l := by
        rw [List.filter_eq_self]
        intro e' he'
        have hne : e'.node.id ≠ id := fun h => hb.1 (List.mem_map.2 ⟨e', he', h.trans he.symm⟩)
        simpa using hne
      rw [List.eraseP_cons_of_pos (isAbout_iff.2 he), List.filter_cons_of_neg (by simp [he]), hall]
    · rw [List.eraseP_cons_of_neg (by rwa [isAbout_iff]), List.filter_cons_of_pos (by simp [he]),
        ih hb.2]

theorem mem_entries_remove {b : Bucket} (hb : b.Distinct) {id : NodeId} {e : BucketEntry} :
    e ∈ (b.remove id).entries ↔ e ∈ b.entries ∧ e.node.id ≠ id := by
  rw [entries_remove hb, List.mem_filter, decide_eq_true_eq]

theorem mem_entries_add {b : Bucket} {n : Node} {now : Timestamp} {e : BucketEntry} :
    e ∈ (b.add n now).entries ↔ e ∈ b.entries ∨ e = ⟨n, now⟩ := by
  simp [add]

theorem Distinct.remove {b : Bucket} (hb : b.Distinct) (id : NodeId) : (b.remove id).Distinct := by
  unfold Distinct
  rw [entries_remove hb]
  exact hb.sublist (List.filter_sublist.map _)

theorem Distinct.add {b : Bucket} (hb : b.Distinct) {n : Node} (hn : b.contains n.id = false)
    (now : Timestamp) : (b.add n now).Distinct := by
  unfold Distinct Bucket.add
  rw [List.map_append, List.nodup_append]
  refine ⟨hb, by simp, ?_⟩
  intro i hi j hj
  obtain ⟨e, he, rfl⟩ := List.mem_map.1 hi
  obtain rfl : j = n.id := by simpa using hj
  exact ne_of_absent hn he

theorem contains_remove_self {b : Bucket} (hb : b.Distinct) (id : NodeId) :
    (b.remove id).contains id = false := by
  rw [Bool.eq_false_iff]
  intro h
  obtain ⟨e, he, hid⟩ := contains_iff.1 h
  exact ((mem_entries_remove hb).1 he).2 hid

theorem Distinct.refresh {b : Bucket} (hb : b.Distinct) (n : Node) (now : Timestamp) :
    (b.refresh n now).Distinct :=
  (hb.remove n.id).add (contains_remove_self hb n.id) now

theorem size_remove (b : Bucket) (id : NodeId) :
    (b.remove id).size = if b.contains id then b.size - 1 else b.size := by
  unfold remove size contains
  rw [List.length_eraseP]

/-- A node that is refreshed leaves the number of nodes as it is. -/
theorem size_refresh {b : Bucket} {n : Node} (h : b.contains n.id = true) (now : Timestamp) :
    (b.refresh n now).size = b.size := by
  have hpos : 0 < b.size := by
    obtain ⟨e, he, -⟩ := contains_iff.1 h
    exact List.length_pos_of_mem he
  have hadd : ∀ c : Bucket, (c.add n now).size = c.size + 1 := by simp [add, size]
  rw [refresh, hadd, size_remove, if_pos h]
  omega

theorem find?_remove {b : Bucket} (hb : b.Distinct) (id id' : NodeId) :
    (b.remove id).find? id' = if id' = id then none else b.find? id' := by
  apply Option.ext
  intro n
  rw [(hb.remove id).find?_eq_some]
  split
  · next h =>
    subst h
    simp only [reduceCtorEq, iff_false, not_and, not_exists]
    rintro rfl e he rfl
    exact ((mem_entries_remove hb).1 he).2 rfl
  · next h =>
    rw [hb.find?_eq_some]
    constructor
    · rintro ⟨rfl, e, he, rfl⟩
      exact ⟨rfl, e, ((mem_entries_remove hb).1 he).1, rfl⟩
    · rintro ⟨rfl, e, he, rfl⟩
      exact ⟨rfl, e, (mem_entries_remove hb).2 ⟨he, h⟩, rfl⟩

theorem find?_add {b : Bucket} {n : Node} (hn : b.contains n.id = false) (now : Timestamp)
    (id : NodeId) : (b.add n now).find? id = if id = n.id then some n else b.find? id := by
  have hnone : b.find? n.id = none := by
    rw [← Option.isNone_iff_eq_none, ← Option.isSome_eq_false_iff, isSome_find?, hn]
  have hlast : ([⟨n, now⟩] : List BucketEntry).find? (·.isAbout id)
      = if id = n.id then some ⟨n, now⟩ else none := by
    by_cases hid : id = n.id
    · simp [hid, BucketEntry.isAbout]
    · simp [hid, BucketEntry.isAbout, Ne.symm hid]
  show (List.find? (·.isAbout id) (b.entries ++ [⟨n, now⟩])).map BucketEntry.node = _
  rw [List.find?_append, Option.map_or, hlast, show Option.map _ _ = b.find? id from rfl]
  split
  · next hid => rw [hid, hnone]; rfl
  · rw [Option.map_none, Option.or_none]

theorem find?_refresh {b : Bucket} (hb : b.Distinct) (n : Node) (now : Timestamp) (id : NodeId) :
    (b.refresh n now).find? id = if id = n.id then some n else b.find? id := by
  rw [refresh, find?_add (contains_remove_self hb n.id), find?_remove hb]
  split <;> rfl

end Bucket

/-! ### Tables -/

namespace DistanceTable

/-- The node stored under an identifier. -/
def node? (t : DistanceTable) (id : NodeId) : Option Node :=
  (t.bucketFor id).find? id

/-- What holds of a bucket at its place in a table. -/
structure Fits (t : DistanceTable) (i : Fin 256) (b : Bucket) : Prop where
  /-- Every node belongs to the bucket. -/
  placed : ∀ e ∈ b.entries, t.indexOf e.node.id = i
  /-- The keeper of the table is not in it. -/
  foreign : ∀ e ∈ b.entries, e.node.id ≠ t.localId
  /-- No node is listed twice. -/
  distinct : b.Distinct
  /-- There is room for all nodes. -/
  size_le : b.size ≤ t.bucketSize

/-- Every bucket fits its place. -/
def Sound (t : DistanceTable) : Prop :=
  ∀ i : Fin 256, t.Fits i (t.buckets.get i)

variable {t : DistanceTable}

theorem get_setBucket (t : DistanceTable) (id : NodeId) (b : Bucket) (i : Fin 256) :
    (t.setBucket id b).buckets.get i = if i = t.indexOf id then b else t.buckets.get i := by
  show (t.buckets.set (t.indexOf id) b)[i.val] = _
  rw [Vector.getElem_set]
  by_cases h : t.indexOf id = i
  · rw [if_pos (congrArg Fin.val h), if_pos h.symm]
  · rw [if_neg (fun hv => h (Fin.ext hv)), if_neg (fun hi => h hi.symm)]
    rfl

theorem bucketFor_setBucket (t : DistanceTable) (id id' : NodeId) (b : Bucket) :
    (t.setBucket id b).bucketFor id'
      = if t.indexOf id' = t.indexOf id then b else t.bucketFor id' :=
  get_setBucket t id b (t.indexOf id')

theorem Sound.fits (ht : t.Sound) (id : NodeId) : t.Fits (t.indexOf id) (t.bucketFor id) :=
  ht (t.indexOf id)

theorem Sound.distinct (ht : t.Sound) (id : NodeId) : (t.bucketFor id).Distinct :=
  (ht.fits id).distinct

theorem Sound.setBucket (ht : t.Sound) {id : NodeId} {b : Bucket}
    (hb : t.Fits (t.indexOf id) b) : (t.setBucket id b).Sound := by
  intro i
  rw [get_setBucket]
  split
  · next h => subst h; exact ⟨hb.placed, hb.foreign, hb.distinct, hb.size_le⟩
  · exact ⟨(ht i).placed, (ht i).foreign, (ht i).distinct, (ht i).size_le⟩

/-! ### The contents as a finite map -/

theorem mem_entries {e : BucketEntry} :
    e ∈ t.entries ↔ ∃ i : Fin 256, e ∈ (t.buckets.get i).entries := by
  unfold entries
  rw [List.mem_flatMap]
  constructor
  · rintro ⟨b, hb, he⟩
    obtain ⟨i, hi, rfl⟩ := Vector.mem_iff_getElem.1 (Vector.mem_toList_iff.1 hb)
    exact ⟨⟨i, hi⟩, he⟩
  · rintro ⟨i, he⟩
    exact ⟨t.buckets.get i, Vector.mem_toList_iff.2 (Vector.getElem_mem i.isLt), he⟩

/-- The nodes of a sound table are what `node?` finds. -/
theorem mem_nodes (ht : t.Sound) {n : Node} : n ∈ t.nodes ↔ t.node? n.id = some n := by
  unfold nodes
  rw [List.mem_map]
  constructor
  · rintro ⟨e, he, rfl⟩
    obtain ⟨i, hi⟩ := mem_entries.1 he
    obtain rfl := (ht i).placed e hi
    exact (ht.distinct e.node.id).find?_eq_some.2 ⟨rfl, e, hi, rfl⟩
  · intro h
    obtain ⟨e, he, rfl⟩ := Bucket.mem_of_find? h
    exact ⟨e, mem_entries.2 ⟨_, he⟩, rfl⟩

theorem id_of_node? {id : NodeId} {n : Node} (h : t.node? id = some n) : n.id = id :=
  Bucket.id_of_find? h

theorem isSome_node? (t : DistanceTable) (id : NodeId) :
    (t.node? id).isSome = (t.bucketFor id).contains id :=
  Bucket.isSome_find? _ id

theorem mem_ids (ht : t.Sound) {id : NodeId} :
    id ∈ t.nodes.map Node.id ↔ (t.node? id).isSome = true := by
  rw [List.mem_map, Option.isSome_iff_exists]
  constructor
  · rintro ⟨n, hn, rfl⟩
    exact ⟨n, (mem_nodes ht).1 hn⟩
  · rintro ⟨n, hn⟩
    obtain rfl := id_of_node? hn
    exact ⟨n, (mem_nodes ht).2 hn, rfl⟩

theorem node?_localId (ht : t.Sound) : t.node? t.localId = none := by
  cases h : t.node? t.localId with
  | none => rfl
  | some n =>
    obtain ⟨e, he, rfl⟩ := Bucket.mem_of_find? h
    exact absurd (id_of_node? h) ((ht.fits t.localId).foreign e he)

/-- A bucket that finds something else under one identifier only makes a table that does so. -/
theorem node?_setBucket {id : NodeId} {b : Bucket} {v : Option Node}
    (hb : ∀ id', b.find? id' = if id' = id then v else (t.bucketFor id).find? id')
    (id' : NodeId) : (t.setBucket id b).node? id' = if id' = id then v else t.node? id' := by
  unfold node?
  rw [bucketFor_setBucket]
  by_cases hi : t.indexOf id' = t.indexOf id
  · have hsame : t.bucketFor id = t.bucketFor id' := congrArg t.buckets.get hi.symm
    rw [if_pos hi, hb, hsame]
  · have hne : id' ≠ id := fun h => hi (congrArg t.indexOf h)
    rw [if_neg hi, if_neg hne]

/-! ### Removing -/

theorem Sound.remove (ht : t.Sound) (id : NodeId) : (t.remove id).2.Sound := by
  have hfits := ht.fits id
  have hmem := fun e => @Bucket.mem_entries_remove _ hfits.distinct id e
  refine ht.setBucket ⟨?_, ?_, hfits.distinct.remove id, ?_⟩
  · intro e he
    exact hfits.placed e ((hmem e).1 he).1
  · intro e he
    exact hfits.foreign e ((hmem e).1 he).1
  · exact Nat.le_trans List.length_eraseP_le hfits.size_le

theorem node?_remove (ht : t.Sound) (id id' : NodeId) :
    (t.remove id).2.node? id' = if id' = id then none else t.node? id' :=
  node?_setBucket (Bucket.find?_remove (ht.distinct id) id) id'

/-! ### Refreshing -/

theorem refresh_of_contains {n : Node} (h : (t.bucketFor n.id).contains n.id = true)
    (now : Timestamp) :
    t.refresh n now = (true, t.setBucket n.id ((t.bucketFor n.id).refresh n now)) := by
  rw [refresh, if_pos h]

theorem refresh_of_absent {n : Node} (h : (t.bucketFor n.id).contains n.id = false)
    (now : Timestamp) : t.refresh n now = (false, t) := by
  rw [refresh, if_neg (by rw [h]; exact Bool.noConfusion)]

@[simp] theorem localId_refresh (t : DistanceTable) (n : Node) (now : Timestamp) :
    (t.refresh n now).2.localId = t.localId := by
  unfold refresh; split <;> rfl

@[simp] theorem bucketSize_refresh (t : DistanceTable) (n : Node) (now : Timestamp) :
    (t.refresh n now).2.bucketSize = t.bucketSize := by
  unfold refresh; split <;> rfl

/-- A bucket still fits its place when a node that it lists has been refreshed. -/
theorem Fits.refresh {id : NodeId} {b : Bucket} (hb : t.Fits (t.indexOf id) b) {n : Node}
    (hn : b.contains n.id = true) (now : Timestamp) :
    t.Fits (t.indexOf id) (b.refresh n now) := by
  obtain ⟨e₀, he₀, hid⟩ := Bucket.contains_iff.1 hn
  have hmem : ∀ e ∈ (b.refresh n now).entries, e ∈ b.entries ∨ e.node = n := by
    intro e he
    rcases Bucket.mem_entries_add.1 he with h | rfl
    · exact .inl ((Bucket.mem_entries_remove hb.distinct).1 h).1
    · exact .inr rfl
  refine ⟨?_, ?_, hb.distinct.refresh n now, ?_⟩
  · intro e he
    rcases hmem e he with h | h
    · exact hb.placed e h
    · rw [h, ← hid]; exact hb.placed e₀ he₀
  · intro e he
    rcases hmem e he with h | h
    · exact hb.foreign e h
    · rw [h, ← hid]; exact hb.foreign e₀ he₀
  · rw [Bucket.size_refresh hn]
    exact hb.size_le

theorem Sound.refresh (ht : t.Sound) (n : Node) (now : Timestamp) : (t.refresh n now).2.Sound := by
  cases h : (t.bucketFor n.id).contains n.id with
  | true =>
    rw [refresh_of_contains h]
    exact ht.setBucket ((ht.fits n.id).refresh h now)
  | false =>
    rw [refresh_of_absent h]
    exact ht

theorem node?_refreshed (ht : t.Sound) (n : Node) (now : Timestamp) (id : NodeId) :
    (t.setBucket n.id ((t.bucketFor n.id).refresh n now)).node? id
      = if id = n.id then some n else t.node? id :=
  node?_setBucket (Bucket.find?_refresh (ht.distinct n.id) n now) id

theorem node?_refresh (ht : t.Sound) (n : Node) (now : Timestamp) (id : NodeId) :
    (t.refresh n now).2.node? id
      = if id = n.id ∧ (t.node? n.id).isSome = true then some n else t.node? id := by
  rw [isSome_node?]
  cases h : (t.bucketFor n.id).contains n.id with
  | true => simpa [refresh_of_contains h] using node?_refreshed ht n now id
  | false => simp [refresh_of_absent h]

/-! ### Adding -/

/-- The four outcomes of adding a node. -/
theorem add_cases (t : DistanceTable) (n : Node) (now : Timestamp) :
    (n.id = t.localId ∧ t.add n now = (.error .selfConnection, t)) ∨
    (n.id ≠ t.localId ∧ (t.bucketFor n.id).contains n.id = true ∧
      t.add n now = (.ok .refreshed, t.setBucket n.id ((t.bucketFor n.id).refresh n now))) ∨
    (n.id ≠ t.localId ∧ (t.bucketFor n.id).contains n.id = false ∧
      (t.bucketFor n.id).isFull t.bucketSize = true ∧
      ((∃ i, (t.bucketFor n.id).oldest? = some i ∧ t.add n now = (.ok (.conflict i), t)) ∨
        t.add n now = (.error .nodeNotFound, t))) ∨
    (n.id ≠ t.localId ∧ (t.bucketFor n.id).contains n.id = false ∧
      (t.bucketFor n.id).isFull t.bucketSize = false ∧
      t.add n now = (.ok .added, t.setBucket n.id ((t.bucketFor n.id).add n now))) := by
  unfold add
  by_cases hself : n.id = t.localId
  · exact .inl ⟨hself, if_pos hself⟩
  · rw [if_neg hself]
    cases hin : (t.bucketFor n.id).contains n.id with
    | true => exact .inr (.inl ⟨hself, rfl, by simp [hin]⟩)
    | false =>
      cases hfull : (t.bucketFor n.id).isFull t.bucketSize with
      | true =>
        refine .inr (.inr (.inl ⟨hself, rfl, rfl, ?_⟩))
        cases ho : (t.bucketFor n.id).oldest? with
        | some i => exact .inl ⟨i, rfl, by simp [hin, hfull, ho]⟩
        | none => exact .inr (by simp [hin, hfull, ho])
      | false => exact .inr (.inr (.inr ⟨hself, rfl, rfl, by simp [hin, hfull]⟩))

/-- When a newcomer meets an incumbent, and which. -/
theorem add_eq_conflict_iff {n incumbent : Node} {now : Timestamp} {t' : DistanceTable} :
    t.add n now = (.ok (.conflict incumbent), t') ↔
      n.id ≠ t.localId ∧ (t.bucketFor n.id).contains n.id = false ∧
        (t.bucketFor n.id).isFull t.bucketSize = true ∧
        (t.bucketFor n.id).oldest? = some incumbent ∧ t' = t := by
  constructor
  · intro h
    rcases add_cases t n now with
      ⟨-, hadd⟩ | ⟨-, -, hadd⟩ | ⟨hself, hnew, hfull, ⟨i, hi, hadd⟩ | hadd⟩ | ⟨-, -, -, hadd⟩ <;>
      rw [hadd] at h <;> cases h
    exact ⟨hself, hnew, hfull, hi, rfl⟩
  · rintro ⟨hself, hnew, hfull, hi, rfl⟩
    simp [add, hself, hnew, hfull, hi]

/-- A newcomer that meets an incumbent leaves the table as it is. -/
theorem table_of_conflict {n incumbent : Node} {now : Timestamp} {t' : DistanceTable}
    (h : t.add n now = (.ok (.conflict incumbent), t')) : t' = t :=
  (add_eq_conflict_iff.1 h).2.2.2.2

/-- So does a node that cannot be added. -/
theorem table_of_error {n : Node} {now : Timestamp} {err : TableError} {t' : DistanceTable}
    (h : t.add n now = (.error err, t')) : t' = t := by
  rcases add_cases t n now with
    ⟨-, hadd⟩ | ⟨-, -, hadd⟩ | ⟨-, -, -, ⟨i, -, hadd⟩ | hadd⟩ | ⟨-, -, -, hadd⟩ <;>
    rw [hadd] at h <;> cases h <;> rfl

/-- A bucket with room still fits its place when a new node has been added to it. -/
theorem Fits.add {n : Node} {b : Bucket} (hb : t.Fits (t.indexOf n.id) b)
    (hself : n.id ≠ t.localId) (hnew : b.contains n.id = false)
    (hroom : b.isFull t.bucketSize = false) (now : Timestamp) :
    t.Fits (t.indexOf n.id) (b.add n now) := by
  refine ⟨?_, ?_, hb.distinct.add hnew now, ?_⟩
  · intro e he
    rcases Bucket.mem_entries_add.1 he with h | rfl
    · exact hb.placed e h
    · rfl
  · intro e he
    rcases Bucket.mem_entries_add.1 he with h | rfl
    · exact hb.foreign e h
    · exact hself
  · have hlt : b.size < t.bucketSize := by simpa [Bucket.isFull] using hroom
    have hadd : (b.add n now).size = b.size + 1 := by simp [Bucket.add, Bucket.size]
    rw [hadd]
    exact hlt

/-- A table that has admitted a node is sound, keeps its measures and stores the node. -/
theorem add_of_isSuccess (ht : t.Sound) {n : Node} {now : Timestamp} {o : Admission}
    {t' : DistanceTable} (h : t.add n now = (.ok o, t')) (ho : o.isSuccess = true) :
    t'.Sound ∧ t'.localId = t.localId ∧ t'.bucketSize = t.bucketSize ∧ n.id ≠ t.localId ∧
      ∀ id, t'.node? id = if id = n.id then some n else t.node? id := by
  rcases add_cases t n now with
    ⟨-, hadd⟩ | ⟨hself, hin, hadd⟩ | ⟨-, -, -, ⟨i, -, hadd⟩ | hadd⟩ | ⟨hself, hnew, hroom, hadd⟩ <;>
    rw [hadd] at h
  · cases h
  · cases h
    exact ⟨ht.setBucket ((ht.fits n.id).refresh hin now), rfl, rfl, hself,
      fun id => node?_refreshed ht n now id⟩
  · cases h
    cases ho
  · cases h
  · cases h
    exact ⟨ht.setBucket ((ht.fits n.id).add hself hnew hroom now), rfl, rfl, hself,
      fun id => node?_setBucket (Bucket.find?_add hnew now) id⟩

/-! ### Room in a bucket -/

/-- Whether a bucket is full does not depend on how its nodes are seen. -/
theorem isFull_refresh (t : DistanceTable) (n : Node) (now : Timestamp) (id : NodeId)
    (capacity : Nat) :
    ((t.refresh n now).2.bucketFor id).isFull capacity = (t.bucketFor id).isFull capacity := by
  cases h : (t.bucketFor n.id).contains n.id with
  | false => rw [refresh_of_absent h]
  | true =>
    rw [refresh_of_contains h, bucketFor_setBucket]
    split
    · next hi =>
      have hsame : t.bucketFor id = t.bucketFor n.id := congrArg t.buckets.get hi
      rw [Bucket.isFull, Bucket.isFull, Bucket.size_refresh h, hsame]
    · rfl

/-- A bucket with room has room when a node has been removed. -/
theorem isFull_remove {t : DistanceTable} {id : NodeId} {capacity : Nat}
    (h : (t.bucketFor id).isFull capacity = false) (id' : NodeId) :
    ((t.remove id').2.bucketFor id).isFull capacity = false := by
  show ((t.setBucket id' ((t.bucketFor id').remove id')).bucketFor id).isFull capacity = false
  rw [bucketFor_setBucket]
  split
  · next hi =>
    have hsame : t.bucketFor id = t.bucketFor id' := congrArg t.buckets.get hi
    rw [hsame] at h
    simp only [Bucket.isFull, decide_eq_false_iff_not, Nat.not_le] at h ⊢
    have hsize := Bucket.size_remove (t.bucketFor id') id'
    split at hsize <;> omega
  · exact h

/-! ### The table without nodes -/

theorem get_empty (localId : NodeId) (bucketSize : Nat) (i : Fin 256) :
    (empty localId bucketSize).buckets.get i = .empty :=
  Vector.getElem_replicate i.isLt

theorem sound_empty (localId : NodeId) (bucketSize : Nat) : (empty localId bucketSize).Sound := by
  intro i
  rw [get_empty]
  exact ⟨by simp [Bucket.empty], by simp [Bucket.empty], by simp [Bucket.Distinct, Bucket.empty],
    by simp [Bucket.size, Bucket.empty]⟩

@[simp] theorem node?_empty (localId : NodeId) (bucketSize : Nat) (id : NodeId) :
    (empty localId bucketSize).node? id = none := by
  have hempty : (empty localId bucketSize).bucketFor id = .empty := get_empty localId bucketSize _
  rw [node?, hempty]
  rfl

end DistanceTable
end NodeDiscovery
