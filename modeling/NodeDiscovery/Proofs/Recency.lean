import NodeDiscovery.Proofs.TableRuns

/-!
# The order in which nodes were seen

A bucket keeps no record of what was done to it, but its list is one: an operation that succeeds
puts the node that was seen at the end, takes out the one that was removed, and leaves the order of
the others.  What has happened to a table in all its life is a history of such events, and the list
of a bucket is what is left of that history when everything that later events have overtaken is
crossed out.  So the front of a full bucket, which a newcomer has to challenge, is the node that was
seen longest ago.

## Main definitions

* `DistanceTable.Event` — a node was seen or removed.
* `DistanceTable.Operation.event?` — what an operation makes happen.
* `DistanceTable.history` — what a sequence of operations makes happen.
* `DistanceTable.lastSightings` — what is left of a history.

## Main results

* `DistanceTable.apply_of_event?_none` — an operation that fails changes nothing.
* `DistanceTable.recalls_apply`, `DistanceTable.recalls_run` — buckets recall the history.
* `DistanceTable.conflict_iff` — when a newcomer meets an incumbent.
* `DistanceTable.recency_run` — all of it, for every sequence of operations on an empty table.
-/

namespace NodeDiscovery
namespace DistanceTable

/-! ### Histories -/

/-- What has happened to a node. -/
inductive Event where
  /-- It was seen, at the endpoint and the moment of the entry. -/
  | seen (entry : BucketEntry)
  /-- It was removed. -/
  | removed (id : NodeId)

namespace Event

/-- The node that it has happened to. -/
def id : Event → NodeId
  | seen entry => entry.node.id
  | removed id => id

/-- The moment at which the node was seen. -/
def time? : Event → Option Timestamp
  | seen entry => some entry.lastSeen
  | removed _ => none

/-- What the event makes of the entries in the order of their nodes' last sightings. -/
def record : Event → List BucketEntry → List BucketEntry
  | seen entry, l => (l.filter fun e => decide (e.node.id ≠ entry.node.id)) ++ [entry]
  | removed id, l => l.filter fun e => decide (e.node.id ≠ id)

end Event

/-- The entries of the nodes that were not removed after they had been seen, each as its node was
seen last, in the order of these sightings. -/
def lastSightings : List Event → List BucketEntry
  | [] => []
  | .seen entry :: later =>
    if ∃ event ∈ later, event.id = entry.node.id then lastSightings later
    else entry :: lastSightings later
  | .removed _ :: later => lastSightings later

namespace Operation

/-- The node that an operation is about. -/
def id : Operation → NodeId
  | add node _ => node.id
  | refresh node _ => node.id
  | remove id => id

/-- The moment at which an operation sees its node, unless it removes it. -/
def time? : Operation → Option Timestamp
  | add _ now => some now
  | refresh _ now => some now
  | remove _ => none

/-- What an operation makes happen in a table; nothing if it fails. -/
def event? (t : DistanceTable) : Operation → Option Event
  | add node now =>
    match (t.add node now).1 with
    | .ok .added => some (.seen ⟨node, now⟩)
    | .ok .refreshed => some (.seen ⟨node, now⟩)
    | .ok (.conflict _) => none
    | .error _ => none
  | refresh node now => if (t.refresh node now).1 then some (.seen ⟨node, now⟩) else none
  | remove id => (t.remove id).1.map fun _ => .removed id

end Operation

/-- What a sequence of operations makes happen. -/
def history (t : DistanceTable) : List Operation → List Event
  | [] => []
  | o :: os => (o.event? t).toList ++ history (o.apply t) os

/-! ### What is left of a history -/

namespace Event

/-- An event about the node of an entry overtakes the entry. -/
theorem record_cons_of_eq {event : Event} {entry : BucketEntry} (h : event.id = entry.node.id)
    (l : List BucketEntry) : event.record (entry :: l) = event.record l := by
  cases event with
  | seen new =>
    have hid : entry.node.id = new.node.id := h.symm
    simp [record, hid]
  | removed id =>
    have hid : entry.node.id = id := h.symm
    simp [record, hid]

/-- An event about another node leaves it. -/
theorem record_cons_of_ne {event : Event} {entry : BucketEntry} (h : event.id ≠ entry.node.id)
    (l : List BucketEntry) : event.record (entry :: l) = entry :: event.record l := by
  cases event with
  | seen new =>
    have hid : entry.node.id ≠ new.node.id := Ne.symm h
    simp [record, hid]
  | removed id =>
    have hid : entry.node.id ≠ id := Ne.symm h
    simp [record, hid]

/-- Of some of the entries an event changes those of its own node only. -/
theorem filter_record {p : NodeId → Bool} (event : Event) (l : List BucketEntry) :
    (event.record l).filter (fun e => p e.node.id)
      = if p event.id then event.record (l.filter fun e => p e.node.id)
        else l.filter fun e => p e.node.id := by
  have hsplit : ∀ id, (l.filter fun e => decide (e.node.id ≠ id)).filter (fun e => p e.node.id)
      = (l.filter fun e => p e.node.id).filter fun e => decide (e.node.id ≠ id) := by
    intro id
    rw [List.filter_filter, List.filter_filter]
    exact List.filter_congr fun e _ => Bool.and_comm _ _
  have hother : ∀ id, ¬ p id = true →
      (l.filter fun e => p e.node.id).filter (fun e => decide (e.node.id ≠ id))
        = l.filter fun e => p e.node.id := by
    intro id hid
    refine List.filter_eq_self.2 fun e he => decide_eq_true fun hsame => ?_
    exact hid (hsame ▸ (List.mem_filter.1 he).2)
  cases event with
  | seen entry =>
    rw [record, record, List.filter_append, hsplit, id]
    split
    · next hid =>
      have hkept : [entry].filter (fun e => p e.node.id) = [entry] := by simp [hid]
      rw [hkept]
    · next hid =>
      have hdropped : [entry].filter (fun e => p e.node.id) = [] := by simp [hid]
      rw [hdropped, List.append_nil, hother _ hid]
  | removed id =>
    rw [record, record, hsplit, Event.id]
    split
    · rfl
    · next hid => exact hother id hid

end Event

/-- What is left after one more event. -/
theorem lastSightings_concat (events : List Event) (event : Event) :
    lastSightings (events ++ [event]) = event.record (lastSightings events) := by
  induction events with
  | nil => cases event <;> rfl
  | cons first later ih =>
    cases first with
    | removed id => exact ih
    | seen entry =>
      simp only [List.cons_append, lastSightings, ih, List.mem_append, List.mem_singleton,
        or_and_right, exists_or, exists_eq_left]
      by_cases hlater : ∃ event ∈ later, event.id = entry.node.id
      · rw [if_pos (.inl hlater), if_pos hlater]
      · -- Only the new event can have overtaken this sighting.
        rw [if_neg hlater]
        by_cases hid : event.id = entry.node.id
        · rw [if_pos (.inr hid), Event.record_cons_of_eq hid]
        · rw [if_neg (not_or.2 ⟨hlater, hid⟩), Event.record_cons_of_ne hid]

/-- What is left stands in the order in which it happened. -/
theorem sublist_lastSightings (events : List Event) :
    ((lastSightings events).map Event.seen).Sublist events := by
  induction events with
  | nil => exact List.Sublist.refl _
  | cons first later ih =>
    cases first with
    | removed id => exact ih.cons _
    | seen entry =>
      unfold lastSightings
      split
      · exact ih.cons _
      · exact ih.cons_cons _

/-! ### One operation -/

variable {t : DistanceTable} {o : Operation} {event : Event}

theorem setBucket_bucketFor (t : DistanceTable) (id : NodeId) :
    t.setBucket id (t.bucketFor id) = t := by
  unfold setBucket bucketFor
  rw [Fin.getElem_fin, Vector.set_getElem_self]

/-- An operation that fails changes nothing. -/
theorem apply_of_event?_none (h : o.event? t = none) : o.apply t = t := by
  cases o with
  | add n now =>
    rcases add_cases t n now with
      ⟨-, hadd⟩ | ⟨-, -, hadd⟩ | ⟨-, -, -, ⟨i, -, hadd⟩ | hadd⟩ | ⟨-, -, -, hadd⟩
    · exact apply_add hadd
    · simp [Operation.event?, hadd] at h
    · exact apply_add hadd
    · exact apply_add hadd
    · simp [Operation.event?, hadd] at h
  | refresh n now =>
    cases hin : (t.bucketFor n.id).contains n.id with
    | true => simp [Operation.event?, refresh_of_contains hin] at h
    | false => simp [Operation.apply, refresh_of_absent hin]
  | remove id =>
    have hnone : (t.bucketFor id).find? id = none := Option.map_eq_none_iff.1 h
    have habsent : (t.bucketFor id).contains id = false := by
      rw [← Bucket.isSome_find?, hnone]
      rfl
    have hsame : (t.bucketFor id).remove id = t.bucketFor id := by
      rw [Bucket.remove, List.eraseP_of_forall_not]
      exact fun e he habout => Bucket.ne_of_absent habsent he (Bucket.isAbout_iff.1 habout)
    show t.setBucket id ((t.bucketFor id).remove id) = t
    rw [hsame, setBucket_bucketFor]

/-- An operation that succeeds is recorded in the bucket of its node. -/
theorem apply_of_event?_some (ht : t.Sound) (h : o.event? t = some event) :
    event.id = o.id ∧ event.time? = o.time? ∧ ∃ b, o.apply t = t.setBucket o.id b ∧
      b.entries = event.record (t.bucketFor o.id).entries := by
  have hrefreshed : ∀ (n : Node) (now : Timestamp), ((t.bucketFor n.id).refresh n now).entries
      = (Event.seen ⟨n, now⟩).record (t.bucketFor n.id).entries := by
    intro n now
    show ((t.bucketFor n.id).remove n.id).entries ++ [_] = _
    rw [Bucket.entries_remove (ht.distinct n.id)]
    rfl
  cases o with
  | add n now =>
    -- Of the outcomes of an addition two are sightings.
    rcases add_cases t n now with
      ⟨-, hadd⟩ | ⟨-, -, hadd⟩ | ⟨-, -, -, ⟨i, -, hadd⟩ | hadd⟩ | ⟨-, hnew, -, hadd⟩ <;>
      simp only [Operation.event?, hadd, reduceCtorEq, Option.some.injEq] at h <;> subst h
    · exact ⟨rfl, rfl, _, apply_add hadd, hrefreshed n now⟩
    · refine ⟨rfl, rfl, _, apply_add hadd, congrArg (· ++ _) (List.filter_eq_self.2 ?_).symm⟩
      exact fun e he => decide_eq_true (Bucket.ne_of_absent hnew he)
  | refresh n now =>
    cases hin : (t.bucketFor n.id).contains n.id with
    | true =>
      simp only [Operation.event?, refresh_of_contains hin, if_true, Option.some.injEq] at h
      subst h
      refine ⟨rfl, rfl, _, ?_, hrefreshed n now⟩
      rw [Operation.apply, refresh_of_contains hin]
      rfl
    | false => simp [Operation.event?, refresh_of_absent hin] at h
  | remove id =>
    obtain ⟨n, -, rfl⟩ := Option.map_eq_some_iff.1 h
    exact ⟨rfl, rfl, _, rfl, Bucket.entries_remove (ht.distinct id) id⟩

/-- No bucket changes but that of the node. -/
theorem get_apply_of_ne (ht : t.Sound) (o : Operation) {i : Fin 256} (hi : i ≠ t.indexOf o.id) :
    (o.apply t).buckets.get i = t.buckets.get i := by
  cases h : o.event? t with
  | none => rw [apply_of_event?_none h]
  | some event =>
    obtain ⟨-, -, b, happly, -⟩ := apply_of_event?_some ht h
    rw [happly, get_setBucket, if_neg hi]

/-! ### Buckets recall what has happened -/

/-- Every bucket lists its nodes as a history tells it. -/
def Recalls (t : DistanceTable) (events : List Event) : Prop :=
  ∀ i : Fin 256, (t.buckets.get i).entries
    = (lastSightings events).filter fun e => decide (t.indexOf e.node.id = i)

variable {events : List Event}

/-- An operation adds to the history what it makes happen. -/
theorem recalls_apply (ht : t.Sound) (h : t.Recalls events) (o : Operation) :
    (o.apply t).Recalls (events ++ (o.event? t).toList) := by
  cases hevent : o.event? t with
  | none =>
    rw [apply_of_event?_none hevent, Option.toList_none, List.append_nil]
    exact h
  | some event =>
    obtain ⟨hid, -, b, happly, hb⟩ := apply_of_event?_some ht hevent
    intro i
    rw [happly, get_setBucket, Option.toList_some, lastSightings_concat]
    show _ = (event.record (lastSightings events)).filter fun e => decide (t.indexOf e.node.id = i)
    rw [Event.filter_record (p := fun id => decide (t.indexOf id = i)), hid]
    -- Only in the bucket of its node does the event leave a trace.
    by_cases hi : i = t.indexOf o.id
    · subst hi
      rw [if_pos rfl, hb, show (t.bucketFor o.id).entries = _ from h (t.indexOf o.id)]
      simp
    · rw [if_neg hi, h i]
      simp [Ne.symm hi]

theorem recalls_run (ht : t.Sound) (h : t.Recalls events) (os : List Operation) :
    (t.run os).Recalls (events ++ t.history os) := by
  induction os generalizing t events with
  | nil =>
    rw [history, List.append_nil]
    exact h
  | cons o os ih =>
    rw [history, ← List.append_assoc]
    exact ih (ht.apply o).1 (recalls_apply ht h o)

theorem recalls_empty (localId : NodeId) (bucketSize : Nat) :
    (empty localId bucketSize).Recalls [] := by
  intro i
  rw [get_empty]
  rfl

/-! ### Moments -/

/-- The moments of a history are those of its operations, but for the ones that fail. -/
theorem sublist_history (ht : t.Sound) (os : List Operation) :
    ((t.history os).filterMap Event.time?).Sublist (os.filterMap Operation.time?) := by
  induction os generalizing t with
  | nil => exact List.Sublist.refl _
  | cons o os ih =>
    have hlater := ih (ht.apply o).1
    have hone : ((o.event? t).toList.filterMap Event.time?).Sublist
        ([o].filterMap Operation.time?) := by
      cases hevent : o.event? t with
      | none => exact List.nil_sublist _
      | some event =>
        obtain ⟨-, htime, -⟩ := apply_of_event?_some ht hevent
        have hsame : [event].filterMap Event.time? = [o].filterMap Operation.time? := by
          simp [List.filterMap_cons, htime]
        exact hsame ▸ List.Sublist.refl _
    rw [history, List.filterMap_append, ← List.singleton_append, List.filterMap_append]
    exact hone.append hlater

/-- If time has not gone back, the order of the last sightings is that of their moments. -/
theorem pairwise_lastSightings (ht : t.Sound) {os : List Operation}
    (htimes : (os.filterMap Operation.time?).Pairwise (· ≤ ·)) :
    (lastSightings (t.history os)).Pairwise fun e e' => e.lastSeen ≤ e'.lastSeen := by
  have hseen : ∀ l : List BucketEntry, (l.map Event.seen).filterMap Event.time?
      = l.map BucketEntry.lastSeen := by
    intro l
    rw [List.filterMap_map, ← List.filterMap_eq_map]
    rfl
  -- The moments of the last sightings are some of those of the operations, in the same order.
  have hsublist := ((sublist_lastSightings (t.history os)).filterMap Event.time?).trans
    (sublist_history ht os)
  rw [hseen] at hsublist
  exact List.pairwise_map.1 (htimes.sublist hsublist)

/-! ### Newcomers -/

/-- A node is stored if its bucket lists it. -/
theorem Sound.stores_iff (ht : t.Sound) {id : NodeId} :
    t.Stores id ↔ (t.bucketFor id).contains id = true := by
  rw [stores_iff_mem, mem_ids ht, isSome_node?]

/-- A newcomer meets an incumbent if its bucket has room for some nodes, but for no more. -/
theorem conflict_iff (ht : t.Sound) {n : Node} {now : Timestamp} :
    (∃ incumbent t', t.add n now = (.ok (.conflict incumbent), t')) ↔
      ¬ t.Stores n.id ∧ n.id ≠ t.localId ∧ 0 < t.bucketSize ∧
        t.bucketSize ≤ (t.bucketFor n.id).size := by
  have hroom := (ht.fits n.id).size_le
  simp only [add_eq_conflict_iff, ht.stores_iff, Bool.not_eq_true, Bucket.isFull, decide_eq_true_eq]
  constructor
  · rintro ⟨incumbent, t', hself, hnew, hfull, hi, -⟩
    obtain ⟨e, he, -⟩ := Bucket.mem_of_oldest? hi
    have hsize : 0 < (t.bucketFor n.id).size := List.length_pos_of_mem he
    exact ⟨hnew, hself, by omega, hfull⟩
  · rintro ⟨hnew, hself, hpos, hfull⟩
    have hne : (t.bucketFor n.id).entries ≠ [] :=
      List.ne_nil_of_length_pos (Nat.lt_of_lt_of_le hpos hfull)
    obtain ⟨e, later, hentries⟩ := List.exists_cons_of_ne_nil hne
    refine ⟨e.node, t, hself, hnew, hfull, ?_, rfl⟩
    rw [Bucket.oldest?, hentries]
    rfl

/-- The incumbent is the first one in the bucket. -/
theorem head_of_conflict {n incumbent : Node} {now : Timestamp} {t' : DistanceTable}
    (h : t.add n now = (.ok (.conflict incumbent), t')) :
    ∃ e later, (t.bucketFor n.id).entries = e :: later ∧ e.node = incumbent := by
  obtain ⟨-, -, -, hi, -⟩ := add_eq_conflict_iff.1 h
  obtain ⟨e, he, hnode⟩ := Option.map_eq_some_iff.1 hi
  obtain ⟨later, hlater⟩ := List.head?_eq_some_iff.1 he
  exact ⟨e, later, hlater, hnode⟩

/-! ### Operations that fail -/

theorem event?_refresh_eq_none_iff (ht : t.Sound) {n : Node} {now : Timestamp} :
    (Operation.refresh n now).event? t = none ↔ ¬ t.Stores n.id := by
  rw [ht.stores_iff]
  cases hin : (t.bucketFor n.id).contains n.id with
  | true => simp [Operation.event?, refresh_of_contains hin]
  | false => simp [Operation.event?, refresh_of_absent hin]

theorem event?_remove_eq_none_iff (ht : t.Sound) {id : NodeId} :
    (Operation.remove id).event? t = none ↔ ¬ t.Stores id := by
  rw [ht.stores_iff, ← Bucket.isSome_find?, Option.not_isSome_iff_eq_none]
  exact Option.map_eq_none_iff

/-- **A bucket is the exact list of its nodes in the order in which they were seen last.**  Whatever
has been done to a table, each bucket lists what is left of the history in it: its nodes, each as it
was seen last and with the moment of that, the one seen longest ago first.  A newcomer meets an
incumbent if its bucket is full and not without any room, and then it is this first node, which has
the earliest moment as long as time has not gone back.  An operation that fails changes nothing, and
one that succeeds changes no bucket but that of its node. -/
theorem recency_run (localId : NodeId) (bucketSize : Nat) (os : List Operation) :
    let t := (empty localId bucketSize).run os
    let sightings := lastSightings ((empty localId bucketSize).history os)
    (∀ i : Fin 256, (t.buckets.get i).entries
        = sightings.filter fun e => decide (localId.bucketIndex e.node.id = i)) ∧
      (∀ n now, (∃ incumbent t', t.add n now = (.ok (.conflict incumbent), t')) ↔
        ¬ t.Stores n.id ∧ n.id ≠ localId ∧ 0 < bucketSize ∧
          bucketSize ≤ (t.bucketFor n.id).size) ∧
      (∀ n now incumbent t', t.add n now = (.ok (.conflict incumbent), t') →
        ∃ e later, (t.bucketFor n.id).entries = e :: later ∧ e.node = incumbent ∧
          ((os.filterMap Operation.time?).Pairwise (· ≤ ·) →
            ∀ x ∈ later, e.lastSeen ≤ x.lastSeen)) ∧
      (∀ n now, (Operation.refresh n now).event? t = none ↔ ¬ t.Stores n.id) ∧
      (∀ id, (Operation.remove id).event? t = none ↔ ¬ t.Stores id) ∧
      (∀ o : Operation, o.event? t = none → o.apply t = t) ∧
      ∀ (o : Operation) (i : Fin 256), i ≠ localId.bucketIndex o.id →
        (o.apply t).buckets.get i = t.buckets.get i := by
  intro t sightings
  obtain ⟨ht, hlocal, hsize⟩ : t.Sound ∧ t.localId = localId ∧ t.bucketSize = bucketSize :=
    (sound_empty localId bucketSize).run os
  have hrecalls : t.Recalls ((empty localId bucketSize).history os) :=
    recalls_run (sound_empty localId bucketSize) (recalls_empty localId bucketSize) os
  have hindex : ∀ id, t.indexOf id = localId.bucketIndex id := fun id => by rw [indexOf, hlocal]
  refine ⟨?_, ?_, ?_, fun _ _ => event?_refresh_eq_none_iff ht,
    fun _ => event?_remove_eq_none_iff ht, fun _ => apply_of_event?_none, ?_⟩
  · intro i
    simpa only [hindex] using hrecalls i
  · intro n now
    rw [conflict_iff ht, hlocal, hsize]
  · intro n now incumbent t' h
    obtain ⟨e, later, hentries, hnode⟩ := head_of_conflict h
    refine ⟨e, later, hentries, hnode, fun htimes => ?_⟩
    have hsorted := (pairwise_lastSightings (sound_empty localId bucketSize) htimes).filter
      fun e => decide (t.indexOf e.node.id = t.indexOf n.id)
    rw [← hrecalls, show (t.buckets.get (t.indexOf n.id)).entries = e :: later from hentries]
      at hsorted
    exact (List.pairwise_cons.1 hsorted).1
  · intro o i hi
    exact get_apply_of_ne ht o fun h => hi (h.trans (hindex o.id))

/-- Of two nodes the one seen first is seen again, so that a newcomer meets the other one. -/
theorem incumbent_unseen_longest :
    let node : UInt8 → Node := fun b =>
      ⟨⟨0x80 :: b :: List.replicate 30 0, rfl⟩, .ofAddress (.v4 ⟨10, 0, 0, b⟩ 30303)⟩
    let os : List Operation := [.add (node 1) (.ofMillis 1), .add (node 2) (.ofMillis 2),
      .refresh (node 1) (.ofMillis 3)]
    let t := (empty .zero 2).run os
    (os.filterMap Operation.time?).Pairwise (· ≤ ·) ∧
      ∃ e later, (t.bucketFor (node 3).id).entries = e :: later ∧ e.node = node 2 ∧
        later.length = 1 ∧ ∀ x ∈ later, e.lastSeen ≤ x.lastSeen := by
  intro node os t
  have htimes : (os.filterMap Operation.time?).Pairwise (· ≤ ·) := by decide +kernel
  have hconflict : t.add (node 3) (.ofMillis 4) = (.ok (.conflict (node 2)), t) :=
    add_eq_conflict_iff.2 ⟨by decide +kernel, by decide +kernel, by decide +kernel,
      by decide +kernel, rfl⟩
  obtain ⟨-, -, hincumbent, -⟩ := recency_run .zero 2 os
  obtain ⟨e, later, hentries, hnode, hleast⟩ := hincumbent _ _ _ _ hconflict
  have hlength : (t.bucketFor (node 3).id).entries.length = 2 := by decide +kernel
  rw [hentries] at hlength
  exact ⟨htimes, e, later, hentries, hnode, Nat.succ.inj hlength, hleast htimes⟩

end DistanceTable
end NodeDiscovery
