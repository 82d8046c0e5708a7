import NodeDiscovery.Proofs.Registry

/-!
# The registry is coherent

Three collections say who the peers of an explorer are: the established nodes, the known hosts and
the table.  They are changed in different places, and yet they never contradict each other: the
table stores the identifiers that are established, every node is established under its own
identifier, and a known host names a peer that is established at just this host.  The last point
makes it right to drop only the known host of the earlier endpoint when a peer moves.

## Main definitions

* `Registry.Coherent` — the three collections agree.

## Main results

* `Explorer.Reachable.coherent` — they do in every reachable state.
* `Explorer.registry_coherent` — what this says of the collections, entry by entry.
-/

namespace NodeDiscovery

/-- The established nodes, the known hosts and the table agree. -/
structure Registry.Coherent (r : Registry) : Prop where
  /-- The table is sound. -/
  sound : r.table.Sound
  /-- The table is kept by the explorer itself. -/
  keeper : r.table.localId = r.config.localId
  /-- The table stores what is established. -/
  stored : ∀ id, (r.table.node? id).isSome = r.established.contains id
  /-- Every node is established under its own identifier. -/
  own_id : ∀ id n, r.established.get? id = some n → n.id = id
  /-- A known host names a peer that is established there. -/
  known : ∀ key id, r.knownHosts.get? key = some id →
    ∃ n, r.established.get? id = some n ∧ n.endpoint.key = key

namespace Explorer

variable {e : Explorer}

theorem coherent_create (config : Config) (system : SystemLookup) (random : RandomSource) :
    (create config system random).registry.Coherent where
  sound := DistanceTable.sound_empty config.localId config.bucketSize
  keeper := rfl
  stored := fun id => by
    rw [show (create config system random).registry.table
      = .empty config.localId config.bucketSize from rfl, DistanceTable.node?_empty]
    rfl
  own_id := fun _ _ h => by cases h
  known := fun _ _ h => by cases h

/-! ### The elementary changes -/

theorem coherent_forget (h : e.registry.Coherent) (id : NodeId) :
    (e.forget id).registry.Coherent where
  sound := h.sound.remove id
  keeper := h.keeper
  stored := by
    intro i
    have hsound : e.table.Sound := h.sound
    have hstored : (e.table.node? i).isSome = e.established.contains i := h.stored i
    show ((e.table.remove id).2.node? i).isSome = (e.established.erase id).contains i
    rw [DistanceTable.node?_remove hsound, Dict.contains_erase, ← hstored]
    by_cases hi : i = id
    · simp [hi]
    · simp [hi]
  own_id := by
    intro i n hn
    exact h.own_id i n (Dict.get?_erase_eq_some.1 hn).2
  known := by
    intro key i hk
    obtain ⟨hk, hi⟩ := Dict.get?_filter_eq_some.1 hk
    obtain ⟨n, hn, hkey⟩ := h.known key i hk
    refine ⟨n, ?_, hkey⟩
    exact Dict.get?_erase_eq_some.2 ⟨of_decide_eq_true hi, hn⟩

theorem coherent_forgetAll (ids : List NodeId) (h : e.registry.Coherent) :
    (ids.foldl (fun e id => e.forget id) e).registry.Coherent := by
  induction ids generalizing e with
  | nil => exact h
  | cons id ids ih => exact ih (coherent_forget h id)

/-- Marking a node as seen stores nothing new. -/
theorem coherent_refresh {r : Registry} (h : r.Coherent) (node : Node) (now : Timestamp) :
    Registry.Coherent { r with table := (r.table.refresh node now).2 } where
  sound := h.sound.refresh node now
  keeper := by
    show (r.table.refresh node now).2.localId = _
    rw [DistanceTable.localId_refresh, h.keeper]
  stored := by
    intro i
    show ((r.table.refresh node now).2.node? i).isSome = r.established.contains i
    rw [DistanceTable.node?_refresh h.sound, ← h.stored i]
    split
    · next hi => rw [hi.1, hi.2]; rfl
    · rfl
  own_id := h.own_id
  known := h.known

theorem coherent_refreshPeer (h : e.registry.Coherent) (id : NodeId) (now : Timestamp) :
    (e.refreshPeer id now).registry.Coherent := by
  unfold refreshPeer
  split
  · next node _ => exact coherent_refresh h node now
  · exact h

theorem coherent_vacate (h : e.registry.Coherent) (node : Node) :
    (e.vacate node).registry.Coherent := by
  rcases vacate_cases node e with hv | ⟨prior, -, -, -, hv⟩
  · rw [hv]; exact h
  · rw [hv]; exact coherent_forget h prior

/-- A known host of a peer that is being established is the host of its earlier endpoint, and so
it is dropped unless the peer is still there. -/
theorem get?_hostsWithoutEarlier (h : e.registry.Coherent) {node : Node} {key : String}
    {id : NodeId} (hk : (e.hostsWithoutEarlier node).get? key = some id) :
    e.knownHosts.get? key = some id ∧ (id = node.id → key = node.endpoint.key) := by
  unfold hostsWithoutEarlier at hk
  -- Whatever was dropped, the host was known before.
  have hbefore : e.knownHosts.get? key = some id := by
    split at hk
    · split at hk
      · rw [Dict.get?_erase] at hk
        split at hk
        · cases hk
        · exact hk
      · exact hk
    · exact hk
  refine ⟨hbefore, ?_⟩
  -- By coherence it is the host of the earlier endpoint, which is dropped if the peer moves.
  rintro rfl
  obtain ⟨earlier, hearlier, hkey⟩ := h.known key _ hbefore
  have hearlier : e.established.get? node.id = some earlier := hearlier
  simp only [hearlier] at hk
  by_contra hne
  have hmoved : earlier.endpoint.key ≠ node.endpoint.key
      ∧ e.knownHosts.get? earlier.endpoint.key = some node.id :=
    ⟨hkey ▸ hne, hkey ▸ hbefore⟩
  rw [if_pos hmoved, Dict.get?_erase, if_pos hkey.symm] at hk
  cases hk

theorem coherent_establish (h : e.registry.Coherent) {node : Node} {now : Timestamp}
    {o : Admission} {table : DistanceTable} (hadd : e.table.add node now = (.ok o, table))
    (ho : o.isSuccess = true) : (e.establish node table).registry.Coherent := by
  obtain ⟨hsound, hlocal, -, -, hnode⟩ := DistanceTable.add_of_isSuccess h.sound hadd ho
  refine ⟨hsound, hlocal.trans h.keeper, ?_, ?_, ?_⟩
  · intro i
    show (table.node? i).isSome = (e.established.insert node.id node).contains i
    have hstored : (e.table.node? i).isSome = e.established.contains i := h.stored i
    rw [hnode i, Dict.contains_insert, ← hstored]
    by_cases hi : i = node.id
    · simp [hi]
    · simp [hi, registry]
  · intro i n hn
    have hn : (e.established.insert node.id node).get? i = some n := hn
    rw [Dict.get?_insert] at hn
    split at hn
    · next hi => cases hn; exact hi.symm
    · exact h.own_id i n hn
  · intro key i hk
    have hk : ((e.hostsWithoutEarlier node).insert node.endpoint.key node.id).get? key = some i :=
      hk
    show ∃ n, (e.established.insert node.id node).get? i = some n ∧ n.endpoint.key = key
    rw [Dict.get?_insert] at hk ⊢
    split at hk
    · next hkey =>
      cases hk
      exact ⟨node, if_pos rfl, hkey.symm⟩
    · -- Another host cannot name the peer itself, so its peer is established as before.
      next hkey =>
      obtain ⟨hbefore, hmoved⟩ := get?_hostsWithoutEarlier h hk
      rw [if_neg (fun hi => hkey (hmoved hi))]
      exact h.known key i hbefore

theorem coherent_enroll (h : e.registry.Coherent) (now : Timestamp) (id : NodeId)
    (a : SocketAddress) : (e.enroll now id a).registry.Coherent := by
  have hv := coherent_vacate h ⟨id, .ofAddress a⟩
  rcases enroll_cases now id a e with ⟨-, he⟩ | ⟨-, he⟩ | ⟨-, o, table, hadd, ho, he⟩
  · rw [he]; exact h
  · rw [he]; exact hv
  · rw [he]; exact coherent_establish hv hadd ho

/-! ### Calls and runs -/

theorem Effect.coherent {now : Timestamp} {call : Call} {r : Registry}
    (heffect : e.Effect now call r) (h : e.registry.Coherent) : r.Coherent := by
  cases heffect with
  | none => exact h
  | seen d => exact coherent_refreshPeer h d.message.sender now
  | defended d c _ => exact coherent_refresh h c.incumbent now
  | admitted d _ => exact coherent_enroll h now d.message.sender d.address
  | gaveUp _ ids => exact coherent_forgetAll ids h

/-- The registry is coherent in every reachable state. -/
theorem Reachable.coherent (h : Reachable e) : e.registry.Coherent := by
  induction h with
  | create config system random => exact coherent_create config system random
  | perform bans now call _ ih => exact (perform_effect bans now call _).coherent ih

/-- **The registry of an explorer is coherent in every reachable state.**  The identifiers
established are those of the nodes in the table; every node is established under its own
identifier; the identifier of the explorer itself is in neither; and every known host names a peer
that is established at this host, so that no peer is known under two hosts. -/
theorem registry_coherent (config : Config) (system : SystemLookup) (random : RandomSource)
    (occasions : List Occasion) :
    let e := (run occasions (create config system random)).1
    (∀ id, id ∈ e.established.keys ↔ id ∈ e.table.nodes.map Node.id) ∧
    (∀ id node, (id, node) ∈ e.established.entries → node.id = id) ∧
    e.localId ∉ e.established.keys ∧ e.localId ∉ e.table.nodes.map Node.id ∧
    (∀ key id, (key, id) ∈ e.knownHosts.entries →
      ∃ node, (id, node) ∈ e.established.entries ∧ node.endpoint.key = key) ∧
    (∀ key key' id, (key, id) ∈ e.knownHosts.entries → (key', id) ∈ e.knownHosts.entries →
      key = key') := by
  intro e
  have hc := ((Reachable.create config system random).run occasions).coherent
  have hsound : e.table.Sound := hc.sound
  have hids : ∀ id, id ∈ e.established.keys ↔ id ∈ e.table.nodes.map Node.id := by
    intro id
    have hstored : (e.table.node? id).isSome = e.established.contains id := hc.stored id
    rw [Dict.mem_keys, DistanceTable.mem_ids hsound, hstored]
  have hlocal : e.localId ∉ e.table.nodes.map Node.id := by
    rw [DistanceTable.mem_ids hsound, show e.localId = e.table.localId from hc.keeper.symm,
      DistanceTable.node?_localId hsound]
    exact Bool.noConfusion
  have hknown : ∀ key id, (key, id) ∈ e.knownHosts.entries →
      ∃ node, (id, node) ∈ e.established.entries ∧ node.endpoint.key = key := by
    intro key id hk
    obtain ⟨node, hn, hkey⟩ := hc.known key id (Dict.mem_entries.1 hk)
    exact ⟨node, Dict.mem_entries.2 hn, hkey⟩
  refine ⟨hids, ?_, fun hin => hlocal ((hids _).1 hin), hlocal, hknown, ?_⟩
  · intro id node hn
    exact hc.own_id id node (Dict.mem_entries.1 hn)
  · intro key key' id hk hk'
    obtain ⟨node, hn, rfl⟩ := hknown key id hk
    obtain ⟨node', hn', rfl⟩ := hknown key' id hk'
    have hsame : some node = some node' :=
      (Dict.mem_entries.1 hn).symm.trans (Dict.mem_entries.1 hn')
    rw [Option.some.inj hsame]

end Explorer
end NodeDiscovery
