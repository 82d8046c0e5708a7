import NodeDiscovery.Proofs.Answering
import NodeDiscovery.Proofs.Ranking

/-!
# What a peer is told

An established peer that asks for a target is told of the nodes closest to it.  Where the table
holds more nodes than a message may list, up to five places of the message go to nodes from further
away, so that not everybody who asks is told the same.  To be asked changes little: the peer that
has asked counts as seen now.

## Main definitions

* `DistanceTable.Neighborhood` — a list of nodes is what a peer may be told.

## Main results

* `DistanceTable.Sound.neighborhood_limited` — the bounded part of a ranking is one.
* `DistanceTable.Sound.refresh_eq` — a node that has been seen stands last in its bucket.
* `Explorer.findNode_reply` — what is sent for a FIND_NODE, and all that changes.
-/

namespace NodeDiscovery

namespace DistanceTable

/-- What a peer may be told that asks for a target, where a message may list `max` nodes. -/
structure Neighborhood (t : DistanceTable) (target : NodeId) (max : Nat) (nodes : List Node) :
    Prop where
  /-- There are as many nodes as may be listed, or all if there are no more. -/
  length : nodes.length = min t.size max
  /-- No identifier is listed twice. -/
  nodup : (nodes.map Node.id).Nodup
  /-- All of them are in the table. -/
  held : ∀ n ∈ nodes, t.Holds n
  /-- If all may be listed, all are, the closest first. -/
  whole : t.size ≤ max → (∀ n, t.Holds n → n ∈ nodes) ∧ nodes.Pairwise (Node.Closer target)
  /-- Otherwise the places that do not go to chance are ranked. -/
  ranked : max < t.size → (nodes.take (max - min 5 max)).Pairwise (Node.Closer target)
  /-- No node that is not in these places is as close as the ones that are. -/
  closest : max < t.size → ∀ c ∈ nodes.take (max - min 5 max), ∀ n, t.Holds n →
    n ∉ nodes.take (max - min 5 max) → c.Closer target n
  /-- In particular the nodes in the other places are farther away. -/
  farther : max < t.size → ∀ c ∈ nodes.take (max - min 5 max),
    ∀ n ∈ nodes.drop (max - min 5 max), c.Closer target n

variable {t : DistanceTable}

/-- The bounded part of a ranking is what a peer may be told. -/
theorem Sound.neighborhood_limited (ht : t.Sound) (target : NodeId) (max : Nat)
    (r : RandomSource) :
    t.Neighborhood target max (Sampling.limited (t.closest target) max 5 r).1 := by
  have hranked := ht.pairwise_closest target
  have hsize := length_closest t target
  have hsplit : ∀ k, ∀ c ∈ (t.closest target).take k, ∀ n ∈ (t.closest target).drop k,
      c.Closer target n := by
    intro k
    rw [← List.take_append_drop k (t.closest target)] at hranked
    exact (List.pairwise_append.1 hranked).2.2
  have hfront : max < t.size →
      (Sampling.limited (t.closest target) max 5 r).1.take (max - min 5 max)
        = (t.closest target).take (max - min 5 max) :=
    fun hlt => Sampling.take_limited (hsize.symm ▸ hlt) 5 r
  refine ⟨?_, ?_, ?_, ?_, ?_, ?_, ?_⟩
  · rw [Sampling.length_limited, hsize]
  · rw [← Sampling.limited_map]
    exact Sampling.nodup_limited (ht.nodup_closest target) max 5 r
  · intro n hn
    exact mem_closest.1 (Sampling.mem_of_limited hn)
  · intro hle
    rw [Sampling.limited_of_le (hsize ▸ hle)]
    exact ⟨fun n hn => mem_closest.2 hn, hranked⟩
  · intro hlt
    rw [hfront hlt]
    exact hranked.sublist (List.take_sublist _ _)
  · -- A node that is not in front is behind it, since the ranking has them all.
    intro hlt
    rw [hfront hlt]
    intro c hc n hn hother
    have hmem : n ∈ (t.closest target).take (max - min 5 max)
        ++ (t.closest target).drop (max - min 5 max) := by
      rw [List.take_append_drop]
      exact mem_closest.2 hn
    exact hsplit _ c hc n ((List.mem_append.1 hmem).resolve_left hother)
  · -- The other places are filled from behind the front.
    intro hlt
    rw [hfront hlt, Sampling.drop_limited (hsize.symm ▸ hlt)]
    intro c hc n hn
    exact hsplit _ c hc n (Sampling.mem_of_choose hn)

/-! ### The peer that asks -/

/-- A node that has been seen stands last in its bucket, and the others keep their order. -/
theorem Sound.refresh_eq (ht : t.Sound) {n : Node} (hn : (t.node? n.id).isSome = true)
    (now : Timestamp) :
    (t.refresh n now).2 = t.setBucket n.id
      ⟨(t.bucketFor n.id).entries.filter (fun e => decide (e.node.id ≠ n.id)) ++ [⟨n, now⟩]⟩ := by
  rw [isSome_node?] at hn
  rw [refresh_of_contains hn, ← Bucket.entries_remove (ht.distinct n.id) n.id]
  rfl

/-- That a node has been seen does not change whose nodes are stored. -/
theorem Sound.stores_refresh (ht : t.Sound) (n : Node) (now : Timestamp) (id : NodeId) :
    (t.refresh n now).2.Stores id ↔ t.Stores id := by
  rw [stores_iff_mem, stores_iff_mem, mem_ids (ht.refresh n now), mem_ids ht, node?_refresh ht]
  split
  · next hid => rw [hid.1, hid.2, Option.isSome_some]
  · exact Iff.rfl

end DistanceTable

namespace Explorer

/-- **A FIND_NODE of an established peer is answered with its neighborhood, and changes nothing but
the place of the peer.**  In whatever running state a run leads to, the peer is sent one NEIGHBORS
and nothing else, at the address at which it is established.  It lists as many nodes of the table
as a message may list, none twice.  If these are all, they are ranked by their distance to the
target; if not, the first places hold the nodes closest to the target in this order, and the last
ones, five or as many as there are, hold others, which are farther away.  Then the peer stands last
in its bucket as it is established, seen now; who is stored is not changed, and nothing else is but
what is remembered of addresses and the random words used up. -/
theorem findNode_reply (config : Config) (system : SystemLookup) (random : RandomSource)
    (occasions : List Occasion) (bans : Bans) (now : Timestamp) (d : Datagram) (target : NodeId)
    (peer : Node) :
    let e := (run occasions (create config system random)).1
    let turn := e.perform bans now (.receive d)
    e.phase = .running → e.isForeign d.message = false → d.message.body = .findNode target →
    e.established.get? d.message.sender = some peer →
    ∃ nodes ip,
      e.table.Neighborhood target config.maxNodesPerMessage nodes ∧
      peer.id = d.message.sender ∧ peer.endpoint.host = IpAddress.text ip ∧
      turn.sent = [⟨⟨d.message.id, config.localId, some config.networkId, .neighbors nodes⟩,
        .ofIp ip peer.endpoint.port⟩] ∧
      (∃ entry ∈ (e.table.bucketFor peer.id).entries, entry.node.id = peer.id) ∧
      turn.explorer = { e with
        table := e.table.setBucket peer.id
          ⟨(e.table.bucketFor peer.id).entries.filter (fun entry => decide (entry.node.id ≠ peer.id))
            ++ [⟨peer, now⟩]⟩
        addresses := turn.explorer.addresses
        random := turn.explorer.random } ∧
      ∀ id, turn.explorer.table.Stores id ↔ e.table.Stores id := by
  intro e turn hrun hnative hbody hpeer
  have hreachable : Reachable e := (Reachable.create config system random).run occasions
  have hconfig : e.config = config := config_run occasions _
  have hcoherent := hreachable.coherent
  have hsound : e.table.Sound := hcoherent.sound
  have hid : peer.id = d.message.sender := hcoherent.own_id _ peer hpeer
  have hstored : (e.table.node? peer.id).isSome = true := by
    have hcontains : e.established.contains d.message.sender = true :=
      Option.isSome_iff_exists.2 ⟨peer, hpeer⟩
    rw [hid]
    exact (hcoherent.stored _).trans hcontains
  obtain ⟨ip, cache, hhost, htold⟩ := hreachable.onFindNode_reaches hpeer now target
  have hturn : turn = (e.onFindNode now d.message target).finish true := by
    show e.perform bans now (.receive d) = _
    rw [perform_receive hrun, receive, if_neg (by rw [hnative]; exact Bool.false_ne_true), hbody]
  rw [htold, hreachable.outbox_eq] at hturn
  refine ⟨e.closeTo target, ip, ?_, hid, hhost, ?_, ?_, ?_, ?_⟩
  · rw [← hconfig]
    exact hsound.neighborhood_limited target _ e.random
  · rw [hturn, ← hconfig]
    rfl
  · rw [DistanceTable.isSome_node?] at hstored
    exact Bucket.contains_iff.1 hstored
  · rw [hturn, ← hsound.refresh_eq hstored now]
    unfold finish
    rw [← hreachable.outbox_eq]
  · intro id
    rw [hturn]
    exact hsound.stores_refresh peer now id

open Sample in
/-- Seven peers are established, one of them asks, and a message may list six. -/
theorem neighborhood_of_seven :
    let config := { Sample.config 0 3 with maxNodesPerMessage := 6 }
    let greetings := [(0x40, 0), (0x20, 1), (0x10, 2), (8, 3), (4, 4), (2, 5), (1, 6)].flatMap
      fun (id, n) => [pinged id id, ponged id id (messageId 0 n)]
    let e := (run (starts :: greetings) (create config (fun _ => none) (source 0))).1
    let d : Datagram := ⟨⟨.nil, nodeId 0x20, some 0, .findNode (nodeId 8)⟩, address 9⟩
    let peer : Node := ⟨nodeId 0x20, .ofAddress (address 0x20)⟩
    e.phase = .running ∧ e.isForeign d.message = false ∧
      e.established.get? d.message.sender = some peer ∧ e.table.size = 7 ∧
      ∃ nodes ip, e.table.Neighborhood (nodeId 8) 6 nodes ∧
        peer.endpoint.host = IpAddress.text ip ∧
        (e.perform .none (.ofMillis 7) (.receive d)).sent =
          [⟨⟨.nil, nodeId 0, some 0, .neighbors nodes⟩, .ofIp ip 30303⟩] := by
  intro config greetings e d peer
  have hrun : e.phase = .running := by decide +kernel
  have hnative : e.isForeign d.message = false := by decide +kernel
  have hpeer : e.established.get? d.message.sender = some peer := by decide +kernel
  obtain ⟨nodes, ip, hnodes, -, hhost, hsent, -⟩ :=
    findNode_reply config (fun _ => none) (source 0) (starts :: greetings) .none (.ofMillis 7) d
      (nodeId 8) peer hrun hnative rfl hpeer
  exact ⟨hrun, hnative, hpeer, by decide +kernel, nodes, ip, hnodes, hhost, hsent⟩

end Explorer
end NodeDiscovery
