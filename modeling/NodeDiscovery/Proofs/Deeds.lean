import NodeDiscovery.Proofs.Admission
import NodeDiscovery.Proofs.Coherence
import NodeDiscovery.Proofs.Samples

/-!
# What a call does, step by step

Every call but a round of expiring is a sequence of deeds: an endpoint is looked up, a message is
sent, a node is marked as seen, a PING is settled, a peer is challenged, established or given up.
An invariant that ties the requests under way to the challenges or to the peers is kept by every
call if it is kept by every deed.  A round of expiring takes all expired PINGs out at once, and is
looked at on its own.

## Main definitions

* `Explorer.Deed`, `Explorer.Deeds` — one deed, and a sequence of them.

## Main results

* `Explorer.moves_of_deeds`, `Explorer.coherent_of_deeds` — deeds are moves and keep the registry
  coherent.
* `Explorer.perform_deeds` — every call but a round of expiring is a sequence of deeds.
-/

namespace NodeDiscovery
namespace Explorer

/-- One thing that is done at a moment.  Peers are only established if they satisfy `N`. -/
inductive Deed (now : Timestamp) (N : Node → Prop) : Explorer → Explorer → Prop where
  /-- Other addresses are queued, or random numbers are drawn. -/
  | choose (e : Explorer) (bootNodes : AddressSet) (random : RandomSource) :
      Deed now N e { e with bootNodes, random }
  /-- An endpoint is looked up. -/
  | consult {e : Explorer} {endpoint : Endpoint} {a : SocketAddress} {cache : AddressCache}
      (h : e.addresses.resolve endpoint = (.ok a, cache)) :
      Deed now N e { e with addresses := cache }
  /-- A PONG is queued. -/
  | pong (e : Explorer) (id : MessageId) (a : SocketAddress) : Deed now N e (e.sendPong id a)
  /-- A NEIGHBORS is queued. -/
  | neighbors (e : Explorer) (id : MessageId) (nodes : List Node) (a : SocketAddress) :
      Deed now N e (e.sendNeighbors id nodes a)
  /-- A FIND_NODE is sent. -/
  | ask (e : Explorer) (a : SocketAddress) (node : Node) : Deed now N e (e.sendFindNode now a node)
  /-- A FIND_NODE is no longer waited for. -/
  | told (e : Explorer) (id : MessageId) :
      Deed now N e { e with requests := { e.requests with finds := e.requests.finds.erase id } }
  /-- A PING is sent that anybody may answer. -/
  | contact (e : Explorer) (a : SocketAddress) : Deed now N e (e.sendPing now a 1 none).2
  /-- A PING is sent to a node of the table, and only this node may answer. -/
  | probe {e : Explorer} {node : Node} {a : SocketAddress} {cache : AddressCache}
      (hnode : node ∈ e.table.nodes) (h : e.addresses.resolve node.endpoint = (.ok a, cache)) :
      Deed now N e ({ e with addresses := cache }.sendPing now a 1 (some node)).2
  /-- An established peer is marked as seen. -/
  | seen {e : Explorer} {id : NodeId} {node : Node} (h : e.established.get? id = some node) :
      Deed now N e { e with table := (e.table.refresh node now).2 }
  /-- A PING is settled that no challenge depends on. -/
  | settle {e : Explorer} {d : Datagram} (h : e.Admits d) :
      Deed now N e (e.withoutPing d.message.id)
  /-- The incumbent of a challenge keeps its place. -/
  | defend {e : Explorer} {d : Datagram} {c : Challenge} (h : e.Defends d c) :
      Deed now N e { e.withoutPing d.message.id with
        challenges := e.challenges.erase d.message.id
        table := (e.table.refresh c.incumbent now).2 }
  /-- The incumbent of a full bucket is challenged. -/
  | rival {e : Explorer} {node incumbent : Node} {a : SocketAddress} {cache : AddressCache}
      (hadd : e.table.add node now = (.ok (.conflict incumbent), e.table))
      (hfree : Challenges.isChallenged incumbent.id e.challenges = false)
      (h : e.addresses.resolve incumbent.endpoint = (.ok a, cache)) :
      Deed now N e ({ e with addresses := cache }.pursue now a 1 ⟨incumbent, node, now⟩)
  /-- A peer is given up. -/
  | forget (e : Explorer) (id : NodeId) : Deed now N e (e.forget id)
  /-- A peer is established that has found a place. -/
  | establish {e : Explorer} {node : Node} {o : Admission} {table : DistanceTable}
      (hadd : e.table.add node now = (.ok o, table)) (ho : o.isSuccess = true) (hnode : N node) :
      Deed now N e (e.establish node table)

/-- A sequence of deeds. -/
abbrev Deeds (now : Timestamp) (N : Node → Prop) : Explorer → Explorer → Prop :=
  Relation.ReflTransGen (Deed now N)

variable {now : Timestamp} {N : Node → Prop} {e e' : Explorer}

/-! ### Deeds are moves that keep the registry coherent -/

theorem Deed.moves (h : Deed now N e e') : e.Moves e' := by
  cases h with
  | choose | seen | forget | establish => exact moves_silent rfl rfl rfl rfl
  | consult => exact moves_addresses _ e
  | pong id a => exact .single (.pong e id a)
  | neighbors id nodes a => exact .single (.neighbors e id nodes a)
  | ask a node => exact .single (.find e now a node)
  | told id => exact moves_withoutFind id e
  | contact a => exact moves_sendPing now a 1 none e
  | probe hnode h => exact (moves_addresses _ e).trans (moves_sendPing now _ 1 _ _)
  | settle h => exact moves_withoutPing _ e
  | defend h => exact (moves_withoutPing _ e).trans (moves_silent rfl rfl rfl rfl)
  | rival hadd hfree h => exact (moves_addresses _ e).trans (moves_pursue now _ 1 _ _)

theorem moves_of_deeds (h : Deeds now N e e') : e.Moves e' := by
  induction h with
  | refl => exact .refl
  | tail _ hdeed ih => exact ih.trans hdeed.moves

theorem Deed.coherent (h : Deed now N e e') (hc : e.registry.Coherent) :
    e'.registry.Coherent := by
  cases h with
  | choose | consult | pong | neighbors | ask | told | settle => exact hc
  | contact a => rw [registry_sendPing]; exact hc
  | probe hnode h => rw [registry_sendPing]; exact hc
  | rival hadd hfree h => rw [registry_pursue]; exact hc
  | seen h => exact coherent_refresh hc _ now
  | defend h => exact coherent_refresh hc _ now
  | forget id => exact coherent_forget hc id
  | establish hadd ho hnode => exact coherent_establish hc hadd ho

theorem coherent_of_deeds (h : Deeds now N e e') (hc : e.registry.Coherent) :
    e'.registry.Coherent := by
  induction h with
  | refl => exact hc
  | tail _ hdeed ih => exact hdeed.coherent ih

/-! ### Every call but a round of expiring is a sequence of deeds -/

theorem deeds_contactQueued (now : Timestamp) (N : Node → Prop) (e : Explorer) :
    Deeds now N e (e.contactQueued now) := by
  have hall : ∀ (targets : List SocketAddress) (e : Explorer),
      Deeds now N e (e.contactAll now targets) := by
    intro targets
    induction targets with
    | nil => intro e; exact .refl
    | cons a targets ih => intro e; exact .head (.contact e a) (ih _)
  exact (hall _ e).tail (.choose _ _ _)

theorem deeds_learnAll (now : Timestamp) (N : Node → Prop) (bans : Bans) (nodes : List Node)
    (e : Explorer) : Deeds now N e (e.learnAll bans nodes) := by
  have hlearn : ∀ (node : Node) (e : Explorer), Deeds now N e (e.learn bans node) := by
    intro node e
    unfold learn
    split
    · exact .refl
    · split
      · next h => rw [eq_of_unresolved h]
      · next a cache h =>
        dsimp only
        split
        · exact .single (.consult h)
        · exact (Relation.ReflTransGen.single (.consult h)).tail (.choose _ _ _)
  unfold learnAll
  induction nodes generalizing e with
  | nil => exact .refl
  | cons node nodes ih => exact (hlearn node e).trans (ih _)

theorem deeds_refreshPeer (now : Timestamp) (N : Node → Prop) (id : NodeId) (e : Explorer) :
    Deeds now N e (e.refreshPeer id now) := by
  unfold refreshPeer
  split
  · next node hnode => exact .single (.seen hnode)
  · exact .refl

theorem deeds_onPing (now : Timestamp) (N : Node → Prop) (source : SocketAddress) (m : Message)
    (e : Explorer) : Deeds now N e (e.onPing now source m) := by
  have hpong : Deeds now N e (e.sendPong m.id source) := .single (.pong e m.id source)
  unfold onPing
  dsimp only
  split
  · exact hpong.trans (deeds_refreshPeer now N m.sender _)
  · exact hpong.tail (.contact _ source)

theorem deeds_onFindNode (now : Timestamp) (N : Node → Prop) (m : Message) (target : NodeId)
    (e : Explorer) : Deeds now N e (e.onFindNode now m target) := by
  unfold onFindNode
  split
  · exact .refl
  · next requester hrequester =>
    split
    · next h => rw [eq_of_unresolved h]
    · next a cache h =>
      have hlooked : Deeds now N e { e with addresses := cache } := .single (.consult h)
      exact ((hlooked.tail (.choose _ _ _)).tail (.neighbors _ m.id _ a)).tail (.seen hrequester)

theorem deeds_onNeighbors (now : Timestamp) (N : Node → Prop) (bans : Bans)
    (source : SocketAddress) (m : Message) (nodes : List Node) (e : Explorer) :
    Deeds now N e (e.onNeighbors bans now source m nodes) := by
  unfold onNeighbors
  dsimp only
  refine Relation.ReflTransGen.trans ?_ (deeds_refreshPeer now N m.sender _)
  split
  · next requests htake =>
    obtain ⟨-, rfl⟩ := takeFind_eq_none.1 htake
    exact .refl
  · next r requests htake =>
    obtain ⟨-, -, rfl⟩ := takeFind_eq_some.1 htake
    exact .head (.told e m.id) ((deeds_learnAll now N bans _ _).trans (deeds_contactQueued now N _))

theorem deeds_challenge {node incumbent : Node} (N : Node → Prop)
    (hadd : e.table.add node now = (.ok (.conflict incumbent), e.table)) :
    Deeds now N e (e.challenge now incumbent node) := by
  unfold challenge Challenges.start?
  cases hfree : Challenges.isChallenged incumbent.id e.challenges with
  | true => exact .refl
  | false =>
    simp only [Bool.false_eq_true, if_false]
    rcases h : e.addresses.resolve incumbent.endpoint with ⟨_ | a, cache⟩
    · dsimp only
      rw [eq_of_unresolved h]
    · exact .single (.rival hadd hfree h)

theorem deeds_place {node : Node}
    (hN : (e.place now node).established.get? node.id = some node → N node) :
    Deeds now N e (e.place now node) := by
  have hplaced : ∀ o table, e.table.add node now = (.ok o, table) → o.isSuccess = true →
      e.place now node = e.establish node table → Deeds now N e (e.establish node table) := by
    intro o table hadd ho hplace
    refine .single (.establish hadd ho (hN ?_))
    rw [hplace]
    show (e.established.insert node.id node).get? node.id = some node
    rw [Dict.get?_insert, if_pos rfl]
  rcases hadd : e.table.add node now with ⟨_ | o, table⟩
  · simp only [place, hadd]
    rw [DistanceTable.table_of_error hadd]
  · cases o with
    | conflict incumbent =>
      simp only [place, hadd]
      obtain rfl := DistanceTable.table_of_conflict hadd
      exact deeds_challenge N hadd
    | added =>
      have hplace : e.place now node = e.establish node table := by simp only [place, hadd]
      rw [hplace]
      exact hplaced _ table hadd rfl hplace
    | refreshed =>
      have hplace : e.place now node = e.establish node table := by simp only [place, hadd]
      rw [hplace]
      exact hplaced _ table hadd rfl hplace

theorem deeds_enroll {id : NodeId} {a : SocketAddress}
    (hN : ∀ n, (e.enroll now id a).established.get? n.id = some n → N n) :
    Deeds now N e (e.enroll now id a) := by
  by_cases hself : id = e.localId
  · rw [enroll, if_pos hself]
  · have henroll : e.enroll now id a
        = (e.vacate ⟨id, .ofAddress a⟩).place now ⟨id, .ofAddress a⟩ := by
      rw [enroll, if_neg hself]
    rw [henroll] at hN ⊢
    have hvacate : Deeds now N e (e.vacate ⟨id, .ofAddress a⟩) := by
      rcases vacate_cases ⟨id, .ofAddress a⟩ e with hv | ⟨prior, -, -, -, hv⟩
      · rw [hv]
      · rw [hv]; exact .single (.forget e prior)
    exact hvacate.trans (deeds_place (hN _))

/-- Hearing a message is a sequence of deeds. -/
theorem deeds_receive (bans : Bans) {d : Datagram} (hrun : e.phase = .running)
    (hN : ∀ n, (e.receive bans now d).established.get? n.id = some n → N n) :
    Deeds now N e (e.receive bans now d) := by
  unfold receive at hN ⊢
  split at hN
  · next hforeign => rw [if_pos hforeign]
  · next hnative =>
    rw [if_neg hnative]
    rw [Bool.not_eq_true] at hnative
    cases hbody : d.message.body with
    | ping sender => exact deeds_onPing now N d.address d.message e
    | pong =>
      simp only [hbody] at hN ⊢
      rcases onPong_cases now hrun hnative hbody with ⟨-, h⟩ | ⟨c, hc, h⟩ | ⟨hadmits, h⟩
      · rw [h]
      · rw [h]; exact .single (.defend hc)
      · rw [h] at hN ⊢
        exact .head (.settle hadmits) (deeds_enroll hN)
    | findNode target => exact deeds_onFindNode now N d.message target e
    | neighbors nodes => exact deeds_onNeighbors now N bans d.address d.message nodes e

/-! ### Rounds of asking and checking -/

theorem deeds_askAll (now : Timestamp) (N : Node → Prop) (nodes : List Node) (e : Explorer) :
    Deeds now N e (e.askAll now nodes) := by
  unfold askAll
  induction nodes generalizing e with
  | nil => exact .refl
  | cons node nodes ih =>
    have hask : Deeds now N e (e.ask now node) := by
      unfold ask
      split
      · next a cache h =>
        have hlooked : Deeds now N e { e with addresses := cache } := .single (.consult h)
        exact hlooked.tail (.ask _ a node)
      · next h => rw [eq_of_unresolved h]
    exact hask.trans (ih _)

/-- Nodes of the table are checked one after the other, and this leaves the table as it is. -/
theorem deeds_checkAll (now : Timestamp) (N : Node → Prop) {nodes : List Node}
    (hnodes : ∀ node ∈ nodes, node ∈ e.table.nodes) : Deeds now N e (e.checkAll now nodes) := by
  unfold checkAll
  induction nodes generalizing e with
  | nil => exact .refl
  | cons node nodes ih =>
    have hcheck : Deeds now N e (e.check now node) := by
      unfold check
      split
      · next a cache h => exact .single (.probe (hnodes node List.mem_cons_self) h)
      · next h => rw [eq_of_unresolved h]
    have htable : (e.check now node).table = e.table :=
      congrArg Registry.table (registry_checkAll now [node] e)
    refine hcheck.trans (ih fun n hn => ?_)
    rw [htable]
    exact hnodes n (List.mem_cons_of_mem _ hn)

theorem deeds_explore (now : Timestamp) (N : Node → Prop) (e : Explorer) :
    Deeds now N e (e.explore now) := by
  unfold explore
  dsimp only
  generalize htoAsk : Sampling.limited (e.table.closest e.localId) e.config.maxNodesToAsk
    findNodeRandomCount e.random = toAsk
  have hasked : Deeds now N e (askAll now toAsk.1 { e with random := toAsk.2 }) :=
    .head (.choose e e.bootNodes toAsk.2) (deeds_askAll now N _ _)
  have htable : (askAll now toAsk.1 { e with random := toAsk.2 }).table = e.table :=
    congrArg Registry.table (registry_askAll now toAsk.1 { e with random := toAsk.2 })
  refine (hasked.tail (.choose _ _ _)).trans (deeds_checkAll now N fun node hnode => ?_)
  show node ∈ (askAll now toAsk.1 { e with random := toAsk.2 }).table.nodes
  rw [htable]
  exact List.mem_mergeSort.1 (Sampling.mem_of_limited hnode)

/-- Every call but a round of expiring is a sequence of deeds, perhaps after a change of phase.
Whoever is established by one of them is established when the call ends. -/
theorem perform_deeds (bans : Bans) (now : Timestamp) {call : Call}
    (hcall : ∀ ties, call ≠ .clean ties) (e : Explorer) :
    ∃ phase e' accepted, e.perform bans now call = e'.finish accepted ∧
      Deeds now (fun n => e'.established.get? n.id = some n) { e with phase } e' := by
  have hrunning : ∀ f : Explorer → Explorer,
      (e.phase = .running → Deeds now (fun n => (f e).established.get? n.id = some n) e (f e)) →
      ∃ phase e' accepted, e.whenRunning f = e'.finish accepted ∧
        Deeds now (fun n => e'.established.get? n.id = some n) { e with phase } e' := by
    intro f hf
    unfold whenRunning
    split
    · next hrun => exact ⟨e.phase, f e, true, rfl, hf hrun⟩
    · exact ⟨e.phase, e, false, rfl, .refl⟩
  cases call with
  | start contact =>
    show ∃ phase e' accepted, e.start contact now = _ ∧ _
    unfold start
    split
    · refine ⟨.running, _, true, rfl, ?_⟩
      cases contact with
      | false => exact .refl
      | true => exact deeds_contactQueued now _ _
    · exact ⟨e.phase, e, false, rfl, .refl⟩
  | dispose =>
    show ∃ phase e' accepted, e.dispose = _ ∧ _
    unfold dispose
    split
    · exact ⟨e.phase, e, false, rfl, .refl⟩
    · exact ⟨.finished, _, true, rfl, .refl⟩
  | receive d => exact hrunning _ fun hrun => deeds_receive bans hrun fun _ hn => hn
  | clean ties => exact absurd rfl (hcall ties)
  | update => exact hrunning _ fun _ => deeds_explore now _ e

end Explorer
end NodeDiscovery
