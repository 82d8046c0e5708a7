import NodeDiscovery.Proofs.Bindings
import NodeDiscovery.Proofs.Settlement

/-!
# Where peers are reached

An explorer keeps nodes in three places: among the established peers, in the table and in its
challenges.  All of them got there by answering a PING, and were entered with the address that the
answer came from.  The text of this address is read back as the address, whatever other hosts are
remembered or have been forgotten, so that a look-up of a peer never fails.

## Main definitions

* `Node.Observed` — the endpoint of a node is that of an address.
* `AddressCache.Reaches` — what is found for a node is its own address.
* `Explorer.Peer` — the nodes that an explorer keeps.
* `Explorer.Located` — all of them are observed, and the memory for addresses is faithful.
* `Explorer.closeTo`, `Explorer.toAsk`, `Explorer.toCheck` — the nodes that a peer is told, and
  those that a round asks and checks.
* `Explorer.LooksUp` — the nodes that a call looks up, and what is remembered when it does.

## Main results

* `Explorer.peer_of_perform` — who is kept after a call was kept before or has just answered.
* `Explorer.Reachable.located` — what is kept in a reachable state is located.
* `Explorer.explore_of_few` — a round asks and checks all peers if there are few.
* `Explorer.LooksUp.reaches` — no look-up of a peer fails.
* `Explorer.Reachable.onFindNode_reaches`, `Explorer.Reachable.challenge_reaches`,
  `Explorer.Reachable.recheckChallenger_reaches`, `Explorer.Reachable.ask_reaches`,
  `Explorer.Reachable.check_reaches` — what the five look-ups lead to.
* `Explorer.peers_resolve` — peers are reached at their address.
-/

namespace NodeDiscovery

/-- The node is kept at the endpoint of an address. -/
def Node.Observed (n : Node) : Prop :=
  ∃ a, n.endpoint = .ofAddress a

/-- The host of the node is the text of an IP address, and what is found for the node is this IP
address with the port of the node and no scope. -/
def AddressCache.Reaches (c : AddressCache) (n : Node) : Prop :=
  ∃ ip cache, n.endpoint.host = IpAddress.text ip ∧
    c.resolve n.endpoint = (.ok (.ofIp ip n.endpoint.port), cache)

/-- A faithful memory reaches every observed node. -/
theorem AddressCache.Faithful.reaches {c : AddressCache} (h : c.Faithful) {n : Node}
    (hn : n.Observed) : c.Reaches n := by
  obtain ⟨a, ha⟩ := hn
  refine ⟨a.ip, c.record (Endpoint.ofAddress a).key (.ofIp a.ip a.port), ?_, ?_⟩
  · rw [ha]; rfl
  · rw [ha]; exact h.resolve_ofAddress a

namespace Explorer

/-- The nodes that an explorer keeps. -/
inductive Peer (e : Explorer) (n : Node) : Prop where
  /-- An established peer. -/
  | established (h : e.established.get? n.id = some n)
  /-- A node of the table. -/
  | stored (h : e.table.node? n.id = some n)
  /-- The incumbent of a challenge. -/
  | incumbent {m : MessageId} {c : Challenge} (h : e.challenges.get? m = some c)
      (hn : n = c.incumbent)
  /-- The challenger of a challenge. -/
  | challenger {m : MessageId} {c : Challenge} (h : e.challenges.get? m = some c)
      (hn : n = c.challenger)

/-- Whoever is established under some identifier is a peer, since that identifier is its own. -/
theorem Peer.of_established {e : Explorer} {n : Node} (hcoherent : e.registry.Coherent)
    {id : NodeId} (h : e.established.get? id = some n) : e.Peer n :=
  .established (by rw [hcoherent.own_id id n h]; exact h)

theorem Peer.of_mem {e : Explorer} {n : Node} (hcoherent : e.registry.Coherent)
    (h : n ∈ e.table.nodes) : e.Peer n :=
  .stored ((DistanceTable.mem_nodes hcoherent.sound).1 h)

/-- The sender of an answer that admits it, at the address where the answer comes from. -/
def Newcomer (e : Explorer) (call : Call) (n : Node) : Prop :=
  ∃ d, call = .receive d ∧ e.Admits d ∧ n = ⟨d.message.sender, .ofAddress d.address⟩

theorem Newcomer.observed {e : Explorer} {call : Call} {n : Node} (h : e.Newcomer call n) :
    n.Observed := by
  obtain ⟨d, -, -, rfl⟩ := h
  exact ⟨d.address, rfl⟩

variable {e e' : Explorer} {now : Timestamp} {call : Call} {n : Node}

/-! ### The registry -/

theorem stored_of_forget (hsound : e.table.Sound) {id i : NodeId}
    (h : (e.forget id).table.node? i = some n) : e.table.node? i = some n := by
  have h : (e.table.remove id).2.node? i = some n := h
  rw [DistanceTable.node?_remove hsound] at h
  split at h
  · cases h
  · exact h

theorem stored_of_forgetAll {ids : List NodeId} {i : NodeId} (hcoherent : e.registry.Coherent)
    (h : (ids.foldl (fun e id => e.forget id) e).table.node? i = some n) :
    e.table.node? i = some n := by
  induction ids generalizing e with
  | nil => exact h
  | cons id ids ih => exact stored_of_forget hcoherent.sound (ih (coherent_forget hcoherent id) h)

theorem stored_of_vacate (hsound : e.table.Sound) {node : Node} {i : NodeId}
    (h : (e.vacate node).table.node? i = some n) : e.table.node? i = some n := by
  rcases vacate_cases node e with hv | ⟨prior, -, -, -, hv⟩ <;> rw [hv] at h
  · exact h
  · exact stored_of_forget hsound h

theorem stored_of_refresh {t : DistanceTable} (hsound : t.Sound) {node : Node} {i : NodeId}
    (h : (t.refresh node now).2.node? i = some n) : t.node? i = some n ∨ n = node := by
  rw [DistanceTable.node?_refresh hsound] at h
  split at h
  · cases h
    exact .inr rfl
  · exact .inl h

/-- A node that the table stores after a call is a peer already, or it has just answered. -/
theorem Effect.stored {r : Registry} (heffect : e.Effect now call r)
    (hcoherent : e.registry.Coherent) (h : r.table.node? n.id = some n) :
    e.Peer n ∨ e.Newcomer call n := by
  have hsound : e.table.Sound := hcoherent.sound
  cases heffect with
  | none => exact .inl (.stored h)
  | seen d =>
    unfold refreshPeer at h
    split at h
    · next node hnode =>
      rcases stored_of_refresh hsound h with h | rfl
      · exact .inl (.stored h)
      · exact .inl (.of_established hcoherent hnode)
    · exact .inl (.stored h)
  | defended d c hd =>
    rcases stored_of_refresh hsound h with h | hn
    · exact .inl (.stored h)
    · exact .inl (.incumbent hd.2 hn)
  | gaveUp _ ids => exact .inl (.stored (stored_of_forgetAll hcoherent h))
  | admitted d hadmits =>
    have hvacated : (e.vacate ⟨d.message.sender, .ofAddress d.address⟩).registry.Coherent :=
      coherent_vacate hcoherent _
    rcases enroll_cases now d.message.sender d.address e with
      ⟨-, he⟩ | ⟨-, he⟩ | ⟨-, o, table, hadd, ho, he⟩ <;> rw [he] at h
    · exact .inl (.stored h)
    · exact .inl (.stored (stored_of_vacate hsound h))
    · obtain ⟨-, -, -, -, hnodes⟩ := DistanceTable.add_of_isSuccess hvacated.sound hadd ho
      have h : table.node? n.id = some n := h
      rw [hnodes] at h
      split at h
      · exact .inr ⟨d, rfl, hadmits, (Option.some.inj h).symm⟩
      · exact .inl (.stored (stored_of_vacate hsound h))

/-! ### The challenges -/

/-- A challenge that is active after a newcomer has been admitted was active before, or the
newcomer challenges a node of the table. -/
theorem rivals_of_enroll {id : NodeId} {a : SocketAddress} (hcoherent : e.registry.Coherent)
    {k : MessageId} {c : Challenge} (hc : (e.enroll now id a).challenges.get? k = some c) :
    e.challenges.get? k = some c ∨
      e.table.node? c.incumbent.id = some c.incumbent ∧ c.challenger = ⟨id, .ofAddress a⟩ := by
  refine (challenge_of_enroll hc).imp_right ?_
  rintro ⟨-, hchallenger, hadd⟩
  have hstored := DistanceTable.node?_of_conflict (coherent_vacate hcoherent _).sound hadd
  exact ⟨stored_of_vacate hcoherent.sound hstored, hchallenger⟩

/-- A challenge that is active after a call was active before, or a newcomer challenges a peer. -/
theorem rivals_of_perform (hcoherent : e.registry.Coherent) (horderly : e.requests.Orderly)
    (bans : Bans) {k : MessageId} {c : Challenge}
    (hc : (e.perform bans now call).explorer.challenges.get? k = some c) :
    (∃ m, e.challenges.get? m = some c) ∨ e.Peer c.incumbent ∧ e.Newcomer call c.challenger := by
  rcases challenge_of_perform horderly bans now call hc with hm | ⟨d, hd, hadmits, hc⟩
  · exact .inl hm
  · rcases rivals_of_enroll (e := e.withoutPing d.message.id) hcoherent hc with hm | ⟨hi, hnew⟩
    · exact .inl ⟨k, hm⟩
    · exact .inr ⟨.stored hi, d, hd, hadmits, hnew⟩

/-- Who is kept after a call was kept before or has just answered. -/
theorem peer_of_perform (hcoherent : e.registry.Coherent) (horderly : e.requests.Orderly)
    (bans : Bans) (h : (e.perform bans now call).explorer.Peer n) :
    e.Peer n ∨ e.Newcomer call n := by
  have heffect := perform_effect bans now call e
  cases h with
  | established h =>
    by_cases hbefore : e.established.get? n.id = some n
    · exact .inl (.established hbefore)
    · obtain ⟨d, hd, hadmits, hid, -, hn⟩ := heffect.established hbefore h
      exact .inr ⟨d, hd, hadmits, by rw [hn, hid]⟩
  | stored h => exact heffect.stored hcoherent h
  | incumbent h hn =>
    rcases rivals_of_perform hcoherent horderly bans h with ⟨m, hm⟩ | ⟨hincumbent, -⟩
    · exact .inl (.incumbent hm hn)
    · exact .inl (hn ▸ hincumbent)
  | challenger h hn =>
    rcases rivals_of_perform hcoherent horderly bans h with ⟨m, hm⟩ | ⟨-, hnew⟩
    · exact .inl (.challenger hm hn)
    · exact .inr (hn ▸ hnew)

/-! ### The memory for addresses -/

@[simp] theorem addresses_sendPing (now : Timestamp) (a : SocketAddress) (attempt : UInt32)
    (related : Option Node) (e : Explorer) :
    (e.sendPing now a attempt related).2.addresses = e.addresses := by
  unfold sendPing
  split <;> rfl

@[simp] theorem addresses_pursue (now : Timestamp) (a : SocketAddress) (attempt : UInt32)
    (c : Challenge) (e : Explorer) : (e.pursue now a attempt c).addresses = e.addresses :=
  addresses_sendPing now a attempt (some c.incumbent) e

theorem Deed.faithful {N : Node → Prop} (hdeed : Deed now N e e') (h : e.addresses.Faithful) :
    e'.addresses.Faithful := by
  cases hdeed with
  | choose | pong | neighbors | ask | told | seen | settle | defend | forget | establish => exact h
  | consult hresolve => exact h.resolve hresolve
  | contact a => rwa [addresses_sendPing]
  | probe _ hresolve =>
    rw [addresses_sendPing]
    exact h.resolve hresolve
  | rival _ _ hresolve =>
    rw [addresses_pursue]
    exact h.resolve hresolve

theorem faithful_of_deeds {N : Node → Prop} (hdeeds : Deeds now N e e')
    (h : e.addresses.Faithful) : e'.addresses.Faithful := by
  induction hdeeds with
  | refl => exact h
  | tail _ hdeed ih => exact hdeed.faithful ih

theorem giveUp_frame (r : Request) (e : Explorer) :
    (e.giveUp r).outbox = e.outbox ∧ (e.giveUp r).requests = e.requests ∧
    (e.giveUp r).addresses = e.addresses := by
  unfold giveUp
  split <;> exact ⟨rfl, rfl, rfl⟩

theorem faithful_recheckChallenger (h : e.addresses.Faithful) (now : Timestamp)
    (c : Option Challenge) : (e.recheckChallenger now c).addresses.Faithful := by
  rcases recheckChallenger_cases now c e with hnone | ⟨endpoint, a, cache, hresolve, hsent⟩
  · rw [hnone]
    exact h
  · rw [hsent, addresses_sendPing]
    exact h.resolve hresolve

theorem faithful_expirePing (h : e.addresses.Faithful) (now : Timestamp) (r : Request) :
    (e.expirePing now r).addresses.Faithful := by
  rcases expirePing_cases now r e with ⟨-, -, he⟩ | ⟨c, -, -, he⟩ | ⟨-, he⟩ <;> rw [he]
  · rw [addresses_sendPing]
    exact h
  · rw [addresses_pursue]
    exact h
  · refine faithful_recheckChallenger ?_ now _
    rw [(giveUp_frame r _).2.2]
    exact h

theorem faithful_expirePings (h : e.addresses.Faithful) (now : Timestamp) (x : List Request) :
    (e.expirePings now x).addresses.Faithful := by
  induction x generalizing e with
  | nil => exact h
  | cons r x ih => exact ih (faithful_expirePing h now r)

theorem faithful_perform (h : e.addresses.Faithful) (bans : Bans) (now : Timestamp)
    (call : Call) : (e.perform bans now call).explorer.addresses.Faithful := by
  rcases perform_cases bans now call e with
    ⟨ties, -, -, hround⟩ | ⟨phase, e', accepted, hperform, hdeeds⟩
  · rw [hround]
    exact faithful_expirePings (e := { e with requests := (e.requests.drainPings now ties).2 }) h
      now _
  · have hafter : e'.addresses.Faithful := faithful_of_deeds hdeeds h
    rw [hperform]
    exact hafter

/-! ### Runs -/

/-- All nodes that an explorer keeps are observed, and its memory for addresses is faithful. -/
structure Located (e : Explorer) : Prop where
  /-- What is remembered for the text of an IP address is this address. -/
  faithful : e.addresses.Faithful
  /-- Every node is kept at the endpoint of an address. -/
  observed : ∀ n, e.Peer n → n.Observed

theorem located_create (config : Config) (system : SystemLookup) (random : RandomSource) :
    (create config system random).Located where
  faithful := faithful_create config system random
  observed := by
    intro n h
    cases h with
    | established h => cases h
    | stored h =>
      have h : (DistanceTable.empty config.localId config.bucketSize).node? n.id = some n := h
      rw [DistanceTable.node?_empty] at h
      cases h
    | incumbent h => cases h
    | challenger h => cases h

theorem located_perform (h : e.Located) (hcoherent : e.registry.Coherent)
    (horderly : e.requests.Orderly) (bans : Bans) (now : Timestamp) (call : Call) :
    (e.perform bans now call).explorer.Located where
  faithful := faithful_perform h.faithful bans now call
  observed := by
    intro n hn
    rcases peer_of_perform hcoherent horderly bans hn with hn | hn
    · exact h.observed n hn
    · exact hn.observed

/-- Peers are located in every reachable state. -/
theorem Reachable.located (h : Reachable e) : e.Located := by
  induction h with
  | create config system random => exact located_create config system random
  | perform bans now call h ih => exact located_perform ih h.coherent h.orderly bans now call

/-! ### Look-ups -/

/-- The nodes that a peer is told who asks for a target. -/
def closeTo (target : NodeId) (e : Explorer) : List Node :=
  (Sampling.limited (e.table.closest target) e.config.maxNodesPerMessage neighborsRandomCount
    e.random).1

/-- The peers that a round asks for more nodes, with what is left of the random words. -/
def toAsk (e : Explorer) : List Node × RandomSource :=
  Sampling.limited (e.table.closest e.localId) e.config.maxNodesToAsk findNodeRandomCount e.random

/-- The state in which a round has asked its peers. -/
def asked (now : Timestamp) (e : Explorer) : Explorer :=
  askAll now e.toAsk.1 { e with random := e.toAsk.2 }

/-- The peers that the round checks then. -/
def toCheck (now : Timestamp) (e : Explorer) : List Node × RandomSource :=
  Sampling.limited (e.table.closest e.localId) (e.asked now).config.maxNodesToCheck
    checkRandomCount (e.asked now).random

theorem explore_eq (now : Timestamp) (e : Explorer) :
    e.explore now
      = checkAll now (e.toCheck now).1 { e.asked now with random := (e.toCheck now).2 } := rfl

/-- Where there are few peers a round asks and checks all of them, the closest first. -/
theorem explore_of_few {ranked : List Node} (hranked : e.table.closest e.localId = ranked)
    (hask : ranked.length ≤ e.config.maxNodesToAsk)
    (hcheck : ranked.length ≤ e.config.maxNodesToCheck) (now : Timestamp) :
    (e.toCheck now).1 = ranked ∧ e.explore now = checkAll now ranked (askAll now ranked e) := by
  subst hranked
  have htoAsk : e.toAsk = (e.table.closest e.localId, e.random) := Sampling.limited_of_le hask _ _
  have hasked : e.asked now = askAll now (e.table.closest e.localId) e := by rw [asked, htoAsk]
  have hconfig : (e.asked now).config = e.config := by
    rw [hasked]
    exact config_of_sendings (sendings_askAll now _ e)
  have htoCheck : e.toCheck now = (e.table.closest e.localId, (e.asked now).random) :=
    Sampling.limited_of_le (by rwa [hconfig]) _ _
  exact ⟨by rw [htoCheck], by rw [explore_eq, htoCheck, hasked]⟩

/-- The nodes that a call looks up because it has something to send to them, and what is remembered
at that moment. -/
inductive LooksUp (e : Explorer) (now : Timestamp) : Call → AddressCache → Node → Prop where
  /-- The sender of a FIND_NODE, to answer it where it is established. -/
  | requester {d : Datagram} {n : Node} (h : e.established.get? d.message.sender = some n) :
      LooksUp e now (.receive d) e.addresses n
  /-- The incumbent of a full bucket, to challenge it for a newcomer. -/
  | incumbent {d : Datagram} {e₁ : Explorer} {n : Node} (hadmits : e.Admits d)
      (hvacated : e₁
        = (e.withoutPing d.message.id).vacate ⟨d.message.sender, .ofAddress d.address⟩)
      (hadd : e₁.table.add ⟨d.message.sender, .ofAddress d.address⟩ now
        = (.ok (.conflict n), e₁.table)) :
      LooksUp e now (.receive d) e₁.addresses n
  /-- The challenger of a challenge whose PING has expired, when the PINGs before it have been dealt
  with and its incumbent has been given up. -/
  | challenger {ties : List MessageId} {done rest : List Request} {r : Request} {e₁ : Explorer}
      {c : Challenge}
      (hexpired : (e.requests.drainPings now ties).1 = done ++ r :: rest)
      (hdone : e₁ = expirePings now done { e with requests := (e.requests.drainPings now ties).2 })
      (hc : e₁.challenges.get? r.id = some c) :
      LooksUp e now (.clean ties) ((e₁.withoutChallenge r.id).giveUp r).addresses c.challenger
  /-- A peer that is to be asked for more nodes, when those before it have been asked. -/
  | asked {done rest : List Node} {n : Node} (h : e.toAsk.1 = done ++ n :: rest) :
      LooksUp e now .update (askAll now done { e with random := e.toAsk.2 }).addresses n
  /-- A peer that is to be checked, when all have been asked and those before it been checked. -/
  | checked {done rest : List Node} {n : Node} (h : (e.toCheck now).1 = done ++ n :: rest) :
      LooksUp e now .update
        (checkAll now done { e.asked now with random := (e.toCheck now).2 }).addresses n

variable {cache : AddressCache}

theorem mem_nodes_of_toAsk (h : n ∈ e.toAsk.1) : n ∈ e.table.nodes :=
  List.mem_mergeSort.1 (Sampling.mem_of_limited h)

theorem mem_nodes_of_toCheck (h : n ∈ (e.toCheck now).1) : n ∈ e.table.nodes :=
  List.mem_mergeSort.1 (Sampling.mem_of_limited h)

theorem table_asked (now : Timestamp) (e : Explorer) : (e.asked now).table = e.table :=
  congrArg Registry.table (registry_askAll now e.toAsk.1 { e with random := e.toAsk.2 })

/-- Who is looked up is a peer. -/
theorem LooksUp.peer (h : e.LooksUp now call cache n) (hcoherent : e.registry.Coherent) :
    e.Peer n := by
  cases h with
  | requester h => exact .of_established hcoherent h
  | @incumbent d e₁ _ _ hvacated hadd =>
    subst hvacated
    have hvacated : ((e.withoutPing d.message.id).vacate
        ⟨d.message.sender, .ofAddress d.address⟩).registry.Coherent :=
      coherent_vacate (e := e.withoutPing d.message.id) hcoherent _
    have hn := DistanceTable.node?_of_conflict hvacated.sound hadd
    exact .stored (stored_of_vacate (e := e.withoutPing d.message.id) hcoherent.sound hn)
  | challenger _ hdone hc =>
    subst hdone
    obtain ⟨m, hm, -⟩ := challenge_of_expirePings hc
    exact .challenger hm rfl
  | asked h => exact .of_mem hcoherent (mem_nodes_of_toAsk (by rw [h]; simp))
  | checked h => exact .of_mem hcoherent (mem_nodes_of_toCheck (by rw [h]; simp))

/-- What is remembered when a node is looked up is faithful. -/
theorem LooksUp.faithful (h : e.LooksUp now call cache n) (hfaithful : e.addresses.Faithful) :
    cache.Faithful := by
  have hasked : ∀ (nodes : List Node) (random : RandomSource),
      (askAll now nodes { e with random }).addresses.Faithful :=
    fun nodes random =>
      faithful_of_deeds (deeds_askAll now (fun _ => True) nodes { e with random }) hfaithful
  cases h with
  | requester => exact hfaithful
  | @incumbent d e₁ _ _ hvacated _ =>
    subst hvacated
    rw [vacate_addresses]
    exact hfaithful
  | @challenger ties done rest r e₁ c _ hdone _ =>
    subst hdone
    rw [(giveUp_frame r _).2.2]
    exact faithful_expirePings (e := { e with requests := (e.requests.drainPings now ties).2 })
      hfaithful now done
  | asked => exact hasked _ _
  | @checked done rest _ h =>
    have hdone : ∀ node ∈ done, node ∈ (e.asked now).table.nodes := by
      intro node hnode
      rw [table_asked]
      exact mem_nodes_of_toCheck (by rw [h]; exact List.mem_append_left _ hnode)
    refine faithful_of_deeds (N := fun _ => True) (deeds_checkAll now _ hdone) ?_
    exact hasked _ _

/-- What is remembered when a node is looked up leads to it. -/
theorem LooksUp.reaches (h : e.LooksUp now call cache n) (hreachable : Reachable e) :
    cache.Reaches n :=
  (h.faithful hreachable.located.faithful).reaches
    (hreachable.located.observed n (h.peer hreachable.coherent))

/-! ### No look-up of a peer fails -/

section NoFailure

variable (hreachable : Reachable e)
include hreachable

/-- An established peer that asks for nodes is told some, and counts as seen now. -/
theorem Reachable.onFindNode_reaches {d : Datagram} {requester : Node}
    (hrequester : e.established.get? d.message.sender = some requester) (now : Timestamp)
    (target : NodeId) :
    ∃ ip cache, requester.endpoint.host = IpAddress.text ip ∧
      e.onFindNode now d.message target =
        { e with
          outbox := e.outbox ++
            [⟨e.compose d.message.id (.neighbors (e.closeTo target)),
              .ofIp ip requester.endpoint.port⟩]
          table := (e.table.refresh requester now).2
          addresses := cache
          random := (Sampling.limited (e.table.closest target) e.config.maxNodesPerMessage
            neighborsRandomCount e.random).2 } := by
  obtain ⟨ip, cache, hhost, hresolve⟩ :=
    (LooksUp.requester hrequester : e.LooksUp now _ _ _).reaches hreachable
  refine ⟨ip, cache, hhost, ?_⟩
  simp only [onFindNode, hrequester, hresolve]
  rfl

/-- An incumbent who is to be challenged for a newcomer is sent a PING. -/
theorem Reachable.challenge_reaches {d : Datagram} {e₁ : Explorer} {c : Challenge}
    (hadmits : e.Admits d)
    (hvacated : e₁ = (e.withoutPing d.message.id).vacate ⟨d.message.sender, .ofAddress d.address⟩)
    (hadd : e₁.table.add ⟨d.message.sender, .ofAddress d.address⟩ now
      = (.ok (.conflict n), e₁.table))
    (hstart : Challenges.start? n ⟨d.message.sender, .ofAddress d.address⟩ now e₁.challenges
      = some c) :
    ∃ ip cache, n.endpoint.host = IpAddress.text ip ∧
      e₁.challenge now n ⟨d.message.sender, .ofAddress d.address⟩ =
        { e₁ with addresses := cache }.pursue now (.ofIp ip n.endpoint.port) 1 c := by
  obtain ⟨ip, cache, hhost, hresolve⟩ :=
    (LooksUp.incumbent hadmits hvacated hadd).reaches hreachable
  exact ⟨ip, cache, hhost, by simp only [challenge, hstart, hresolve]⟩

/-- A challenger whose incumbent has been given up is sent a PING. -/
theorem Reachable.recheckChallenger_reaches {ties : List MessageId} {done rest : List Request}
    {r : Request} {e₁ e₂ : Explorer} {c : Challenge}
    (hexpired : (e.requests.drainPings now ties).1 = done ++ r :: rest)
    (hdone : e₁ = expirePings now done { e with requests := (e.requests.drainPings now ties).2 })
    (hc : e₁.challenges.get? r.id = some c) (hgivenUp : e₂ = (e₁.withoutChallenge r.id).giveUp r) :
    ∃ ip cache, c.challenger.endpoint.host = IpAddress.text ip ∧
      e₂.recheckChallenger now (some c) =
        ({ e₂ with addresses := cache }.sendPing now (.ofIp ip c.challenger.endpoint.port) 1
          none).2 := by
  obtain ⟨ip, cache, hhost, hresolve⟩ := (LooksUp.challenger hexpired hdone hc).reaches hreachable
  rw [← hgivenUp] at hresolve
  exact ⟨ip, cache, hhost, by simp only [recheckChallenger, hresolve]⟩

/-- A peer that is to be asked for more nodes is sent a FIND_NODE. -/
theorem Reachable.ask_reaches {done rest : List Node} {e₁ : Explorer}
    (h : e.toAsk.1 = done ++ n :: rest)
    (hdone : e₁ = askAll now done { e with random := e.toAsk.2 }) :
    ∃ ip cache, n.endpoint.host = IpAddress.text ip ∧
      e₁.ask now n =
        { e₁ with addresses := cache }.sendFindNode now (.ofIp ip n.endpoint.port) n := by
  obtain ⟨ip, cache, hhost, hresolve⟩ := (LooksUp.asked h : e.LooksUp now _ _ _).reaches hreachable
  rw [← hdone] at hresolve
  exact ⟨ip, cache, hhost, by simp only [ask, hresolve]⟩

/-- A peer that is to be checked is sent a PING that is bound to it. -/
theorem Reachable.check_reaches {done rest : List Node} {e₁ : Explorer}
    (h : (e.toCheck now).1 = done ++ n :: rest)
    (hdone : e₁ = checkAll now done { e.asked now with random := (e.toCheck now).2 }) :
    ∃ ip cache, n.endpoint.host = IpAddress.text ip ∧
      e₁.check now n =
        ({ e₁ with addresses := cache }.sendPing now (.ofIp ip n.endpoint.port) 1 (some n)).2 := by
  obtain ⟨ip, cache, hhost, hresolve⟩ := (LooksUp.checked h).reaches hreachable
  rw [← hdone] at hresolve
  exact ⟨ip, cache, hhost, by simp only [check, hresolve]⟩

end NoFailure

/-- **Peers are reached at their address.**  In every state of every run, whatever is remembered or
has been forgotten, the host of every established peer, of every node of the table and of both nodes
of every challenge is the text of an IP address, and the node is found at just this IP address, its
port and no scope.  So no look-up of a peer fails in the course of a call: neither that of somebody
who is to be answered, nor that of an incumbent who is to be challenged, of a challenger who is to
take the place, or of a peer who is to be asked or checked. -/
theorem peers_resolve (config : Config) (system : SystemLookup) (random : RandomSource)
    (occasions : List Occasion) :
    let e := (run occasions (create config system random)).1
    (∀ n, n ∈ e.established.values → e.addresses.Reaches n) ∧
      (∀ n, n ∈ e.table.nodes → e.addresses.Reaches n) ∧
      (∀ c, c ∈ e.challenges.values →
        e.addresses.Reaches c.incumbent ∧ e.addresses.Reaches c.challenger) ∧
      ∀ now call cache n, e.LooksUp now call cache n → cache.Reaches n := by
  intro e
  have hreachable : Reachable e := (Reachable.create config system random).run occasions
  have hcoherent := hreachable.coherent
  have hlocated := hreachable.located
  have hpeer : ∀ n, e.Peer n → e.addresses.Reaches n :=
    fun n hn => hlocated.faithful.reaches (hlocated.observed n hn)
  refine ⟨?_, ?_, ?_, ?_⟩
  · intro n hn
    obtain ⟨id, hid⟩ := Dict.mem_values.1 hn
    exact hpeer n (.of_established hcoherent hid)
  · intro n hn
    exact hpeer n (.of_mem hcoherent hn)
  · intro c hc
    obtain ⟨m, hm⟩ := Dict.mem_values.1 hc
    exact ⟨hpeer _ (.incumbent hm rfl), hpeer _ (.challenger hm rfl)⟩
  · exact fun now call cache n hn => hn.reaches hreachable

end Explorer
end NodeDiscovery
