import NodeDiscovery.Proofs.Places
import NodeDiscovery.Proofs.Traffic

/-!
# What a message makes an explorer send back

How many PINGs and PONGs an explorer sends back to the address of a peer that it hears is bounded
by two quantities of its state.  Its eagerness is the number of occasions on which it may still
have to send the peer a PING as long as it does not turn the peer away; its slack is gone once the
PING under way to the address is one that the peer cannot answer.  Every PING that goes back is
paid for by one of the two.

## Main definitions

* `Explorer.eagerness`, `Explorer.slack` — the two quantities.
* `messagesTo`, `countKind` — the messages that go to an address, and how many are of a kind.

## Main results

* `Explorer.ping_account`, `Explorer.pong_account`, `Explorer.findNode_account`,
  `Explorer.neighbors_account` — what goes back for a message of each kind.
-/

namespace NodeDiscovery

/-- The messages that go to an address. -/
def messagesTo (a : SocketAddress) (sent : List Datagram) : List Message :=
  (sent.filter (·.address = a)).map Datagram.message

/-- How many messages are of a kind. -/
def countKind (k : MessageKind) (messages : List Message) : Nat :=
  messages.countP (·.kind = k)

@[simp] theorem messagesTo_nil (a : SocketAddress) : messagesTo a [] = [] := rfl

/-- A message at the end of the queue. -/
theorem messagesTo_concat (a : SocketAddress) (sent : List Datagram) (d : Datagram) :
    messagesTo a (sent ++ [d])
      = messagesTo a sent ++ if d.address = a then [d.message] else [] := by
  unfold messagesTo
  rw [List.filter_append, List.map_append]
  by_cases h : d.address = a <;> simp [h]

theorem mem_messagesTo {a : SocketAddress} {sent : List Datagram} {m : Message} :
    m ∈ messagesTo a sent ↔ ⟨m, a⟩ ∈ sent := by
  unfold messagesTo
  rw [List.mem_map]
  constructor
  · rintro ⟨d, hd, rfl⟩
    obtain ⟨hsent, ha⟩ := List.mem_filter.1 hd
    obtain rfl : d.address = a := of_decide_eq_true ha
    exact hsent
  · intro h
    exact ⟨⟨m, a⟩, List.mem_filter.2 ⟨h, by simp⟩, rfl⟩

@[simp] theorem countKind_nil (k : MessageKind) : countKind k [] = 0 := rfl

theorem countKind_cons (k : MessageKind) (m : Message) (messages : List Message) :
    countKind k (m :: messages) = countKind k messages + if m.kind = k then 1 else 0 := by
  simp [countKind, List.countP_cons]

theorem countKind_singleton (k : MessageKind) (m : Message) :
    countKind k [m] = if m.kind = k then 1 else 0 := by
  rw [countKind_cons, countKind_nil, Nat.zero_add]

@[simp] theorem countKind_append (k : MessageKind) (l r : List Message) :
    countKind k (l ++ r) = countKind k l + countKind k r :=
  List.countP_append

namespace Explorer

/-- On how many occasions an explorer may still send a PING to the address of a peer as long as it
does not turn the peer away: never once the peer is established; otherwise after each challenge
that a PONG of the peer might settle, and if no PING is under way to the address. -/
def eagerness (a : SocketAddress) (id : NodeId) (e : Explorer) : Nat :=
  if e.established.contains id then 0
  else e.challenges.size + if e.requests.pingTo? a = none then 1 else 0

/-- Nothing once a PING is under way to the address of a peer that the peer cannot answer. -/
def slack (a : SocketAddress) (id : NodeId) (e : Explorer) : Nat :=
  match e.requests.pingTo? a with
  | some r => if r.mayAnswer id then 3 else 0
  | none => 3

theorem slack_le (a : SocketAddress) (id : NodeId) (e : Explorer) : e.slack a id ≤ 3 := by
  unfold slack
  split
  · split <;> omega
  · omega

theorem slack_of_free {a : SocketAddress} {e : Explorer} (h : e.requests.pingTo? a = none)
    (id : NodeId) : e.slack a id = 3 := by
  rw [slack, h]

theorem slack_congr {e e' : Explorer} (h : e'.requests = e.requests) (a : SocketAddress)
    (id : NodeId) : e'.slack a id = e.slack a id := by
  rw [slack, slack, h]

theorem eagerness_of_established {id : NodeId} {e : Explorer}
    (h : e.established.contains id = true) (a : SocketAddress) : e.eagerness a id = 0 := by
  rw [eagerness, if_pos h]

/-! ### What is heard -/

variable {e : Explorer} {d : Datagram}

theorem receive_foreign (h : e.isForeign d.message = true) (bans : Bans) (now : Timestamp) :
    e.receive bans now d = e := by
  rw [receive, if_pos h]

theorem receive_ping (hnative : e.isForeign d.message = false) (hkind : d.message.kind = .ping)
    (bans : Bans) (now : Timestamp) :
    e.receive bans now d = e.onPing now d.address d.message := by
  cases hbody : d.message.body with
  | ping sender => simp [receive, hnative, hbody]
  | pong | findNode | neighbors => simp [Message.kind, hbody] at hkind

theorem body_of_pong {m : Message} (hkind : m.kind = .pong) : m.body = .pong := by
  cases hbody : m.body with
  | pong => rfl
  | ping | findNode | neighbors => simp [Message.kind, hbody] at hkind

theorem receive_pong (hnative : e.isForeign d.message = false) (hkind : d.message.kind = .pong)
    (bans : Bans) (now : Timestamp) :
    e.receive bans now d = e.onPong now d.address d.message := by
  simp [receive, hnative, body_of_pong hkind]

theorem receive_findNode (hnative : e.isForeign d.message = false)
    (hkind : d.message.kind = .findNode) (bans : Bans) (now : Timestamp) :
    ∃ target, e.receive bans now d = e.onFindNode now d.message target := by
  cases hbody : d.message.body with
  | findNode target => exact ⟨target, by simp [receive, hnative, hbody]⟩
  | ping | pong | neighbors => simp [Message.kind, hbody] at hkind

theorem receive_neighbors (hnative : e.isForeign d.message = false)
    (hkind : d.message.kind = .neighbors) (bans : Bans) (now : Timestamp) :
    ∃ nodes, e.receive bans now d = e.onNeighbors bans now d.address d.message nodes := by
  cases hbody : d.message.body with
  | neighbors nodes => exact ⟨nodes, by simp [receive, hnative, hbody]⟩
  | ping | pong | findNode => simp [Message.kind, hbody] at hkind

theorem refreshPeer_frame (id : NodeId) (now : Timestamp) (e : Explorer) :
    (e.refreshPeer id now).outbox = e.outbox ∧ (e.refreshPeer id now).requests = e.requests ∧
    (e.refreshPeer id now).established = e.established ∧
    (e.refreshPeer id now).challenges = e.challenges := by
  unfold refreshPeer
  split <;> exact ⟨rfl, rfl, rfl, rfl⟩

/-- The PING under way to an address once one has been sent there. -/
theorem pingTo?_trackPing (horderly : e.requests.Orderly) {a : SocketAddress}
    (hfree : e.requests.pingTo? a = none) (now : Timestamp) (attempt : UInt32)
    (related : Option Node) :
    (e.requests.trackPing (e.nextPing now a attempt related)).pingTo? a
      = some (e.nextPing now a attempt related) := by
  have htracked := horderly.trackPing (r := e.nextPing now a attempt related) hfree rfl rfl
  have hget : (e.requests.trackPing (e.nextPing now a attempt related)).pings.get?
      (e.nextPing now a attempt related).id = some (e.nextPing now a attempt related) := by
    show (e.requests.pings.insert _ _).get? _ = _
    rw [Dict.get?_insert, if_pos rfl]
  exact htracked.pingTo?_eq hget

/-! ### Answers and PINGs -/

/-- How often messages of a kind are queued for an address. -/
abbrev queued (a : SocketAddress) (k : MessageKind) (e : Explorer) : Nat :=
  countKind k (messagesTo a e.outbox)

theorem queued_congr {e e' : Explorer} (h : e'.outbox = e.outbox) (a : SocketAddress)
    (k : MessageKind) : e'.queued a k = e.queued a k := by
  rw [queued, queued, h]

theorem queued_of_empty (h : e.outbox = []) (a : SocketAddress) (k : MessageKind) :
    e.queued a k = 0 := by
  rw [queued, h, messagesTo_nil, countKind_nil]

theorem queued_send (a a' : SocketAddress) (k : MessageKind) (m : Message) (e : Explorer) :
    (e.send m a').queued a k = e.queued a k + if a' = a ∧ m.kind = k then 1 else 0 := by
  show countKind k (messagesTo a (e.outbox ++ [⟨m, a'⟩])) = _
  rw [messagesTo_concat, countKind_append]
  by_cases ha : a' = a <;> simp [ha, countKind_singleton]

theorem queued_sendPong (id : MessageId) (a : SocketAddress) (k : MessageKind) (e : Explorer) :
    (e.sendPong id a).queued a k = e.queued a k + if k = .pong then 1 else 0 := by
  rw [sendPong, queued_send]
  simp [Message.kind, compose, eq_comm]

theorem eagerness_sendPong (m : MessageId) (a a' : SocketAddress) (id : NodeId) (e : Explorer) :
    (e.sendPong m a).eagerness a' id = e.eagerness a' id := rfl

theorem slack_sendPong (m : MessageId) (a a' : SocketAddress) (id : NodeId) (e : Explorer) :
    (e.sendPong m a).slack a' id = e.slack a' id := rfl

theorem queued_sendPing (now : Timestamp) (a a' : SocketAddress) (attempt : UInt32)
    (related : Option Node) (e : Explorer) (k : MessageKind) :
    (e.sendPing now a attempt related).2.queued a' k = e.queued a' k +
      if e.requests.pingTo? a = none ∧ a = a' ∧ k = .ping then 1 else 0 := by
  cases hpending : e.requests.pingTo? a with
  | some r => simp [sendPing_of_pending hpending]
  | none =>
    rw [sendPing_of_free hpending]
    show (e.send (e.nextPing now a attempt related).message a).queued a' k = _
    rw [queued_send]
    simp [nextPing, request, Message.kind, compose, eq_comm]

/-- A PING to a stranger takes one off the eagerness if it is sent. -/
theorem eagerness_sendPing (horderly : e.requests.Orderly) {id : NodeId}
    (hstranger : e.established.contains id = false) (now : Timestamp) (a : SocketAddress)
    (attempt : UInt32) (related : Option Node) :
    (e.sendPing now a attempt related).2.eagerness a id
      + (if e.requests.pingTo? a = none then 1 else 0) = e.eagerness a id := by
  cases hpending : e.requests.pingTo? a with
  | some r => simp [sendPing_of_pending hpending]
  | none =>
    have hnext := pingTo?_trackPing horderly hpending now attempt related
    rw [sendPing_of_free hpending]
    simp [eagerness, hstranger, hnext, hpending]

/-- A PING that anyone may answer leaves the slack as it is. -/
theorem slack_sendPing (horderly : e.requests.Orderly) (id : NodeId) (now : Timestamp)
    (a : SocketAddress) (attempt : UInt32) :
    (e.sendPing now a attempt none).2.slack a id = e.slack a id := by
  cases hpending : e.requests.pingTo? a with
  | some r => rw [sendPing_of_pending hpending]
  | none =>
    have hnext := pingTo?_trackPing horderly hpending now attempt none
    rw [sendPing_of_free hpending, slack_of_free hpending, slack]
    dsimp only
    rw [hnext]
    simp [nextPing, request, Request.mayAnswer]

/-- For a PING a PONG goes back, and perhaps a PING, which the eagerness pays for. -/
theorem ping_account (houtbox : e.outbox = []) (horderly : e.requests.Orderly)
    (hkind : d.message.kind = .ping) (bans : Bans) (now : Timestamp) :
    let e' := e.receive bans now d
    e'.queued d.address .findNode = 0 ∧ e'.queued d.address .neighbors = 0 ∧
    e'.queued d.address .pong ≤ 1 ∧
    5 * e'.queued d.address .ping + 4 * e'.eagerness d.address d.message.sender
      ≤ 4 * e.eagerness d.address d.message.sender + 1 ∧
    3 * e'.queued d.address .ping + e'.slack d.address d.message.sender
      ≤ e.slack d.address d.message.sender + 3 := by
  have hqueued := queued_of_empty houtbox d.address
  dsimp only
  cases hforeign : e.isForeign d.message with
  | true =>
    rw [receive_foreign hforeign]
    simp [hqueued]
  | false =>
    rw [receive_ping hforeign hkind, onPing]
    rw [show (e.sendPong d.message.id d.address).established = e.established from rfl]
    have hpong : ∀ k, (e.sendPong d.message.id d.address).queued d.address k
        = if k = .pong then 1 else 0 := by
      intro k
      rw [queued_sendPong, hqueued, Nat.zero_add]
    cases hstranger : e.established.contains d.message.sender with
    | true =>
      -- An established peer is sent the PONG alone.
      obtain ⟨hsent, hrequests, hestablished, -⟩ := refreshPeer_frame d.message.sender now
        (e.sendPong d.message.id d.address)
      have hafter : ((e.sendPong d.message.id d.address).refreshPeer d.message.sender
          now).established.contains d.message.sender = true := by
        rw [hestablished]
        exact hstranger
      rw [if_pos rfl, eagerness_of_established hafter, eagerness_of_established hstranger,
        slack_congr hrequests, slack_sendPong]
      simp only [queued_congr hsent, hpong]
      simp
    | false =>
      have heager := eagerness_sendPing (e := e.sendPong d.message.id d.address) horderly
        hstranger now d.address 1 none
      have hslack := slack_sendPing (e := e.sendPong d.message.id d.address) horderly
        d.message.sender now d.address 1
      rw [eagerness_sendPong] at heager
      rw [slack_sendPong] at hslack
      rw [if_neg Bool.false_ne_true, hslack, ← heager]
      simp only [queued_sendPing, hpong]
      by_cases hfree : (e.sendPong d.message.id d.address).requests.pingTo? d.address = none
      · simp [hfree]
        omega
      · simp [hfree]

/-! ### PONGs -/

/-- The PING under way to an address once an incumbent has been pursued there. -/
theorem pingTo?_pursue (horderly : e.requests.Orderly) {a : SocketAddress}
    (hfree : e.requests.pingTo? a = none) (now : Timestamp) (attempt : UInt32) (c : Challenge) :
    (e.pursue now a attempt c).requests.pingTo? a
      = some (e.nextPing now a attempt (some c.incumbent)) := by
  have hafter := orderly_of_moves (moves_pursue now a attempt c e) horderly
  have hget : (e.pursue now a attempt c).requests.pings.get?
      (e.nextPing now a attempt (some c.incumbent)).id
        = some (e.nextPing now a attempt (some c.incumbent)) := by
    show ((e.sendPing now a attempt (some c.incumbent)).2.requests.bind
      (e.sendPing now a attempt (some c.incumbent)).1 c.incumbent).pings.get? _ = _
    rw [sendPing_of_free hfree, RequestTracker.get?_bind, if_pos rfl]
    show ((e.requests.pings.insert _ _).get? _).map _ = _
    rw [Dict.get?_insert, if_pos rfl]
    rfl
  exact hafter.pingTo?_eq hget

/-- Pursuing an incumbent sends at most one PING to an address that none is under way to, and then
nobody else can answer it. -/
theorem pursue_account (houtbox : e.outbox = []) (horderly : e.requests.Orderly)
    {a : SocketAddress} (hfree : e.requests.pingTo? a = none) {id : NodeId} {c : Challenge}
    (hid : c.incumbent.id ≠ id) (now : Timestamp) (a' : SocketAddress) (attempt : UInt32) :
    (∀ k, k ≠ .ping → (e.pursue now a' attempt c).queued a k = 0) ∧
    3 * (e.pursue now a' attempt c).queued a .ping + (e.pursue now a' attempt c).slack a id
      ≤ 3 := by
  have hqueued : ∀ k, (e.pursue now a' attempt c).queued a k
      = if e.requests.pingTo? a' = none ∧ a' = a ∧ k = .ping then 1 else 0 := by
    intro k
    show (e.sendPing now a' attempt (some c.incumbent)).2.queued a k = _
    rw [queued_sendPing, queued_of_empty houtbox, Nat.zero_add]
  have hslack := (e.pursue now a' attempt c).slack_le a id
  refine ⟨?_, ?_⟩
  · intro k hk
    rw [hqueued, if_neg fun h => hk h.2.2]
  · rw [hqueued]
    by_cases hback : a' = a
    · -- The PING goes to the address and is bound to the incumbent.
      subst hback
      have hbarred : (e.pursue now a' attempt c).slack a' id = 0 := by
        rw [slack, pingTo?_pursue horderly hfree]
        simp [nextPing, request, Request.mayAnswer, hid]
      rw [hbarred]
      split <;> omega
    · rw [if_neg fun h => hback h.2.1]
      omega

/-- A PING that has been settled leaves none under way to its address. -/
theorem Settles.pingTo?_eq (horderly : e.requests.Orderly) {r : Request} (h : e.Settles d r) :
    e.requests.pingTo? d.address = some r ∧
    (e.withoutPing d.message.id).requests.pingTo? d.address = none := by
  refine ⟨h.address_eq ▸ horderly.pingTo?_eq h.pending, ?_⟩
  rw [RequestTracker.pingTo?_eq_none]
  intro m r' hr' haddress
  obtain ⟨hm, hr'⟩ := Dict.get?_erase_eq_some.1 hr'
  exact hm (horderly.alone m d.message.id r' r hr' h.pending (haddress.trans h.address_eq.symm))

/-- The account of the admission of a peer that no PING is under way to. -/
theorem enroll_account (h : e.registry.Coherent) (houtbox : e.outbox = [])
    (horderly : e.requests.Orderly) {id : NodeId} (hself : id ≠ e.localId) {a : SocketAddress}
    (hfree : e.requests.pingTo? a = none) (now : Timestamp) :
    (∀ k, k ≠ .ping → (e.enroll now id a).queued a k = 0) ∧
    ((e.enroll now id a).established.contains id = true → (e.enroll now id a).queued a .ping = 0) ∧
    3 * (e.enroll now id a).queued a .ping + (e.enroll now id a).slack a id ≤ 3 := by
  obtain ⟨hsent, hrequests, -, -⟩ := vacate_frame ⟨id, .ofAddress a⟩ e
  have hslack := (e.enroll now id a).slack_le a id
  -- Unless an incumbent is challenged nothing is sent.
  have hsilent : (e.enroll now id a).outbox = (e.vacate ⟨id, .ofAddress a⟩).outbox →
      ∀ k, (e.enroll now id a).queued a k = 0 := by
    intro hsame k
    rw [queued_congr (hsame.trans hsent), queued_of_empty houtbox]
  rcases enroll_outcomes h hself now a with ⟨table, he⟩ | ⟨hstranger, -, he | ⟨i, hi, he⟩⟩
  · have hnone := hsilent (by rw [he]; rfl)
    exact ⟨fun k _ => hnone k, fun _ => hnone _, by rw [hnone]; omega⟩
  · have hnone := hsilent (by rw [he])
    exact ⟨fun k _ => hnone k, fun _ => hnone _, by rw [hnone]; omega⟩
  · rcases challenge_cases now i ⟨id, .ofAddress a⟩ (e.vacate ⟨id, .ofAddress a⟩) with
      hc | ⟨cache, a', c, rfl, hc⟩
    · have hnone := hsilent (by rw [he, hc])
      exact ⟨fun k _ => hnone k, fun _ => hnone _, by rw [hnone]; omega⟩
    · rw [he, hc]
      obtain ⟨hothers, hping⟩ := pursue_account
        (e := { e.vacate ⟨id, .ofAddress a⟩ with addresses := cache }) (hsent.trans houtbox)
        (hrequests ▸ horderly) (hrequests ▸ hfree) hi now a' 1
      refine ⟨hothers, ?_, hping⟩
      intro hin
      have hsame := congrArg Registry.established (registry_pursue now a' 1 c
        { e.vacate ⟨id, .ofAddress a⟩ with addresses := cache })
      have hsame : (pursue now a' 1 c { e.vacate ⟨id, .ofAddress a⟩ with
        addresses := cache }).established = (e.vacate ⟨id, .ofAddress a⟩).established := hsame
      rw [hsame, hstranger] at hin
      cases hin

/-- For a PONG at most one PING goes back.  It is paid for by the slack; and if the peer is not
turned away none goes back. -/
theorem pong_account (h : Reachable e) (hrun : e.phase = .running)
    (hself : d.message.sender ≠ e.localId) (hkind : d.message.kind = .pong) (bans : Bans)
    (now : Timestamp) :
    let e' := e.receive bans now d
    (∀ k, k ≠ .ping → e'.queued d.address k = 0) ∧
    ((e.Admits d → e'.established.contains d.message.sender = true) →
      5 * e'.queued d.address .ping + 4 * e'.eagerness d.address d.message.sender
        ≤ 4 * e.eagerness d.address d.message.sender) ∧
    3 * e'.queued d.address .ping + e'.slack d.address d.message.sender
      ≤ e.slack d.address d.message.sender := by
  have hqueued := queued_of_empty h.outbox_eq d.address
  -- The peer could answer the PING that it settles, so there is slack to pay with.
  have hsettled : ∀ r, e.Settles d r → e.slack d.address d.message.sender = 3 := by
    intro r hr
    rw [slack, (hr.pingTo?_eq h.orderly).1]
    exact if_pos hr.mayAnswer
  dsimp only
  cases hforeign : e.isForeign d.message with
  | true =>
    rw [receive_foreign hforeign]
    simp [hqueued]
  | false =>
    rw [receive_pong hforeign hkind]
    rcases onPong_cases now hrun hforeign (body_of_pong hkind) with
      ⟨-, he⟩ | ⟨c, ⟨⟨r, hr⟩, hc⟩, he⟩ | ⟨hadmits, he⟩
    · rw [he]
      simp [hqueued]
    · -- One challenge less pays for the PING that is waited for no longer.
      have hnone : ∀ k, (e.onPong now d.address d.message).queued d.address k = 0 := by
        intro k
        rw [he]
        exact hqueued k
      have heager : (e.onPong now d.address d.message).eagerness d.address d.message.sender
          ≤ e.eagerness d.address d.message.sender := by
        have hsize := Dict.size_erase hc
        have hsame : (e.onPong now d.address d.message).established = e.established := by
          rw [he]
          rfl
        have hless : (e.onPong now d.address d.message).challenges
            = e.challenges.erase d.message.id := by rw [he]
        unfold eagerness
        rw [hsame, hless]
        split
        · omega
        · split <;> split <;> omega
      have hslack := (e.onPong now d.address d.message).slack_le d.address d.message.sender
      simp only [hnone, hsettled r hr]
      exact ⟨fun _ _ => trivial, fun _ => by omega, by omega⟩
    · obtain ⟨r, hr⟩ := hadmits.1
      have horderly : (e.withoutPing d.message.id).requests.Orderly :=
        orderly_of_moves (moves_withoutPing d.message.id e) h.orderly
      obtain ⟨hothers, hwelcome, hping⟩ := enroll_account (e := e.withoutPing d.message.id)
        h.coherent h.outbox_eq horderly hself (hr.pingTo?_eq h.orderly).2 now
      rw [he, hsettled r hr]
      refine ⟨hothers, ?_, hping⟩
      intro hestablished
      rw [hwelcome (hestablished hadmits), eagerness_of_established (hestablished hadmits)]
      omega

/-! ### FIND_NODEs and NEIGHBORS -/

/-- For a FIND_NODE at most a NEIGHBORS goes back. -/
theorem findNode_account (houtbox : e.outbox = []) (hkind : d.message.kind = .findNode)
    (bans : Bans) (now : Timestamp) :
    let e' := e.receive bans now d
    (∀ k, k ≠ .neighbors → e'.queued d.address k = 0) ∧ e'.queued d.address .neighbors ≤ 1 := by
  have hqueued := queued_of_empty houtbox d.address
  dsimp only
  cases hforeign : e.isForeign d.message with
  | true =>
    rw [receive_foreign hforeign]
    simp [hqueued]
  | false =>
    obtain ⟨target, he⟩ := receive_findNode hforeign hkind bans now
    rw [he]
    unfold onFindNode
    split
    · simp [hqueued]
    · split
      · simp [hqueued]
      · next a cache _ =>
        dsimp only
        -- Whatever changes before and after it, a NEIGHBORS to `a` is all that is sent.
        have hsent : ∀ (e₁ e₂ : Explorer) (nodes : List Node) (k : MessageKind),
            e₁.outbox = e.outbox → e₂.outbox = (e₁.sendNeighbors d.message.id nodes a).outbox →
            e₂.queued d.address k = if a = d.address ∧ k = .neighbors then 1 else 0 := by
          intro e₁ e₂ nodes k h₁ h₂
          rw [queued_congr h₂, sendNeighbors, queued_send, queued_congr h₁, hqueued, Nat.zero_add]
          simp [Message.kind, compose, eq_comm]
        refine ⟨fun k hk => ?_, ?_⟩
        · rw [hsent _ _ _ k (by rfl) (by rfl), if_neg fun h => hk h.2]
        · rw [hsent _ _ _ _ (by rfl) (by rfl)]
          split <;> omega

theorem outbox_learnAll (bans : Bans) (nodes : List Node) (e : Explorer) :
    (e.learnAll bans nodes).outbox = e.outbox := by
  refine foldl_same outbox (fun e node => ?_) nodes e
  unfold learn
  split
  · rfl
  · split
    · rfl
    · dsimp only
      split <;> rfl

theorem queued_contactQueued (now : Timestamp) (a : SocketAddress) {k : MessageKind}
    (hk : k ≠ .ping) (e : Explorer) : (e.contactQueued now).queued a k = e.queued a k := by
  refine foldl_same (queued a k) (fun e a' => ?_) e.bootNodes.toList e
  rw [queued_sendPing, if_neg fun h => hk h.2.2, Nat.add_zero]

/-- For a NEIGHBORS only PINGs go back. -/
theorem neighbors_account (houtbox : e.outbox = []) (hkind : d.message.kind = .neighbors)
    (bans : Bans) (now : Timestamp) {k : MessageKind} (hk : k ≠ .ping) :
    (e.receive bans now d).queued d.address k = 0 := by
  have hqueued := queued_of_empty houtbox d.address
  cases hforeign : e.isForeign d.message with
  | true => rw [receive_foreign hforeign, hqueued]
  | false =>
    obtain ⟨nodes, he⟩ := receive_neighbors hforeign hkind bans now
    rw [he, onNeighbors]
    rw [queued_congr (refreshPeer_frame d.message.sender now _).1]
    split
    · exact hqueued k
    · rw [queued_contactQueued now d.address hk, queued_congr (outbox_learnAll bans _ _)]
      exact hqueued k

end Explorer
end NodeDiscovery
