import NodeDiscovery.Proofs.Replies
import NodeDiscovery.Proofs.Samples
import NodeDiscovery.Proofs.Whereabouts

/-!
# Where answers go

The source of a datagram can be forged, so an explorer must not be made to send much to where a
datagram seems to come from.  Lists of nodes are sent to established peers only, and to where they
are established, not to where they were asked for.  Whoever is not established and does not answer
a request gets back at most a PONG and a PING, which are no larger than what was heard.

## Main definitions

* `Explorer.Serves` — a message answers the FIND_NODE of an established peer.
* `Explorer.Answers` — a datagram answers a request that is waited for.
* `Explorer.told` — the NEIGHBORS messages that are queued.

## Main results

* `Explorer.sent_of_findNode` — what is sent for a FIND_NODE.
* `Explorer.told_perform` — nothing else makes an explorer send a NEIGHBORS.
* `Explorer.sent_of_stranger` — what a stranger gets back.
* `Explorer.no_reflection` — all of it, for every state of every run.
-/

namespace NodeDiscovery
namespace Explorer

/-- A message answers the FIND_NODE of an established peer, at the IP address and the port under
which the peer is established. -/
structure Serves (e : Explorer) (d s : Datagram) : Prop where
  /-- The explorer handles messages. -/
  running : e.phase = .running
  /-- What was heard belongs to the network of the explorer. -/
  native : e.isForeign d.message = false
  /-- What was heard is a FIND_NODE. -/
  kind : d.message.kind = .findNode
  /-- Its sender is established where the answer goes. -/
  address : ∃ n ip, e.established.get? d.message.sender = some n ∧
    n.endpoint.host = IpAddress.text ip ∧ s.address = .ofIp ip n.endpoint.port
  /-- The answer names the FIND_NODE. -/
  id : s.message.id = d.message.id
  /-- It lists no more nodes than a message may list. -/
  nodes : ∃ nodes, s.message.body = .neighbors nodes ∧
    nodes.length ≤ e.config.maxNodesPerMessage

/-- A datagram answers a request that is waited for. -/
def Answers (e : Explorer) (d : Datagram) : Prop :=
  ∃ r, (e.requests.pings.get? d.message.id = some r ∨
    e.requests.finds.get? d.message.id = some r) ∧ r.accepts d.address d.message = true

variable {e : Explorer} {d s : Datagram} {bans : Bans} {now : Timestamp}

/-! ### Answers to a FIND_NODE -/

theorem length_closeTo_le (target : NodeId) (e : Explorer) :
    (e.closeTo target).length ≤ e.config.maxNodesPerMessage :=
  Sampling.length_limited_le _ _ _ _

/-- Somebody who is not established is told nothing. -/
theorem onFindNode_of_stranger {m : Message} (hstranger : e.established.get? m.sender = none)
    (now : Timestamp) (target : NodeId) : e.onFindNode now m target = e := by
  rw [onFindNode, hstranger]

/-- What is sent for a FIND_NODE of the own network: nothing to a stranger, and one answer to an
established peer. -/
theorem sent_of_findNode (hreachable : Reachable e) (hrun : e.phase = .running)
    (hnative : e.isForeign d.message = false) (hkind : d.message.kind = .findNode) (bans : Bans)
    (now : Timestamp) :
    (e.established.get? d.message.sender = none ∧
      (e.perform bans now (.receive d)).sent = []) ∨
    ∃ s, e.Serves d s ∧ (e.perform bans now (.receive d)).sent = [s] := by
  have houtbox := hreachable.outbox_eq
  obtain ⟨target, hreceive⟩ := receive_findNode hnative hkind bans now
  rw [perform_receive hrun, hreceive, sent_finish]
  cases hrequester : e.established.get? d.message.sender with
  | none => exact .inl ⟨rfl, by rw [onFindNode_of_stranger hrequester, houtbox]⟩
  | some requester =>
    obtain ⟨ip, cache, hhost, htold⟩ := hreachable.onFindNode_reaches hrequester now target
    rw [htold, houtbox, List.nil_append]
    refine .inr ⟨_, ?_, rfl⟩
    exact ⟨hrun, hnative, hkind, ⟨requester, ip, hrequester, hhost, rfl⟩, rfl, e.closeTo target,
      rfl, length_closeTo_le target e⟩

/-! ### Nothing else is answered with a NEIGHBORS -/

/-- The NEIGHBORS messages that are queued. -/
def told (e : Explorer) : List Datagram :=
  e.outbox.filter fun s => decide (s.message.kind = .neighbors)

theorem told_congr {e e' : Explorer} (h : e'.outbox = e.outbox) : e'.told = e.told := by
  rw [told, told, h]

theorem told_send {m : Message} (hm : m.kind ≠ .neighbors) (a : SocketAddress) (e : Explorer) :
    (e.send m a).told = e.told := by
  show (e.outbox ++ ([⟨m, a⟩] : List Datagram)).filter _ = e.outbox.filter _
  rw [List.filter_append, List.filter_cons_of_neg (by simpa using hm), List.filter_nil,
    List.append_nil]

@[simp] theorem told_sendPing (now : Timestamp) (a : SocketAddress) (attempt : UInt32)
    (related : Option Node) (e : Explorer) :
    (e.sendPing now a attempt related).2.told = e.told := by
  unfold sendPing
  split
  · rfl
  · exact told_send (by simp [compose, Message.kind]) a _

@[simp] theorem told_sendPong (id : MessageId) (a : SocketAddress) (e : Explorer) :
    (e.sendPong id a).told = e.told :=
  told_send (by simp [compose, Message.kind]) a e

@[simp] theorem told_sendFindNode (now : Timestamp) (a : SocketAddress) (node : Node)
    (e : Explorer) : (e.sendFindNode now a node).told = e.told :=
  told_send (by simp [compose, Message.kind]) a _

@[simp] theorem told_contactQueued (now : Timestamp) (e : Explorer) :
    (e.contactQueued now).told = e.told :=
  foldl_same told (fun e a => told_sendPing now a 1 none e) _ e

@[simp] theorem told_refreshPeer (id : NodeId) (now : Timestamp) (e : Explorer) :
    (e.refreshPeer id now).told = e.told :=
  told_congr (refreshPeer_frame id now e).1

@[simp] theorem told_pursue (now : Timestamp) (a : SocketAddress) (attempt : UInt32)
    (c : Challenge) (e : Explorer) : (e.pursue now a attempt c).told = e.told :=
  told_sendPing now a attempt (some c.incumbent) e

theorem told_challenge (now : Timestamp) (incumbent challenger : Node) (e : Explorer) :
    (e.challenge now incumbent challenger).told = e.told := by
  rcases challenge_cases now incumbent challenger e with h | ⟨cache, a, c, -, h⟩ <;> rw [h]
  rw [told_pursue]
  rfl

theorem told_enroll (now : Timestamp) (id : NodeId) (a : SocketAddress) (e : Explorer) :
    (e.enroll now id a).told = e.told := by
  have hplace : ∀ (node : Node) (e : Explorer), (e.place now node).told = e.told := by
    intro node e
    unfold place
    split
    · rw [told_challenge]; rfl
    · rfl
    · rfl
    · rfl
  unfold enroll
  split
  · rfl
  · rw [hplace, told_congr (vacate_frame _ e).1]

theorem told_onPong (now : Timestamp) (source : SocketAddress) (m : Message) (e : Explorer) :
    (e.onPong now source m).told = e.told := by
  unfold onPong
  split
  · rfl
  · dsimp only
    split
    · rfl
    · rw [told_enroll]
      rfl

theorem told_onPing (now : Timestamp) (source : SocketAddress) (m : Message) (e : Explorer) :
    (e.onPing now source m).told = e.told := by
  unfold onPing
  dsimp only
  split
  · rw [told_refreshPeer, told_sendPong]
  · rw [told_sendPing, told_sendPong]

theorem told_onNeighbors (bans : Bans) (now : Timestamp) (source : SocketAddress) (m : Message)
    (nodes : List Node) (e : Explorer) : (e.onNeighbors bans now source m nodes).told = e.told := by
  unfold onNeighbors
  dsimp only
  rw [told_refreshPeer]
  split
  · rfl
  · rw [told_contactQueued, told_congr (outbox_learnAll bans _ _)]
    rfl

theorem told_expirePing (now : Timestamp) (r : Request) (e : Explorer) :
    (e.expirePing now r).told = e.told := by
  have hrecheck : ∀ (c : Option Challenge) (e : Explorer),
      (e.recheckChallenger now c).told = e.told := by
    intro c e
    unfold recheckChallenger
    split
    · rfl
    · split
      · rw [told_sendPing]; rfl
      · rfl
  rcases expirePing_cases now r e with ⟨-, -, h⟩ | ⟨c, -, -, h⟩ | ⟨-, h⟩ <;> rw [h]
  · rw [told_sendPing]; rfl
  · rw [told_pursue]; rfl
  · rw [hrecheck, told_congr (giveUp_frame r _).1]; rfl

theorem told_explore (now : Timestamp) (e : Explorer) : (e.explore now).told = e.told := by
  have hask : ∀ (nodes : List Node) (e : Explorer), (e.askAll now nodes).told = e.told := by
    intro nodes e
    refine foldl_same told (fun e node => ?_) nodes e
    unfold ask
    split
    · rw [told_sendFindNode]; rfl
    · rfl
  have hcheck : ∀ (nodes : List Node) (e : Explorer), (e.checkAll now nodes).told = e.told := by
    intro nodes e
    refine foldl_same told (fun e node => ?_) nodes e
    unfold check
    split
    · rw [told_sendPing]; rfl
    · rfl
  rw [explore_eq, hcheck]
  exact hask e.toAsk.1 { e with random := e.toAsk.2 }

theorem told_receive (hnative : e.isForeign d.message = false)
    (hkind : d.message.kind ≠ .findNode) (bans : Bans) (now : Timestamp) :
    (e.receive bans now d).told = e.told := by
  cases hk : d.message.kind with
  | ping => rw [receive_ping hnative hk, told_onPing]
  | pong => rw [receive_pong hnative hk, told_onPong]
  | findNode => exact absurd hk hkind
  | neighbors =>
    obtain ⟨nodes, hreceive⟩ := receive_neighbors hnative hk bans now
    rw [hreceive, told_onNeighbors]

/-- A call sends at most one NEIGHBORS, and only in answer to the FIND_NODE of an established
peer. -/
theorem told_perform (hreachable : Reachable e) (bans : Bans) (now : Timestamp) (call : Call) :
    ((e.perform bans now call).sent.filter fun s => decide (s.message.kind = .neighbors)) = [] ∨
    ∃ d s, call = .receive d ∧ e.Serves d s ∧ (e.perform bans now call).sent = [s] := by
  have hnone : e.told = [] := by
    rw [told, hreachable.outbox_eq]
    rfl
  have hrunning : ∀ f : Explorer → Explorer, (e.phase = .running → (f e).told = e.told) →
      ((e.whenRunning f).sent.filter fun s => decide (s.message.kind = .neighbors)) = [] := by
    intro f hf
    unfold whenRunning
    split
    · next hrun => exact (hf hrun).trans hnone
    · exact hnone
  cases call with
  | start contact =>
    left
    show ((e.start contact now).sent.filter _) = []
    unfold start
    split
    · cases contact with
      | false => exact hnone
      | true => exact (told_contactQueued now _).trans hnone
    · exact hnone
  | dispose =>
    left
    show (e.dispose.sent.filter _) = []
    unfold dispose
    split <;> exact hnone
  | receive d =>
    by_cases hfind : e.phase = .running ∧ e.isForeign d.message = false ∧
        d.message.kind = .findNode
    · obtain ⟨hrun, hnative, hkind⟩ := hfind
      rcases sent_of_findNode hreachable hrun hnative hkind bans now with
        ⟨-, hsent⟩ | ⟨s, hs, hsent⟩
      · exact .inl (by rw [hsent]; rfl)
      · exact .inr ⟨d, s, rfl, hs, hsent⟩
    · refine .inl (hrunning _ fun hrun => ?_)
      cases hforeign : e.isForeign d.message with
      | true => rw [receive_foreign hforeign]
      | false => exact told_receive hforeign (fun hk => hfind ⟨hrun, hforeign, hk⟩) bans now
  | clean ties =>
    exact .inl (hrunning _ fun _ => foldl_same told (fun e r => told_expirePing now r e) _
      { e with requests := (e.requests.drainPings now ties).2 })
  | update => exact .inl (hrunning _ fun _ => told_explore now e)

/-! ### Strangers -/

theorem refreshPeer_of_stranger {id : NodeId} (hstranger : e.established.get? id = none)
    (now : Timestamp) : e.refreshPeer id now = e := by
  rw [refreshPeer, hstranger]

/-- A PONG that answers no PING is ignored. -/
theorem onPong_of_unasked
    (h : ∀ r, e.requests.pings.get? d.message.id = some r → r.accepts d.address d.message = false)
    (now : Timestamp) : e.onPong now d.address d.message = e := by
  unfold onPong
  rw [takePing_eq_none.2 ⟨h, rfl⟩]

/-- So is a NEIGHBORS that answers no FIND_NODE, but for the time at which its sender was seen. -/
theorem onNeighbors_of_unasked
    (h : ∀ r, e.requests.finds.get? d.message.id = some r → r.accepts d.address d.message = false)
    (bans : Bans) (now : Timestamp) (nodes : List Node) :
    e.onNeighbors bans now d.address d.message nodes = e.refreshPeer d.message.sender now := by
  unfold onNeighbors
  rw [takeFind_eq_none.2 ⟨h, rfl⟩]

/-- What a stranger gets back for a PING: a PONG, and a PING unless one is under way to it. -/
theorem outbox_onPing_of_stranger {m : Message} (hstranger : e.established.get? m.sender = none)
    (now : Timestamp) (a : SocketAddress) :
    ∃ pings : List Datagram, (e.onPing now a m).outbox
        = e.outbox ++ ⟨e.compose m.id .pong, a⟩ :: pings ∧
      (pings = [] ∨ ∃ ping, pings = [⟨ping, a⟩] ∧ ping.kind = .ping) := by
  have hunknown : (e.sendPong m.id a).established.contains m.sender = false :=
    Dict.contains_eq_false.2 hstranger
  unfold onPing
  dsimp only
  rw [hunknown, if_neg Bool.false_ne_true]
  cases hpending : (e.sendPong m.id a).requests.pingTo? a with
  | some r =>
    rw [sendPing_of_pending hpending]
    exact ⟨[], rfl, .inl rfl⟩
  | none =>
    rw [sendPing_of_free hpending]
    exact ⟨[⟨((e.sendPong m.id a).nextPing now a 1 none).message, a⟩],
      List.append_assoc e.outbox [_] [_], .inr ⟨_, rfl, rfl⟩⟩

/-- What a stranger gets back for something that answers no request: nothing, or a PONG and perhaps
a PING. -/
theorem sent_of_stranger (hreachable : Reachable e)
    (hstranger : e.established.get? d.message.sender = none) (hanswers : ¬ e.Answers d)
    (bans : Bans) (now : Timestamp) :
    (e.perform bans now (.receive d)).sent = [] ∨
    ∃ pong pings, (e.perform bans now (.receive d)).sent = ⟨pong, d.address⟩ :: pings ∧
      pong.kind = .pong ∧
      (pings = [] ∨ ∃ ping, pings = [⟨ping, d.address⟩] ∧ ping.kind = .ping) := by
  have houtbox := hreachable.outbox_eq
  have hunchanged : e.receive bans now d = e →
      (e.perform bans now (.receive d)).sent = [] := by
    intro h
    show (e.whenRunning _).sent = []
    unfold whenRunning
    split
    · rw [h]; exact houtbox
    · exact houtbox
  by_cases hrun : e.phase = .running
  swap
  · left
    show (e.whenRunning _).sent = []
    rw [whenRunning, if_neg hrun]
    exact houtbox
  cases hforeign : e.isForeign d.message with
  | true => exact .inl (hunchanged (receive_foreign hforeign bans now))
  | false =>
    cases hkind : d.message.kind with
    | ping =>
      obtain ⟨pings, hsent, hpings⟩ := outbox_onPing_of_stranger hstranger now d.address
      refine .inr ⟨e.compose d.message.id .pong, pings, ?_, rfl, hpings⟩
      rw [perform_receive hrun, sent_finish, receive_ping hforeign hkind, hsent, houtbox]
      rfl
    | pong =>
      refine .inl (hunchanged ?_)
      rw [receive_pong hforeign hkind, onPong_of_unasked]
      exact fun r hr => Bool.eq_false_iff.2 fun haccepts => hanswers ⟨r, .inl hr, haccepts⟩
    | findNode =>
      refine .inl (hunchanged ?_)
      obtain ⟨target, hreceive⟩ := receive_findNode hforeign hkind bans now
      rw [hreceive, onFindNode_of_stranger hstranger]
    | neighbors =>
      refine .inl (hunchanged ?_)
      obtain ⟨nodes, hreceive⟩ := receive_neighbors hforeign hkind bans now
      rw [hreceive, onNeighbors_of_unasked, refreshPeer_of_stranger hstranger]
      exact fun r hr => Bool.eq_false_iff.2 fun haccepts => hanswers ⟨r, .inr hr, haccepts⟩

/-- A FIND_NODE is answered in the same way wherever it comes from. -/
theorem perform_findNode_congr {m : Message} (hkind : m.kind = .findNode) (a a' : SocketAddress)
    (bans : Bans) (now : Timestamp) (e : Explorer) :
    e.perform bans now (.receive ⟨m, a⟩) = e.perform bans now (.receive ⟨m, a'⟩) := by
  cases hbody : m.body with
  | findNode target => simp [perform, receive, hbody]
  | ping | pong | neighbors => simp [Message.kind, hbody] at hkind

/-- **An explorer does not send much to where a datagram seems to come from.**  Whatever state a
run leads to, and whatever is heard in it: a NEIGHBORS is sent only in answer to the FIND_NODE of an
established peer of the own network, alone, to the IP address and port under which the peer is
established, with the identifier of the FIND_NODE and no more nodes than a message may list; where
the FIND_NODE came from does not matter.  And if what is heard answers no request and its sender is
not established, all that is sent goes to where it came from, and it is one PONG and one PING at
most. -/
theorem no_reflection (config : Config) (system : SystemLookup) (random : RandomSource)
    (occasions : List Occasion) :
    let e := (run occasions (create config system random)).1
    (∀ bans now call s, s ∈ (e.perform bans now call).sent → s.message.kind = .neighbors →
      ∃ d, call = .receive d ∧ e.Serves d s ∧ (e.perform bans now call).sent = [s]) ∧
    (∀ bans now m a a', m.kind = .findNode →
      (e.perform bans now (.receive ⟨m, a⟩)).sent = (e.perform bans now (.receive ⟨m, a'⟩)).sent) ∧
    ∀ bans now d, ¬ e.Answers d → e.established.get? d.message.sender = none →
      (∀ s ∈ (e.perform bans now (.receive d)).sent, s.address = d.address ∧
        (s.message.kind = .pong ∨ s.message.kind = .ping)) ∧
      ∀ k, ((e.perform bans now (.receive d)).sent.filter (·.message.kind = k)).length ≤ 1 := by
  intro e
  have hreachable : Reachable e := (Reachable.create config system random).run occasions
  refine ⟨?_, ?_, ?_⟩
  · intro bans now call s hs hkind
    rcases told_perform hreachable bans now call with hnone | ⟨d, s', hcall, hserves, hsent⟩
    · exact absurd (decide_eq_true hkind) (List.filter_eq_nil_iff.1 hnone s hs)
    · rw [hsent, List.mem_singleton] at hs
      subst hs
      exact ⟨d, hcall, hserves, hsent⟩
  · intro bans now m a a' hkind
    rw [perform_findNode_congr hkind a a']
  · intro bans now d hanswers hstranger
    rcases sent_of_stranger hreachable hstranger hanswers bans now with
      hsent | ⟨pong, pings, hsent, hpong, rfl | ⟨ping, rfl, hping⟩⟩ <;> rw [hsent]
    · simp
    · refine ⟨?_, fun k => List.length_filter_le _ _⟩
      simp [hpong]
    · refine ⟨by simp [hpong, hping], fun k => ?_⟩
      -- The two messages are not of the same kind.
      by_cases hk : k = .pong
      · subst hk
        simp [hpong, hping]
      · have hne : pong.kind ≠ k := hpong ▸ Ne.symm hk
        rw [List.filter_cons_of_neg (by simpa using hne)]
        exact List.length_filter_le _ _

end Explorer
end NodeDiscovery
