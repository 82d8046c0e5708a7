import Mathlib.Logic.Relation
import NodeDiscovery.Proofs.FiniteMap
import NodeDiscovery.Proofs.Registry

/-!
# What a call sends

Every call first stops waiting for some requests and then sends, and what it sends it waits for
until it ends.  The requests of a call are first attempts, except in a round of expiring: there a
PING may take the place of one that has expired, goes to the same address and counts one attempt
more.

## Main definitions

* `Explorer.Sending`, `Explorer.Sendings` — one elementary change that stops waiting for nothing,
  and a sequence of them; a request is only sent if it satisfies `P`.
* `Explorer.drop` — some requests are no longer waited for.
* `Request.First`, `Request.Renews` — a first attempt, and a request in place of one that has
  expired.

## Main results

* `Explorer.sendings_expirePing` — what is sent when a PING has expired.
* `Explorer.perform_first` — every call but a round of expiring drops requests and then sends first
  attempts.
* `Explorer.perform_sendings` — every call drops requests and then sends.
-/

namespace NodeDiscovery

/-- A request that has not been tried before. -/
def Request.First (r : Request) : Prop :=
  r.attempt = 1

/-- A request that is sent when PINGs `x` have expired: a first attempt, or one that goes to where
a PING went that may be tried once more. -/
def Request.Renews (most : UInt32) (x : List Request) (r : Request) : Prop :=
  r.First ∨ ∃ q ∈ x, q.attempt < most ∧ r.address = q.address ∧ r.attempt = q.attempt + 1

namespace Explorer

/-! ### The next request -/

/-- The PING that an explorer sends when none is under way to an address. -/
def nextPing (now : Timestamp) (a : SocketAddress) (attempt : UInt32) (related : Option Node)
    (e : Explorer) : Request :=
  e.request now (e.compose (MessageId.draw e.random).1 (.ping e.config.localNode.endpoint)) a .pong
    related attempt

/-- The FIND_NODE that an explorer sends to a node. -/
def nextFind (now : Timestamp) (a : SocketAddress) (node : Node) (e : Explorer) : Request :=
  e.request now (e.compose (MessageId.draw e.random).1 (.findNode e.localId)) a .neighbors
    (some node) 1

theorem sendPing_of_free {e : Explorer} {a : SocketAddress} (hfree : e.requests.pingTo? a = none)
    (now : Timestamp) (attempt : UInt32) (related : Option Node) :
    e.sendPing now a attempt related =
      ((e.nextPing now a attempt related).id,
        { e with
          random := (MessageId.draw e.random).2
          requests := e.requests.trackPing (e.nextPing now a attempt related)
          outbox := e.outbox ++ [⟨(e.nextPing now a attempt related).message, a⟩] }) := by
  unfold sendPing
  rw [hfree]
  rfl

theorem sendPing_of_pending {e : Explorer} {a : SocketAddress} {r : Request}
    (hpending : e.requests.pingTo? a = some r) (now : Timestamp) (attempt : UInt32)
    (related : Option Node) : e.sendPing now a attempt related = (r.id, e) := by
  unfold sendPing
  rw [hpending]

/-! ### Sending -/

/-- One elementary change that stops waiting for nothing.  A request is only sent if it satisfies
`P`. -/
inductive Sending (P : Request → Prop) : Explorer → Explorer → Prop where
  /-- Something changes that is neither sent nor waited for. -/
  | silent {e e' : Explorer} (hconfig : e'.config = e.config) (hphase : e'.phase = e.phase)
      (hrequests : e'.requests = e.requests) (houtbox : e'.outbox = e.outbox) : Sending P e e'
  /-- A PONG is queued. -/
  | pong (e : Explorer) (id : MessageId) (a : SocketAddress) : Sending P e (e.sendPong id a)
  /-- A NEIGHBORS is queued. -/
  | neighbors (e : Explorer) (id : MessageId) (nodes : List Node) (a : SocketAddress) :
      Sending P e (e.sendNeighbors id nodes a)
  /-- A PING is tracked and queued, to an address that none is under way to. -/
  | ping (e : Explorer) (now : Timestamp) (a : SocketAddress) (attempt : UInt32)
      (related : Option Node) (hfree : e.requests.pingTo? a = none)
      (hP : P (e.nextPing now a attempt related)) : Sending P e (e.sendPing now a attempt related).2
  /-- A FIND_NODE is tracked and queued. -/
  | find (e : Explorer) (now : Timestamp) (a : SocketAddress) (node : Node)
      (hP : P (e.nextFind now a node)) : Sending P e (e.sendFindNode now a node)
  /-- A PING under way is bound to a node. -/
  | bind (e : Explorer) (id : MessageId) (node : Node) :
      Sending P e { e with requests := e.requests.bind id node }

/-- A sequence of elementary changes that stop waiting for nothing. -/
abbrev Sendings (P : Request → Prop) : Explorer → Explorer → Prop :=
  Relation.ReflTransGen (Sending P)

/-- Some requests are no longer waited for. -/
def drop (p q : MessageId → Request → Bool) (e : Explorer) : Explorer :=
  { e with requests := ⟨e.requests.pings.filter p, e.requests.finds.filter q⟩ }

theorem drop_nothing (e : Explorer) : e.drop (fun _ _ => true) (fun _ _ => true) = e := by
  rw [drop, Dict.filter_true, Dict.filter_true]

theorem drop_ping (id : MessageId) (e : Explorer) :
    e.drop (fun m _ => decide (m ≠ id)) (fun _ _ => true) = e.withoutPing id := by
  rw [drop, Dict.filter_true]
  rfl

theorem drop_find (id : MessageId) (e : Explorer) :
    e.drop (fun _ _ => true) (fun m _ => decide (m ≠ id))
      = { e with requests := { e.requests with finds := e.requests.finds.erase id } } := by
  rw [drop, Dict.filter_true]
  rfl

/-- What leads from each state to the next leads through a list. -/
theorem reflTransGen_foldl {α : Type} {R : Explorer → Explorer → Prop} {f : Explorer → α → Explorer}
    (hf : ∀ e a, Relation.ReflTransGen R e (f e a)) (l : List α) (e : Explorer) :
    Relation.ReflTransGen R e (l.foldl f e) := by
  induction l generalizing e with
  | nil => exact .refl
  | cons a l ih => exact (hf e a).trans (ih (f e a))

variable {P : Request → Prop} {e e' : Explorer}

/-- A sequence that drops nothing does so too when more may be sent. -/
theorem Sending.mono {P' : Request → Prop} (hP : ∀ r, P r → P' r) (h : Sending P e e') :
    Sending P' e e' := by
  cases h with
  | silent hconfig hphase hrequests houtbox => exact .silent hconfig hphase hrequests houtbox
  | pong id a => exact .pong e id a
  | neighbors id nodes a => exact .neighbors e id nodes a
  | ping now a attempt related hfree h => exact .ping e now a attempt related hfree (hP _ h)
  | find now a node h => exact .find e now a node (hP _ h)
  | bind id node => exact .bind e id node

theorem sendings_mono {P' : Request → Prop} (hP : ∀ r, P r → P' r) (h : Sendings P e e') :
    Sendings P' e e' :=
  Relation.ReflTransGen.mono (fun _ _ h => Sending.mono hP h) _ _ h

theorem sendings_silent (hconfig : e'.config = e.config) (hphase : e'.phase = e.phase)
    (hrequests : e'.requests = e.requests) (houtbox : e'.outbox = e.outbox) : Sendings P e e' :=
  .single (.silent hconfig hphase hrequests houtbox)

theorem sendings_addresses (cache : AddressCache) (e : Explorer) :
    Sendings P e { e with addresses := cache } :=
  sendings_silent rfl rfl rfl rfl

theorem sendings_random (r : RandomSource) (e : Explorer) : Sendings P e { e with random := r } :=
  sendings_silent rfl rfl rfl rfl

theorem sendings_sendPing {now : Timestamp} {a : SocketAddress} {attempt : UInt32}
    {related : Option Node} (hP : P (e.nextPing now a attempt related)) :
    Sendings P e (e.sendPing now a attempt related).2 := by
  cases h : e.requests.pingTo? a with
  | none => exact .single (.ping e now a attempt related h hP)
  | some r => rw [sendPing_of_pending h]

theorem sendings_pursue {now : Timestamp} {a : SocketAddress} {attempt : UInt32} {c : Challenge}
    (hP : P (e.nextPing now a attempt (some c.incumbent))) :
    Sendings P e (e.pursue now a attempt c) :=
  ((sendings_sendPing hP).tail (.bind _ _ c.incumbent)).tail (.silent rfl rfl rfl rfl)

/-! ### Hearing a message -/

theorem sendings_contactQueued (now : Timestamp) (e : Explorer) :
    Sendings Request.First e (e.contactQueued now) :=
  (reflTransGen_foldl (fun _ _ => sendings_sendPing (P := Request.First) rfl) _ e).tail
    (.silent rfl rfl rfl rfl)

theorem sendings_learnAll (bans : Bans) (nodes : List Node) (e : Explorer) :
    Sendings P e (e.learnAll bans nodes) := by
  refine reflTransGen_foldl (fun e node => ?_) nodes e
  unfold learn
  split
  · exact .refl
  · split
    · exact sendings_addresses _ e
    · dsimp only
      split <;> exact sendings_silent rfl rfl rfl rfl

theorem sendings_refreshPeer (id : NodeId) (now : Timestamp) (e : Explorer) :
    Sendings P e (e.refreshPeer id now) := by
  unfold refreshPeer
  split
  · exact sendings_silent rfl rfl rfl rfl
  · exact .refl

theorem sendings_challenge (now : Timestamp) (incumbent challenger : Node) (e : Explorer) :
    Sendings Request.First e (e.challenge now incumbent challenger) := by
  unfold challenge
  split
  · exact .refl
  · split
    · next a cache _ =>
      exact (sendings_addresses cache e).trans (sendings_pursue (P := Request.First) rfl)
    · exact sendings_addresses _ e

theorem sendings_vacate (node : Node) (e : Explorer) : Sendings P e (e.vacate node) := by
  rcases vacate_cases node e with h | ⟨prior, -, -, -, h⟩
  · rw [h]
  · rw [h]; exact sendings_silent rfl rfl rfl rfl

theorem sendings_enroll (now : Timestamp) (id : NodeId) (a : SocketAddress) (e : Explorer) :
    Sendings Request.First e (e.enroll now id a) := by
  unfold enroll
  split
  · exact .refl
  · refine (sendings_vacate ⟨id, .ofAddress a⟩ e).trans ?_
    unfold place
    split
    · next incumbent table _ =>
      have htable : Sendings Request.First (e.vacate ⟨id, .ofAddress a⟩)
        { e.vacate ⟨id, .ofAddress a⟩ with table } := sendings_silent rfl rfl rfl rfl
      exact htable.trans (sendings_challenge now incumbent _ _)
    all_goals exact sendings_silent rfl rfl rfl rfl

theorem sendings_onPing (now : Timestamp) (source : SocketAddress) (m : Message) (e : Explorer) :
    Sendings Request.First e (e.onPing now source m) := by
  have hpong : Sendings Request.First e (e.sendPong m.id source) := .single (.pong e m.id source)
  unfold onPing
  dsimp only
  split
  · exact hpong.trans (sendings_refreshPeer m.sender now _)
  · exact hpong.trans (sendings_sendPing (P := Request.First) rfl)

theorem sendings_onFindNode (now : Timestamp) (m : Message) (target : NodeId) (e : Explorer) :
    Sendings P e (e.onFindNode now m target) := by
  unfold onFindNode
  split
  · exact .refl
  · split
    · exact sendings_addresses _ e
    · next a cache _ =>
      dsimp only
      have hpicked : Sendings P e { e with
          addresses := cache
          random := (Sampling.limited (e.table.closest target) e.config.maxNodesPerMessage
            neighborsRandomCount e.random).2 } := sendings_silent rfl rfl rfl rfl
      exact (hpicked.tail (.neighbors _ m.id _ a)).tail (.silent rfl rfl rfl rfl)

theorem sendings_onNeighbors (bans : Bans) (now : Timestamp) (source : SocketAddress)
    (m : Message) (nodes : List Node) (e : Explorer) :
    ∃ q, Sendings Request.First (e.drop (fun _ _ => true) q)
      (e.onNeighbors bans now source m nodes) := by
  unfold onNeighbors
  dsimp only
  split
  · next requests htake =>
    obtain ⟨-, rfl⟩ := takeFind_eq_none.1 htake
    refine ⟨fun _ _ => true, ?_⟩
    rw [drop_nothing]
    exact sendings_refreshPeer m.sender now e
  · next r requests htake =>
    obtain ⟨-, -, rfl⟩ := takeFind_eq_some.1 htake
    refine ⟨fun k _ => decide (k ≠ m.id), ?_⟩
    rw [drop_find]
    exact ((sendings_learnAll bans _ _).trans (sendings_contactQueued now _)).trans
      (sendings_refreshPeer m.sender now _)

/-- Hearing a message drops the request that it settles, if any, and then sends. -/
theorem sendings_receive (bans : Bans) (now : Timestamp) (d : Datagram)
    (hrun : e.phase = .running) :
    ∃ p q, Sendings Request.First (e.drop p q) (e.receive bans now d) ∧
      ∀ m r, p m r = false → m = d.message.id ∧ ∃ r', e.Settles d r' := by
  have hkeep : Sendings Request.First e (e.receive bans now d) →
      ∃ p q, Sendings Request.First (e.drop p q) (e.receive bans now d) ∧
        ∀ m r, p m r = false → m = d.message.id ∧ ∃ r', e.Settles d r' := by
    intro h
    refine ⟨fun _ _ => true, fun _ _ => true, ?_, fun _ _ => nofun⟩
    rwa [drop_nothing]
  cases hnative : e.isForeign d.message with
  | true =>
    refine hkeep ?_
    rw [receive, if_pos hnative]
  | false =>
    cases hbody : d.message.body with
    | ping sender =>
      refine hkeep ?_
      simp only [receive, hnative, hbody, Bool.false_eq_true, if_false]
      exact sendings_onPing now d.address d.message e
    | pong =>
      simp only [receive, hnative, hbody, Bool.false_eq_true, if_false] at hkeep ⊢
      have hsettled : (∃ r', e.Settles d r') →
          Sendings Request.First (e.withoutPing d.message.id) (e.onPong now d.address d.message) →
          ∃ p q, Sendings Request.First (e.drop p q) (e.onPong now d.address d.message) ∧
            ∀ m r, p m r = false → m = d.message.id ∧ ∃ r', e.Settles d r' := by
        intro hsettles h
        refine ⟨fun m _ => decide (m ≠ d.message.id), fun _ _ => true, ?_, fun m _ hm => ?_⟩
        · rwa [drop_ping]
        · exact ⟨by simpa using hm, hsettles⟩
      rcases onPong_cases now hrun hnative hbody with ⟨-, h⟩ | ⟨c, hdefends, h⟩ | ⟨hadmits, h⟩
      · refine hkeep ?_
        rw [h]
      · refine hsettled hdefends.1 ?_
        rw [h]
        exact sendings_silent rfl rfl rfl rfl
      · refine hsettled hadmits.1 ?_
        rw [h]
        exact sendings_enroll now _ _ _
    | findNode target =>
      refine hkeep ?_
      simp only [receive, hnative, hbody, Bool.false_eq_true, if_false]
      exact sendings_onFindNode now d.message target e
    | neighbors nodes =>
      simp only [receive, hnative, hbody, Bool.false_eq_true, if_false]
      obtain ⟨q, h⟩ := sendings_onNeighbors bans now d.address d.message nodes e
      exact ⟨_, q, h, fun _ _ => nofun⟩

/-! ### Rounds -/

theorem sendings_askAll (now : Timestamp) (nodes : List Node) (e : Explorer) :
    Sendings Request.First e (e.askAll now nodes) := by
  refine reflTransGen_foldl (fun e node => ?_) nodes e
  unfold ask
  split
  · next a cache _ =>
    exact (sendings_addresses cache e).tail (.find (P := Request.First) _ now a node rfl)
  · exact sendings_addresses _ e

theorem sendings_checkAll (now : Timestamp) (nodes : List Node) (e : Explorer) :
    Sendings Request.First e (e.checkAll now nodes) := by
  refine reflTransGen_foldl (fun e node => ?_) nodes e
  unfold check
  split
  · next a cache _ =>
    exact (sendings_addresses cache e).trans (sendings_sendPing (P := Request.First) rfl)
  · exact sendings_addresses _ e

theorem sendings_explore (now : Timestamp) (e : Explorer) :
    Sendings Request.First e (e.explore now) := by
  unfold explore
  dsimp only
  refine Relation.ReflTransGen.trans ?_ (sendings_checkAll now _ _)
  refine Relation.ReflTransGen.trans ?_ (sendings_random _ _)
  refine Relation.ReflTransGen.trans ?_ (sendings_askAll now _ _)
  exact sendings_random _ e

/-- When a PING has expired, one may be sent in its place, or one to a challenger. -/
theorem sendings_expirePing (now : Timestamp) (r : Request) (e : Explorer) :
    Sendings (fun s => s.Renews e.config.maxPingAttempts [r] ∧ s.message.kind = .ping) e
      (e.expirePing now r) := by
  have hsettled : Sendings (fun s => s.Renews e.config.maxPingAttempts [r] ∧ s.message.kind = .ping)
      e { e with challenges := e.challenges.erase r.id } := sendings_silent rfl rfl rfl rfl
  unfold expirePing
  dsimp only
  split
  · next hattempt =>
    refine hsettled.trans ?_
    unfold retry
    split
    · exact sendings_pursue ⟨.inr ⟨r, List.mem_cons_self, hattempt, rfl, rfl⟩, rfl⟩
    · exact sendings_sendPing ⟨.inr ⟨r, List.mem_cons_self, hattempt, rfl, rfl⟩, rfl⟩
  · refine hsettled.trans (Relation.ReflTransGen.trans (b := giveUp r
      { e with challenges := e.challenges.erase r.id }) ?_ ?_)
    · unfold giveUp
      split
      · exact sendings_silent rfl rfl rfl rfl
      · exact .refl
    · unfold recheckChallenger
      split
      · exact .refl
      · split
        · next a cache _ =>
          refine (sendings_addresses cache _).trans (sendings_sendPing ?_)
          exact ⟨.inl rfl, rfl⟩
        · exact sendings_addresses _ _

theorem config_of_sendings (h : Sendings P e e') : e'.config = e.config := by
  induction h with
  | refl => rfl
  | tail _ hlast ih =>
    rw [← ih]
    cases hlast with
    | silent hconfig _ _ _ => exact hconfig
    | ping now a attempt related hfree => rw [sendPing_of_free hfree]
    | _ => rfl

theorem sendings_expirePings (now : Timestamp) (x : List Request) (e : Explorer) :
    Sendings (fun s => s.Renews e.config.maxPingAttempts x ∧ s.message.kind = .ping) e
      (e.expirePings now x) := by
  have hmono : ∀ {x x' : List Request} {most : UInt32}, (∀ r ∈ x, r ∈ x') →
      ∀ s, Request.Renews most x s ∧ s.message.kind = .ping →
        Request.Renews most x' s ∧ s.message.kind = .ping :=
    fun hsub _ h => ⟨h.1.imp_right fun ⟨q, hq, hrest⟩ => ⟨q, hsub q hq, hrest⟩, h.2⟩
  induction x generalizing e with
  | nil => exact .refl
  | cons r x ih =>
    have hone := sendings_expirePing now r e
    have hrest := ih (e.expirePing now r)
    rw [config_of_sendings hone] at hrest
    exact (sendings_mono (hmono (by simp)) hone).trans
      (sendings_mono (hmono fun r' hr' => List.mem_cons_of_mem r hr') hrest)

/-! ### FIND_NODEs among PINGs -/

/-- Other FIND_NODEs are waited for. -/
def withFinds (finds : PendingRequests) (e : Explorer) : Explorer :=
  { e with requests := { e.requests with finds } }

/-- Where only PINGs are sent, it does not matter which FIND_NODEs are waited for. -/
theorem Sending.withFinds (h : Sending (fun r => P r ∧ r.message.kind = .ping) e e')
    (finds : PendingRequests) :
    e'.requests.finds = e.requests.finds ∧ Sending P (e.withFinds finds) (e'.withFinds finds) := by
  cases h with
  | silent hconfig hphase hrequests houtbox =>
    refine ⟨by rw [hrequests], .silent hconfig hphase ?_ houtbox⟩
    rw [Explorer.withFinds, hrequests]
    rfl
  | pong id a => exact ⟨rfl, .pong _ id a⟩
  | neighbors id nodes a => exact ⟨rfl, .neighbors _ id nodes a⟩
  | ping now a attempt related hfree hP =>
    have hfree' : (e.withFinds finds).requests.pingTo? a = none := hfree
    have hsent : (e.sendPing now a attempt related).2.withFinds finds
        = ((e.withFinds finds).sendPing now a attempt related).2 := by
      rw [sendPing_of_free hfree, sendPing_of_free hfree']
      rfl
    rw [hsent]
    refine ⟨?_, .ping _ now a attempt related hfree' hP.1⟩
    rw [sendPing_of_free hfree]
    rfl
  | find now a node hP => exact absurd hP.2 (by simp [nextFind, request, compose, Message.kind])
  | bind id node => exact ⟨rfl, .bind _ id node⟩

theorem sendings_withFinds (h : Sendings (fun r => P r ∧ r.message.kind = .ping) e e')
    (finds : PendingRequests) :
    e'.requests.finds = e.requests.finds ∧
      Sendings P (e.withFinds finds) (e'.withFinds finds) := by
  induction h with
  | refl => exact ⟨rfl, .refl⟩
  | tail _ hlast ih =>
    obtain ⟨hfinds, hlast⟩ := hlast.withFinds finds
    exact ⟨hfinds.trans ih.1, ih.2.tail hlast⟩

/-- A round of expiring drops the requests that have expired and then sends PINGs.  It is as if it
dropped the FIND_NODEs first, and not at its end. -/
theorem sendings_purge (now : Timestamp) (ties : List MessageId) (e : Explorer) :
    Sendings (Request.Renews e.config.maxPingAttempts (e.requests.drainPings now ties).1)
      (e.drop (fun _ r => !r.hasExpired now) (fun _ r => !r.hasExpired now)) (e.purge now ties) := by
  obtain ⟨hfinds, hsendings⟩ := sendings_withFinds
    (sendings_expirePings now (e.requests.drainPings now ties).1
      { e with requests := (e.requests.drainPings now ties).2 })
    (e.requests.finds.filter fun _ r => !r.hasExpired now)
  have hpurge : e.purge now ties =
      (expirePings now (e.requests.drainPings now ties).1
        { e with requests := (e.requests.drainPings now ties).2 }).withFinds
        (e.requests.finds.filter fun _ r => !r.hasExpired now) := by
    unfold purge RequestTracker.drainFinds PendingRequests.drain
    dsimp only
    rw [hfinds]
    rfl
  rw [hpurge]
  exact hsendings

/-! ### Calls -/

/-- Every call but a round of expiring drops the PING that it settles and perhaps other requests,
changes the phase or leaves it, and then sends first attempts; in the end the queued messages are
handed over. -/
theorem perform_first (bans : Bans) (now : Timestamp) {call : Call}
    (hcall : ∀ ties, call ≠ .clean ties) (e : Explorer) :
    ∃ phase p q e' accepted, Sendings Request.First (drop p q { e with phase }) e' ∧
      e.perform bans now call = e'.finish accepted ∧
      ∀ m r, p m r = false →
        ∃ d, call = .receive d ∧ m = d.message.id ∧ ∃ r', e.Settles d r' := by
  have hkeep : ∀ phase accepted e', Sendings Request.First { e with phase } e' →
      ∃ phase p q e'' accepted', Sendings Request.First (drop p q { e with phase }) e'' ∧
        e'.finish accepted = e''.finish accepted' ∧
        ∀ m r, p m r = false →
          ∃ d, call = .receive d ∧ m = d.message.id ∧ ∃ r', e.Settles d r' := by
    intro phase accepted e' h
    refine ⟨phase, fun _ _ => true, fun _ _ => true, e', accepted, ?_, rfl, fun _ _ => nofun⟩
    rwa [drop_nothing]
  cases call with
  | start contact =>
    show ∃ phase p q e' accepted, _ ∧ e.start contact now = _ ∧ _
    unfold start
    split
    · cases contact with
      | false => exact hkeep .running true _ .refl
      | true => exact hkeep .running true _ (sendings_contactQueued now _)
    · exact hkeep e.phase false e .refl
  | dispose =>
    show ∃ phase p q e' accepted, _ ∧ e.dispose = _ ∧ _
    unfold dispose
    split
    · exact hkeep e.phase false e .refl
    · exact hkeep .finished true _ .refl
  | receive d =>
    show ∃ phase p q e' accepted, _ ∧ e.whenRunning _ = _ ∧ _
    unfold whenRunning
    split
    · next hrun =>
      obtain ⟨p, q, h, hdropped⟩ := sendings_receive bans now d hrun
      exact ⟨e.phase, p, q, _, true, h, rfl, fun m r hm => ⟨d, rfl, hdropped m r hm⟩⟩
    · exact hkeep e.phase false e .refl
  | clean ties => exact absurd rfl (hcall ties)
  | update =>
    show ∃ phase p q e' accepted, _ ∧ e.whenRunning _ = _ ∧ _
    unfold whenRunning
    split
    · exact hkeep e.phase true _ (sendings_explore now e)
    · exact hkeep e.phase false e .refl

/-- Every call drops requests, perhaps after a change of phase, and then sends; in the end the
queued messages are handed over.  What is sent is a first attempt or renews a PING that has
expired. -/
theorem perform_sendings (bans : Bans) (now : Timestamp) (call : Call) (e : Explorer) :
    ∃ ties phase p q e' accepted,
      Sendings (Request.Renews e.config.maxPingAttempts (e.requests.drainPings now ties).1)
        (drop p q { e with phase }) e' ∧
      e.perform bans now call = e'.finish accepted := by
  by_cases hcall : ∃ ties, call = .clean ties
  · obtain ⟨ties, rfl⟩ := hcall
    refine ⟨ties, e.phase, ?_⟩
    show ∃ p q e' accepted, _ ∧ e.whenRunning _ = _
    unfold whenRunning
    split
    · exact ⟨_, _, _, true, sendings_purge now ties e, rfl⟩
    · refine ⟨fun _ _ => true, fun _ _ => true, e, false, ?_, rfl⟩
      rw [drop_nothing]
  · obtain ⟨phase, p, q, e', accepted, hsendings, hperform, -⟩ :=
      perform_first bans now (not_exists.1 hcall) e
    exact ⟨[], phase, p, q, e', accepted, sendings_mono (fun _ => .inl) hsendings, hperform⟩

end Explorer
end NodeDiscovery
