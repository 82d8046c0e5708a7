import NodeDiscovery.Proofs.Admission
import NodeDiscovery.Proofs.Exchange

/-!
# Two explorers that never come to rest

An explorer turns a peer away for good if the bucket of the peer is full and the incumbent is
challenged already: the PING of the challenge was lost, and nothing expires as long as only
messages arrive.  Two explorers that turn each other away keep each other busy.  Each PING is
answered by a PONG and by another PING, the PONG uses the PING up without any other effect, and so
the answer to the next PING is a PING again.

## Main definitions

* `Exchange.Fresh` — a delivery draws only identifiers that are not in use.
* `Explorer.TurnsAway` — a peer is turned away for good.
* `Exchange.PingComes`, `Exchange.PongComes` — one PING is under way between two explorers that
  turn each other away, alone or behind a PONG.
* `Sample.standoff` — two explorers that turn each other away.

## Main results

* `Exchange.PingComes.deliver`, `Exchange.PongComes.deliver` — a PING brings about another one.
* `standoff_lasts` — the two explorers never come to rest.
-/

namespace NodeDiscovery

/-! ### A peer that is turned away -/

namespace Explorer

/-- A peer is turned away for good: it is a stranger, its bucket is full, and the incumbent is
challenged already. -/
structure TurnsAway (e : Explorer) (id : NodeId) : Prop where
  /-- Several peers may share an endpoint, so that nobody is given up for the peer. -/
  shared : e.config.allowMultiple = true
  /-- The peer is not established. -/
  stranger : e.established.contains id = false
  /-- It is not in its bucket. -/
  absent : (e.table.bucketFor id).contains id = false
  /-- Its bucket has no room. -/
  full : (e.table.bucketFor id).isFull e.table.bucketSize = true
  /-- The incumbent is challenged already. -/
  challenged : (e.table.bucketFor id).oldest?.all fun i => e.challenges.isChallenged i.id

variable {e : Explorer} {id : NodeId}

/-- The answer of a peer that is turned away changes nothing. -/
theorem TurnsAway.enroll_eq (h : e.TurnsAway id) (now : Timestamp) (a : SocketAddress) :
    e.enroll now id a = e := by
  have hvacate : e.vacate ⟨id, .ofAddress a⟩ = e := by
    rw [vacate, if_pos h.shared]
  unfold enroll
  split
  · rfl
  · rw [hvacate, place]
    rcases DistanceTable.add_cases e.table ⟨id, .ofAddress a⟩ now with
      ⟨-, hadd⟩ | ⟨-, hin, -⟩ | ⟨-, -, -, ⟨i, hi, hadd⟩ | hadd⟩ | ⟨-, -, hroom, -⟩
    · rw [hadd]
    · exact absurd (h.absent.symm.trans hin) Bool.false_ne_true
    · have hchallenged : e.challenges.isChallenged i.id = true := by
        have hall := h.challenged
        rw [show (e.table.bucketFor id).oldest? = some i from hi] at hall
        exact hall
      rw [hadd]
      show e.challenge now i _ = e
      rw [challenge, Challenges.start?, if_pos hchallenged]
    · rw [hadd]
    · exact absurd (hroom.symm.trans h.full) Bool.false_ne_true

/-- An explorer that has sent a PING, once all messages are handed over. -/
def pinging (now : Timestamp) (a : SocketAddress) (e : Explorer) : Explorer :=
  { e with
    random := (MessageId.draw e.random).2
    requests := e.requests.trackPing (e.nextPing now a 1 none)
    outbox := [] }

/-- A PING of a peer that is turned away is answered by a PONG and a PING, if none is under way. -/
theorem TurnsAway.receive_ping (h : e.TurnsAway id) {m : Message} {a : SocketAddress}
    (hnative : e.isForeign m = false) (hkind : m.kind = .ping) (hsender : m.sender = id)
    (hfree : e.requests.pingTo? a = none) (bans : Bans) (now : Timestamp) :
    e.receive bans now ⟨m, a⟩ =
      { e.pinging now a with
        outbox := e.outbox ++ [⟨e.compose m.id .pong, a⟩] ++
          [⟨(e.nextPing now a 1 none).message, a⟩] } := by
  have hfree' : (e.sendPong m.id a).requests.pingTo? a = none := hfree
  rw [Explorer.receive_ping (d := ⟨m, a⟩) hnative hkind]
  show e.onPing now a m = _
  unfold onPing
  dsimp only
  rw [show (e.sendPong m.id a).established = e.established from rfl, hsender, h.stranger,
    if_neg Bool.false_ne_true, sendPing_of_free hfree']
  rfl

/-- A PING of ours that waits for the answer of whoever is at an address. -/
structure Awaits (e : Explorer) (a : SocketAddress) (m : MessageId) : Prop where
  /-- The PING is under way to the address and bound to nobody. -/
  pending : ∃ r, e.requests.pings.get? m = some r ∧ r.id = m ∧ r.address = a ∧
    r.expects = .pong ∧ r.related = none
  /-- No challenge depends on it. -/
  unchallenged : e.challenges.get? m = none

/-- The PONG of a peer that is turned away uses the PING up and does nothing else. -/
theorem TurnsAway.receive_pong (h : e.TurnsAway id) {m : Message} {a : SocketAddress}
    (hrun : e.phase = .running) (hnative : e.isForeign m = false) (hkind : m.kind = .pong)
    (hsender : m.sender = id) (hawaits : e.Awaits a m.id) (bans : Bans) (now : Timestamp) :
    e.receive bans now ⟨m, a⟩ = e.withoutPing m.id := by
  obtain ⟨r, hr, hid, haddress, hexpects, hrelated⟩ := hawaits.pending
  have haccepts : r.accepts a m = true := by
    simp [Request.accepts, Request.mayAnswer, hid, hkind, hexpects, haddress, hrelated]
  have hsettles : e.Settles ⟨m, a⟩ r := ⟨hrun, hnative, body_of_pong hkind, hr, haccepts⟩
  have hturned : (e.withoutPing m.id).TurnsAway id :=
    ⟨h.shared, h.stranger, h.absent, h.full, h.challenged⟩
  rw [hsettles.receive_eq]
  rcases onPong_cases now hrun hnative (body_of_pong hkind) (d := ⟨m, a⟩) with
    ⟨hno, -⟩ | ⟨c, hc, -⟩ | ⟨-, he⟩
  -- The PONG does settle the PING, and no challenge depends on it, so its sender is to be admitted.
  · exact absurd hsettles (hno r)
  · have hsome := hc.2
    rw [hawaits.unchallenged] at hsome
    cases hsome
  · rw [he]
    show (e.withoutPing m.id).enroll now m.sender a = _
    rw [hsender, hturned.enroll_eq]

end Explorer

/-! ### Identifiers that name their owner -/

namespace Sample

/-- An identifier names its owner. -/
def Owned (owner : UInt32) (m : MessageId) : Prop :=
  m.bytes[14]? = some owner.toUInt8

/-- An identifier is one of the first that were drawn. -/
def Marked (m : MessageId) : Prop :=
  m.bytes[15]? = some 1

instance (owner : UInt32) (m : MessageId) : Decidable (Owned owner m) :=
  inferInstanceAs (Decidable (_ = _))

instance (m : MessageId) : Decidable (Marked m) :=
  inferInstanceAs (Decidable (_ = _))

/-- The bytes of an identifier that carry no stamp are those of the words it is drawn from. -/
theorem getElem?_draw {i : Nat} (hi : i < 16) (hversion : i ≠ 6) (hvariant : i ≠ 8)
    (r : RandomSource) : (MessageId.draw r).1.bytes[i]? = some (r.words (r.drawn + i)).toUInt8 := by
  have hstamp : ∀ bytes : List UInt8, (MessageId.stamp bytes)[i]? = bytes[i]? := by
    intro bytes
    simp [MessageId.stamp, hversion.symm, hvariant.symm]
  show (MessageId.stamp ((r.take 16).1.map UInt32.toUInt8))[i]? = _
  rw [hstamp]
  simp [RandomSource.take, List.getElem?_range hi]

theorem owned_draw (owner : UInt32) (n : Nat) :
    Owned owner (MessageId.draw ((source owner).skip (16 * n))).1 := by
  have hword : (source owner).words (0 + 16 * n + 14) = owner := by
    show (if (0 + 16 * n + 14) % 16 = 14 then owner else _) = owner
    rw [if_pos (by omega)]
  unfold Owned
  rw [getElem?_draw (by decide) (by decide) (by decide)]
  exact congrArg (fun w : UInt32 => some w.toUInt8) hword

theorem not_marked_draw (owner : UInt32) {n : Nat} (hn : 4 ≤ n) :
    ¬ Marked (MessageId.draw ((source owner).skip (16 * n))).1 := by
  have hword : (source owner).words (0 + 16 * n + 15) = 0 := by
    show (if (0 + 16 * n + 15) % 16 = 14 then owner
      else if (0 + 16 * n + 15) % 16 = 15 then if 0 + 16 * n + 15 < 64 then 1 else 0 else _) = 0
    rw [if_neg (by omega), if_pos (by omega), if_neg (by omega)]
  unfold Marked
  rw [getElem?_draw (by decide) (by decide) (by decide)]
  show some ((source owner).words (0 + 16 * n + 15)).toUInt8 ≠ some 1
  rw [hword]
  decide

/-- An explorer turns a peer away for good.  Its random words name it as their owner, the first
identifiers are drawn already, and whatever it waits for from elsewhere was among them. -/
structure Stands (owner : UInt32) (e : Explorer) (id : NodeId) (a : SocketAddress) : Prop where
  /-- The peer is turned away. -/
  turnsAway : e.TurnsAway id
  /-- The first identifiers are drawn already. -/
  source : ∃ n, 4 ≤ n ∧ e.random = (source owner).skip (16 * n)
  /-- The challenges wait for some of them. -/
  challenges : ∀ m ∈ e.challenges.keys, Owned owner m ∧ Marked m
  /-- So does every PING but one to the address. -/
  pings : ∀ p ∈ e.requests.pings.entries, Owned owner p.1 ∧ (Marked p.1 ∨ p.2.address = a)
  /-- No FIND_NODE is under way. -/
  finds : e.requests.finds.keys = []

variable {owner : UInt32} {e : Explorer} {id : NodeId} {a : SocketAddress}

theorem Stands.owned (h : Stands owner e id a) : Owned owner (MessageId.draw e.random).1 := by
  obtain ⟨n, -, hn⟩ := h.source
  rw [hn]
  exact owned_draw owner n

theorem Stands.not_marked (h : Stands owner e id a) : ¬ Marked (MessageId.draw e.random).1 := by
  obtain ⟨n, hfour, hn⟩ := h.source
  rw [hn]
  exact not_marked_draw owner hfour

/-- No challenge waits for the next identifier. -/
theorem Stands.unchallenged (h : Stands owner e id a) :
    e.challenges.get? (MessageId.draw e.random).1 = none := by
  rw [← Dict.contains_eq_false, ← Bool.not_eq_true, ← Dict.mem_keys]
  exact fun hin => h.not_marked (h.challenges _ hin).2

/-- No PING is under way under the next identifier if none is under way to the address. -/
theorem Stands.unused (h : Stands owner e id a) (hfree : e.requests.pingTo? a = none) :
    e.requests.pings.get? (MessageId.draw e.random).1 = none := by
  cases hget : e.requests.pings.get? (MessageId.draw e.random).1 with
  | none => rfl
  | some r =>
    rcases (h.pings _ (Dict.mem_entries.2 hget)).2 with hmarked | haddress
    · exact absurd hmarked h.not_marked
    · exact absurd haddress (RequestTracker.pingTo?_eq_none.1 hfree _ r hget)

theorem Stands.pinging (h : Stands owner e id a) (now : Timestamp) :
    Stands owner (e.pinging now a) id a where
  turnsAway := ⟨h.turnsAway.shared, h.turnsAway.stranger, h.turnsAway.absent, h.turnsAway.full,
    h.turnsAway.challenged⟩
  source := by
    obtain ⟨n, hfour, hn⟩ := h.source
    refine ⟨n + 1, by omega, ?_⟩
    show (MessageId.draw e.random).2 = _
    rw [hn]
    simp [MessageId.draw, RandomSource.take, RandomSource.skip]
    omega
  challenges := h.challenges
  pings := by
    rintro ⟨m, r⟩ hr
    have hr : (e.requests.pings.insert _ _).get? m = some r := Dict.mem_entries.1 hr
    rw [Dict.get?_insert] at hr
    split at hr
    · next hm =>
      cases hr
      exact ⟨hm ▸ h.owned, .inr rfl⟩
    · exact h.pings _ (Dict.mem_entries.2 hr)
  finds := h.finds

theorem Stands.awaits (h : Stands owner e id a) (now : Timestamp) :
    (e.pinging now a).Awaits a (MessageId.draw e.random).1 where
  pending := by
    refine ⟨e.nextPing now a 1 none, ?_, rfl, rfl, rfl, rfl⟩
    show (e.requests.pings.insert _ _).get? _ = _
    rw [Dict.get?_insert]
    exact if_pos rfl
  unchallenged := h.unchallenged

theorem Stands.withoutPing (h : Stands owner e id a) (m : MessageId) :
    Stands owner (e.withoutPing m) id a where
  turnsAway := ⟨h.turnsAway.shared, h.turnsAway.stranger, h.turnsAway.absent, h.turnsAway.full,
    h.turnsAway.challenged⟩
  source := h.source
  challenges := h.challenges
  pings := fun p hp => h.pings p (List.mem_of_mem_filter hp)
  finds := h.finds

/-- Once the PING is used up none is under way to the address. -/
theorem free_of_awaits (horderly : e.requests.Orderly) {m : MessageId} (h : e.Awaits a m) :
    (e.withoutPing m).requests.pingTo? a = none := by
  obtain ⟨r, hr, -, haddress, -⟩ := h.pending
  rw [RequestTracker.pingTo?_eq_none]
  intro m' r' hr' haddress'
  obtain ⟨hm, hr'⟩ := Dict.get?_erase_eq_some.1 hr'
  exact hm (horderly.alone m' m r' r hr' hr (haddress'.trans haddress.symm))

/-- The owners of the random words on the two sides. -/
def ownerOf : Side → UInt32
  | .left => 0
  | .right => 1

theorem not_owned_other {s : Side} {m : MessageId} (h : Owned (ownerOf s) m) :
    ¬ Owned (ownerOf s.other) m := by
  intro hother
  have hsame : some (ownerOf s).toUInt8 = some (ownerOf s.other).toUInt8 := h.symm.trans hother
  cases s <;> exact absurd hsame (by decide)

end Sample

/-! ### One PING after the other -/

namespace Exchange

open Sample

/-- An identifier is that of a request or a challenge of either side or of a message under way. -/
def InUse (x : Exchange) (m : MessageId) : Prop :=
  ∃ s, m ∈ (x.explorer s).requests.pings.keys ∨ m ∈ (x.explorer s).requests.finds.keys ∨
    m ∈ (x.explorer s).challenges.keys ∨ m ∈ (x.inbox s).map Message.id

/-- A delivery draws only identifiers that are not in use. -/
def Fresh (x : Exchange) (d : Delivery) : Prop :=
  ∀ sent ∈ (x.turn d).sent, sent.message.isRequest = true → ¬ x.InUse sent.message.id

/-- The arrival of the first message under way. -/
def next (x : Exchange) : Delivery :=
  match x.inbox .left, x.inbox .right with
  | m :: _, _ => ⟨.left, .none, .ofMillis 0, m⟩
  | [], m :: _ => ⟨.right, .none, .ofMillis 0, m⟩
  | [], [] => ⟨.left, .none, .ofMillis 0, default⟩

/-- The exchange after a number of messages have arrived, always the first one under way. -/
def rally (x : Exchange) : Nat → Exchange
  | 0 => x
  | n + 1 => (rally x n).deliver (rally x n).next

theorem after_rally (x : Exchange) (n : Nat) :
    x.after (fun n => (x.rally n).next) n = x.rally n := by
  induction n with
  | zero => rfl
  | succ n ih => rw [after, ih, rally]

theorem next_eq {x : Exchange} {s : Side} {m : Message} {rest : List Message}
    (hin : x.inbox s = m :: rest) (hout : x.inbox s.other = []) :
    x.next = ⟨s, .none, .ofMillis 0, m⟩ := by
  cases s with
  | left => rw [next, hin]
  | right =>
    have hleft : x.inbox .left = [] := hout
    rw [next, hleft, hin]

/-- Both sides turn each other away for good. -/
def Stand (x : Exchange) : Prop :=
  ∀ s, Stands (ownerOf s) (x.explorer s) (x.explorer s.other).localId (x.address s.other)

/-- Two explorers turn each other away, and one PING is under way between them. -/
structure PingComes (x : Exchange) (s : Side) (m : Message) : Prop where
  /-- They turn each other away. -/
  stand : x.Stand
  /-- The message is a PING. -/
  kind : m.kind = .ping
  /-- It belongs to the network. -/
  native : (x.explorer s).isForeign m = false
  /-- No PING is under way in the opposite direction. -/
  free : (x.explorer s).requests.pingTo? (x.address s.other) = none
  /-- Its sender waits for the answer. -/
  awaits : (x.explorer s.other).Awaits (x.address s) m.id
  /-- Nothing else is under way. -/
  inbox : x.inbox s = [m]
  /-- Nothing is under way in the opposite direction. -/
  outbox : x.inbox s.other = []

/-- Two explorers turn each other away, and a PONG is under way between them with a PING behind
it. -/
structure PongComes (x : Exchange) (s : Side) (m m' : Message) : Prop where
  /-- They turn each other away. -/
  stand : x.Stand
  /-- The first message is a PONG. -/
  kind : m.kind = .pong
  /-- The second message is a PING. -/
  kind' : m'.kind = .ping
  /-- The first message belongs to the network. -/
  native : (x.explorer s).isForeign m = false
  /-- So does the second one. -/
  native' : (x.explorer s).isForeign m' = false
  /-- The PONG is waited for. -/
  awaits : (x.explorer s).Awaits (x.address s.other) m.id
  /-- The sender of the PING waits for the answer. -/
  awaits' : (x.explorer s.other).Awaits (x.address s) m'.id
  /-- Nothing else is under way. -/
  inbox : x.inbox s = [m, m']
  /-- Nothing is under way in the opposite direction. -/
  outbox : x.inbox s.other = []

theorem Stand.deliver {x : Exchange} (h : x.Stand) {s : Side} {d : Delivery} (hside : d.side = s)
    (hself : Stands (ownerOf s) ((x.deliver d).explorer s) (x.explorer s.other).localId
      (x.address s.other)) : (x.deliver d).Stand := by
  subst hside
  intro t
  rw [localId_deliver]
  by_cases ht : t = d.side
  · rw [ht]
    exact hself
  · rw [Side.eq_other_of_ne ht, explorer_deliver_other]
    exact h d.side.other

/-- What the first message under way does, in terms of what the explorer makes of it. -/
theorem deliver_next {x : Exchange} {s : Side} {m : Message} {rest : List Message}
    (hin : x.inbox s = m :: rest) (hout : x.inbox s.other = []) {e : Explorer}
    (hreceive : (x.explorer s).receive .none (.ofMillis 0) ⟨m, x.address s.other⟩ = e) :
    x.next.side = s ∧ (x.deliver x.next).explorer s = { e with outbox := [] } ∧
    (x.deliver x.next).explorer s.other = x.explorer s.other ∧
    (x.deliver x.next).inbox s = rest ∧
    (x.deliver x.next).inbox s.other = messagesTo (x.address s.other) e.outbox ∧
    (x.turn x.next).sent = e.outbox := by
  have hturn : x.turn ⟨s, .none, .ofMillis 0, m⟩ = e.finish true := by
    rw [turn, Explorer.perform_receive (x.running s), ← hreceive]
    rfl
  rw [next_eq hin hout]
  refine ⟨rfl, ?_, explorer_deliver_other, ?_, ?_, ?_⟩
  · show x.explorerAfter ⟨s, .none, .ofMillis 0, m⟩ s = _
    rw [explorerAfter, if_pos rfl, hturn, Explorer.explorer_finish]
  · show x.inboxAfter ⟨s, .none, .ofMillis 0, m⟩ s = _
    rw [inboxAfter, if_pos rfl, hin, List.erase_cons_head]
  · show x.inboxAfter ⟨s, .none, .ofMillis 0, m⟩ s.other = _
    rw [inboxAfter, if_neg (Side.other_ne s), hout, List.nil_append, hturn, Explorer.sent_finish]
  · rw [hturn, Explorer.sent_finish]

/-- A message under way arrives next. -/
theorem possible_next {x : Exchange} {s : Side} {m : Message} {rest : List Message}
    (hin : x.inbox s = m :: rest) (hout : x.inbox s.other = []) : x.Possible x.next := by
  rw [next_eq hin hout, Possible, hin]
  exact List.mem_cons_self

theorem PingComes.receive_eq {x : Exchange} {s : Side} {m : Message} (h : x.PingComes s m) :
    (x.explorer s).receive .none (.ofMillis 0) ⟨m, x.address s.other⟩ =
      { (x.explorer s).pinging (.ofMillis 0) (x.address s.other) with
        outbox := [⟨(x.explorer s).compose m.id .pong, x.address s.other⟩,
          ⟨((x.explorer s).nextPing (.ofMillis 0) (x.address s.other) 1 none).message,
            x.address s.other⟩] } := by
  have hsender : m.sender = (x.explorer s.other).localId :=
    x.sender s m (by rw [h.inbox]; exact List.mem_singleton.2 rfl)
  rw [(h.stand s).turnsAway.receive_ping h.native h.kind hsender h.free, (x.reachable s).outbox_eq]
  rfl

/-- A PING brings about a PONG and a PING. -/
theorem PingComes.deliver {x : Exchange} {s : Side} {m : Message} (h : x.PingComes s m) :
    (x.deliver x.next).PongComes s.other ((x.explorer s).compose m.id .pong)
      ((x.explorer s).nextPing (.ofMillis 0) (x.address s.other) 1 none).message := by
  obtain ⟨hside, hself, hother, hin, hout, -⟩ := deliver_next h.inbox h.outbox h.receive_eq
  -- What it has queued is on its way, and the roles of the two sides are exchanged.
  have hself : (x.deliver x.next).explorer s
      = (x.explorer s).pinging (.ofMillis 0) (x.address s.other) := hself
  refine ⟨h.stand.deliver hside ?_, rfl, rfl, ?_, ?_, ?_, ?_, ?_, ?_⟩
  · rw [hself]
    exact (h.stand s).pinging (.ofMillis 0)
  · rw [hother]
    exact x.native_compose s m.id .pong
  · rw [hother]
    exact x.native_compose s _ _
  · rw [hother, Side.other_other]
    exact h.awaits
  · rw [Side.other_other, hself]
    exact (h.stand s).awaits (.ofMillis 0)
  · rw [hout]
    simp [messagesTo]
  · rw [Side.other_other, hin]

theorem PongComes.receive_eq {x : Exchange} {s : Side} {m m' : Message}
    (h : x.PongComes s m m') :
    (x.explorer s).receive .none (.ofMillis 0) ⟨m, x.address s.other⟩
      = (x.explorer s).withoutPing m.id := by
  have hsender : m.sender = (x.explorer s.other).localId :=
    x.sender s m (by rw [h.inbox]; exact List.mem_cons_self)
  exact (h.stand s).turnsAway.receive_pong (x.running s) h.native h.kind hsender h.awaits _ _

/-- A PONG brings about nothing, and leaves the PING behind it. -/
theorem PongComes.deliver {x : Exchange} {s : Side} {m m' : Message} (h : x.PongComes s m m') :
    (x.deliver x.next).PingComes s m' := by
  have houtbox := (x.reachable s).outbox_eq
  obtain ⟨hside, hself, hother, hin, hout, -⟩ := deliver_next h.inbox h.outbox h.receive_eq
  -- With its PING used up the side is free to send the next one.
  have hself : (x.deliver x.next).explorer s = (x.explorer s).withoutPing m.id := by
    rw [hself, Explorer.withoutPing, ← houtbox]
  refine ⟨h.stand.deliver hside ?_, h.kind', ?_, ?_, ?_, hin, ?_⟩
  · rw [hself]
    exact (h.stand s).withoutPing m.id
  · rw [hself]
    exact h.native'
  · rw [hself]
    exact free_of_awaits (x.reachable s).orderly h.awaits
  · rw [hother]
    exact h.awaits'
  · rw [hout, show ((x.explorer s).withoutPing m.id).outbox = (x.explorer s).outbox from rfl,
      houtbox, messagesTo_nil]

/-- The next identifier that the receiver of a PING draws is not in use. -/
theorem PingComes.unused {x : Exchange} {s : Side} {m : Message} (h : x.PingComes s m) :
    ¬ x.InUse (MessageId.draw (x.explorer s).random).1 := by
  have hforeign := not_owned_other (h.stand s).owned
  have hpings : ∀ t k, k ∈ (x.explorer t).requests.pings.keys →
      ∃ r, (k, r) ∈ (x.explorer t).requests.pings.entries := by
    intro t k hk
    obtain ⟨⟨k', r⟩, hmem, rfl⟩ := List.mem_map.1 hk
    exact ⟨r, hmem⟩
  rintro ⟨t, huse⟩
  by_cases ht : t = s
  · -- What the receiver waits for was drawn earlier, and the PING under way is not its own.
    subst ht
    rcases huse with hping | hfind | hchallenge | hmessage
    · obtain ⟨r, hr⟩ := hpings t _ hping
      have hsome := Dict.mem_entries.1 hr
      rw [(h.stand t).unused h.free] at hsome
      cases hsome
    · rw [(h.stand t).finds] at hfind
      cases hfind
    · exact (h.stand t).not_marked ((h.stand t).challenges _ hchallenge).2
    · rw [h.inbox, List.map_singleton, List.mem_singleton] at hmessage
      obtain ⟨r, hr, -⟩ := h.awaits.pending
      rw [hmessage] at hforeign
      exact hforeign ((h.stand t.other).pings _ (Dict.mem_entries.2 hr)).1
  · -- What the sender waits for is its own.
    obtain rfl := Side.eq_other_of_ne ht
    rcases huse with hping | hfind | hchallenge | hmessage
    · obtain ⟨r, hr⟩ := hpings s.other _ hping
      exact hforeign ((h.stand s.other).pings _ hr).1
    · rw [(h.stand s.other).finds] at hfind
      cases hfind
    · exact hforeign ((h.stand s.other).challenges _ hchallenge).1
    · rw [h.outbox] at hmessage
      cases hmessage

theorem PingComes.fresh {x : Exchange} {s : Side} {m : Message} (h : x.PingComes s m) :
    x.Fresh x.next := by
  obtain ⟨-, -, -, -, -, hsent⟩ := deliver_next h.inbox h.outbox h.receive_eq
  unfold Fresh
  rw [hsent]
  intro sent hmem hrequest
  simp only [List.mem_cons, List.not_mem_nil, or_false] at hmem
  rcases hmem with rfl | rfl
  · cases hrequest
  · exact h.unused

theorem PongComes.fresh {x : Exchange} {s : Side} {m m' : Message} (h : x.PongComes s m m') :
    x.Fresh x.next := by
  obtain ⟨-, -, -, -, -, hsent⟩ := deliver_next h.inbox h.outbox h.receive_eq
  unfold Fresh
  rw [hsent, show ((x.explorer s).withoutPing m.id).outbox = (x.explorer s).outbox from rfl,
    (x.reachable s).outbox_eq]
  intro sent hmem
  cases hmem

/-- One PING after the other: either a PING or a PONG with a PING behind it is under way. -/
def Volley (x : Exchange) : Prop :=
  (∃ s m, x.PingComes s m) ∨ ∃ s m m', x.PongComes s m m'

theorem Volley.deliver {x : Exchange} (h : x.Volley) : (x.deliver x.next).Volley := by
  rcases h with ⟨s, m, h⟩ | ⟨s, m, m', h⟩
  · exact .inr ⟨_, _, _, h.deliver⟩
  · exact .inl ⟨_, _, h.deliver⟩

/-- The volley never ends. -/
theorem Volley.rally {x : Exchange} (h : x.Volley) (n : Nat) : (x.rally n).Volley := by
  induction n with
  | zero => exact h
  | succ n ih => exact ih.deliver

theorem Volley.possible {x : Exchange} (h : x.Volley) : x.Possible x.next := by
  rcases h with ⟨s, m, h⟩ | ⟨s, m, m', h⟩ <;> exact possible_next h.inbox h.outbox

theorem Volley.fresh {x : Exchange} (h : x.Volley) : x.Fresh x.next := by
  rcases h with ⟨s, m, h⟩ | ⟨s, m, m', h⟩ <;> exact h.fresh

end Exchange

/-! ### The two explorers -/

namespace Sample

/-- The two explorers before their first call.  The one on the right contacts the other first. -/
def newcomer : Side → Explorer
  | .left => .create (config 0x00 1) (fun _ => none) (source 0)
  | .right =>
    .create { config 0x80 2 with bootstrapNodes := ["10.0.0.1:30303"] } (fun _ => none) (source 1)

/-- The calls that lead to the standoff.  Both explorers start and establish a peer; then another
peer asks for the same place, so that the first one is challenged. -/
def calls : Side → List Occasion
  | .left => [starts, pinged 0x81 3, ponged 0x81 3 (messageId 0 0), pinged 0x82 4,
      ponged 0x82 4 (messageId 0 1), pinged 0x83 7]
  | .right => [starts, pinged 0x01 5, ponged 0x01 5 (messageId 1 1), pinged 0x02 6,
      ponged 0x02 6 (messageId 1 2)]

/-- An explorer at an address. -/
def addressOf : Side → SocketAddress
  | .left => address 1
  | .right => address 2

/-- An explorer after its calls. -/
def contender (s : Side) : Explorer :=
  (Explorer.run (calls s) (newcomer s)).1

/-- Two explorers that turn each other away, and all that they have sent each other. -/
def standoff : Exchange where
  explorer := contender
  address := addressOf
  inbox := fun s =>
    messagesTo (addressOf s) (Explorer.run (calls s.other) (newcomer s.other)).2.flatten
  reachable := by
    intro s
    cases s <;> exact (Explorer.Reachable.create _ _ _).run _
  running := by
    intro s
    cases s <;> decide +kernel
  distinct := by
    intro s
    cases s <;> decide +kernel
  network := by
    intro s
    cases s <;> decide +kernel
  apart := by
    intro s
    cases s <;> decide
  sender := by
    intro s
    cases s <;> decide +kernel

theorem stand_standoff : standoff.Stand := by
  -- All but the random words is found by evaluation.
  have hstate : ∀ s, (contender s).config.allowMultiple = true ∧
      (contender s).established.contains (contender s.other).localId = false ∧
      ((contender s).table.bucketFor (contender s.other).localId).contains
        (contender s.other).localId = false ∧
      ((contender s).table.bucketFor (contender s.other).localId).isFull
        (contender s).table.bucketSize = true ∧
      ((contender s).table.bucketFor (contender s.other).localId).oldest?.all
        (fun i => (contender s).challenges.isChallenged i.id) = true ∧
      (∀ m ∈ (contender s).challenges.keys, Owned (ownerOf s) m ∧ Marked m) ∧
      (∀ p ∈ (contender s).requests.pings.entries,
        Owned (ownerOf s) p.1 ∧ (Marked p.1 ∨ p.2.address = addressOf s.other)) ∧
      (contender s).requests.finds.keys = [] := by
    intro s
    cases s <;> decide +kernel
  intro s
  obtain ⟨hshared, hstranger, habsent, hfull, hchallenged, hchallenges, hpings, hfinds⟩ := hstate s
  refine ⟨⟨hshared, hstranger, habsent, hfull, hchallenged⟩, ⟨4, Nat.le_refl 4, ?_⟩, hchallenges,
    hpings, hfinds⟩
  cases s <;> rfl

/-- The PING that the explorer on the right has sent when it started. -/
def opening : Message :=
  ⟨messageId 1 0, nodeId 0x80, some 0, .ping (.ofAddress (address 2))⟩

theorem awaits_opening : (contender .right).Awaits (addressOf .left) opening.id where
  pending := by
    have hping : ((contender .right).requests.pings.get? opening.id).any (fun r =>
        decide (r.id = opening.id ∧ r.address = addressOf .left ∧ r.expects = .pong ∧
          r.related = none)) = true := by decide +kernel
    obtain ⟨r, hr, hping⟩ := (Option.any_eq_true _ _).1 hping
    exact ⟨r, hr, of_decide_eq_true hping⟩
  unchallenged := by decide +kernel

theorem volley_standoff : standoff.Volley := by
  have hnative : (contender .left).isForeign opening = false := by decide +kernel
  have hfree : (contender .left).requests.pingTo? (addressOf .right) = none := by decide +kernel
  have hin : standoff.inbox .left = [opening] := by decide +kernel
  have hout : standoff.inbox .right = [] := by decide +kernel
  exact .inl ⟨.left, opening, stand_standoff, rfl, hnative, hfree, awaits_opening, hin, hout⟩

end Sample

/-- **Two explorers that turn each other away never come to rest.**  Each of them has a full
bucket for the other and has challenged the incumbent, who does not answer; what is under way
between them is the PING that one of them has sent when it started.  Messages keep arriving
forever, and no call draws an identifier that is in use. -/
theorem standoff_lasts :
    Sample.standoff.Lasts (fun n => (Sample.standoff.rally n).next) ∧
    ∀ n, (Sample.standoff.after (fun n => (Sample.standoff.rally n).next) n).Fresh
      (Sample.standoff.rally n).next := by
  have hvolley := fun n => Sample.volley_standoff.rally n
  refine ⟨?_, ?_⟩
  · intro n
    rw [Exchange.after_rally]
    exact (hvolley n).possible
  · intro n
    rw [Exchange.after_rally]
    exact (hvolley n).fresh

end NodeDiscovery
