import NodeDiscovery.Proofs.Ledger
import NodeDiscovery.Proofs.Rotation
import NodeDiscovery.Proofs.Standoff

/-!
# Two strangers that meet

An explorer sends a PING to another one that it does not know.  The other one answers, and sends a
PING in turn unless it has done so already.  Each of the two goes through the same stages with its
own PING, whatever the other one does meanwhile: it is silent, it is asking while the PING is under
way, it is answered while the PONG is under way, and in the end it is settled and has established
the other one.  Every message that arrives takes one of the two one stage further, so that they
come to rest after one PING and one PONG in each direction, in whatever order these arrive.

## Main definitions

* `Stage` — how far an explorer has come with its PING.
* `Explorer.Meets` — an explorer is at a stage.
* `Exchange.Opens` — one PING is under way between two strangers, or one in each direction.
* `Exchange.Handshake` — both explorers are at a stage, and what is under way is what they are
  waiting for.
* `Exchange.Follows`, `Exchange.through` — messages that arrive one after the other.

## Main results

* `Explorer.Meets.receive_ping`, `Explorer.Meets.receive_pong` — what a message does at a stage.
* `Exchange.Handshake.deliver` — a message takes one of the two one stage further.
* `Exchange.strangers_agree` — two strangers that meet establish each other.
-/

namespace NodeDiscovery

/-! ### Stages -/

/-- How far an explorer has come with a PING to a stranger. -/
inductive Stage where
  /-- It has sent none. -/
  | silent
  /-- The PING is under way. -/
  | asking (r : Request)
  /-- The PONG is under way. -/
  | answered (r : Request)
  /-- The PONG has arrived. -/
  | settled

namespace Stage

/-- The PING under way. -/
def asks : Stage → List Message
  | asking r => [r.message]
  | silent | answered _ | settled => []

/-- The PONG under way, which another explorer has sent. -/
def answers (e : Explorer) : Stage → List Message
  | answered r => [e.compose r.id .pong]
  | silent | asking _ | settled => []

/-- The PINGs that are still to arrive. -/
def unasked : Stage → Nat
  | silent | asking _ => 1
  | answered _ | settled => 0

/-- The PONGs that are still to arrive. -/
def unanswered : Stage → Nat
  | silent | asking _ | answered _ => 1
  | settled => 0

/-- Hearing a PING rouses whoever is silent: it sends one itself. -/
def roused (r : Request) : Stage → Stage
  | silent => asking r
  | asking r => asking r
  | answered r => answered r
  | settled => settled

/-- The PING that is sent by whoever is roused. -/
def reply (r : Request) : Stage → List Message
  | silent => [r.message]
  | asking _ | answered _ | settled => []

variable {stage : Stage} {r : Request} {m : Message} {e : Explorer}

theorem asks_roused (r : Request) (stage : Stage) :
    (stage.roused r).asks = stage.asks ++ stage.reply r := by
  cases stage <;> rfl

theorem answers_roused (e : Explorer) (r : Request) (stage : Stage) :
    (stage.roused r).answers e = stage.answers e := by
  cases stage <;> rfl

theorem unasked_roused (r : Request) (stage : Stage) :
    (stage.roused r).unasked = stage.unasked := by
  cases stage <;> rfl

theorem unanswered_roused (r : Request) (stage : Stage) :
    (stage.roused r).unanswered = stage.unanswered := by
  cases stage <;> rfl

theorem roused_ne_silent (r : Request) (stage : Stage) : stage.roused r ≠ silent := by
  cases stage <;> exact Stage.noConfusion

theorem of_mem_asks (h : m ∈ stage.asks) : ∃ r, stage = asking r ∧ m = r.message := by
  cases stage with
  | asking r => exact ⟨r, rfl, List.mem_singleton.1 h⟩
  | silent | answered | settled => cases h

theorem of_mem_answers (h : m ∈ stage.answers e) :
    ∃ r, stage = answered r ∧ m = e.compose r.id .pong := by
  cases stage with
  | answered r => exact ⟨r, rfl, List.mem_singleton.1 h⟩
  | silent | asking | settled => cases h

theorem answers_congr {e e' : Explorer} (h : e'.config = e.config) (stage : Stage) :
    stage.answers e' = stage.answers e := by
  cases stage with
  | answered r => simp [answers, Explorer.compose, Explorer.localId, h]
  | silent | asking | settled => rfl

end Stage

/-! ### One side -/

namespace Explorer

/-- A stranger for whom there is room. -/
structure Expects (e : Explorer) (id : NodeId) : Prop where
  /-- The stranger is not established. -/
  stranger : e.established.contains id = false
  /-- Its bucket has a free slot. -/
  room : (e.table.bucketFor id).isFull e.table.bucketSize = false

/-- A peer is established where it was heard. -/
structure Knows (e : Explorer) (a : SocketAddress) (id : NodeId) : Prop where
  /-- It is established at the address. -/
  established : e.established.get? id = some ⟨id, .ofAddress a⟩
  /-- The table stores it there. -/
  stored : e.table.node? id = some ⟨id, .ofAddress a⟩

/-- An explorer is at a stage of getting to know whoever is at an address. -/
def Meets (a : SocketAddress) (id : NodeId) (e : Explorer) : Stage → Prop
  | .silent => e.Expects id ∧ e.requests.pingTo? a = none
  | .asking r | .answered r => e.Expects id ∧ e.requests.pingTo? a = some r ∧ r.related = none
  | .settled => e.Knows a id ∧ e.requests.pingTo? a = none

variable {e e' : Explorer} {a : SocketAddress} {id : NodeId} {stage : Stage} {m : Message}
  {r : Request} {drawn : List MessageId}

/-- Being at a stage is a matter of the requests, the established peers and the table. -/
theorem Meets.congr (h : e.Meets a id stage) (hrequests : e'.requests = e.requests)
    (hestablished : e'.established = e.established) (htable : e'.table = e.table) :
    e'.Meets a id stage := by
  have hexpects : e.Expects id → e'.Expects id := fun h =>
    ⟨hestablished ▸ h.stranger, htable ▸ h.room⟩
  cases stage with
  | silent => exact ⟨hexpects h.1, hrequests ▸ h.2⟩
  | asking r => exact ⟨hexpects h.1, hrequests ▸ h.2⟩
  | answered r => exact ⟨hexpects h.1, hrequests ▸ h.2⟩
  | settled => exact ⟨⟨hestablished ▸ h.1.established, htable ▸ h.1.stored⟩, hrequests ▸ h.2⟩

/-- A PING of a stranger is answered, and a PING goes back unless one is under way. -/
theorem Expects.receive_ping (h : e.Expects id) (hnative : e.isForeign m = false)
    (hkind : m.kind = .ping) (hsender : m.sender = id) (bans : Bans) (now : Timestamp) :
    e.receive bans now ⟨m, a⟩ = ((e.sendPong m.id a).sendPing now a 1 none).2 := by
  rw [Explorer.receive_ping (d := ⟨m, a⟩) hnative hkind]
  show e.onPing now a m = _
  unfold onPing
  dsimp only
  rw [show (e.sendPong m.id a).established = e.established from rfl, hsender, h.stranger,
    if_neg Bool.false_ne_true]

/-- A PING is answered by a PONG, and it rouses whoever is silent. -/
theorem Meets.receive_ping (h : e.Meets a id stage) (hreachable : Reachable e)
    (hnative : e.isForeign m = false) (hkind : m.kind = .ping) (hsender : m.sender = id)
    (bans : Bans) (now : Timestamp) :
    (e.receive bans now ⟨m, a⟩).Meets a id (stage.roused (e.nextPing now a 1 none)) ∧
    (e.receive bans now ⟨m, a⟩).outbox
      = ([e.compose m.id .pong] ++ stage.reply (e.nextPing now a 1 none)).map (⟨·, a⟩) := by
  have houtbox : (e.sendPong m.id a).outbox = [⟨e.compose m.id .pong, a⟩] := by
    show e.outbox ++ _ = _
    rw [hreachable.outbox_eq]
    rfl
  -- If a PING is under way already, the answer is all that is sent.
  have hpending : ∀ r, e.Expects id → e.requests.pingTo? a = some r →
      e.receive bans now ⟨m, a⟩ = e.sendPong m.id a := by
    intro r hexpects hr
    have hr' : (e.sendPong m.id a).requests.pingTo? a = some r := hr
    rw [hexpects.receive_ping hnative hkind hsender, sendPing_of_pending hr']
  cases stage with
  | silent =>
    obtain ⟨hexpects, hfree⟩ := h
    have hfree' : (e.sendPong m.id a).requests.pingTo? a = none := hfree
    rw [hexpects.receive_ping hnative hkind hsender, sendPing_of_free hfree', houtbox]
    refine ⟨⟨⟨hexpects.stranger, hexpects.room⟩, ?_, rfl⟩, rfl⟩
    exact pingTo?_trackPing hreachable.orderly hfree now 1 none
  | asking r =>
    rw [hpending r h.1 h.2.1]
    have hasking : e.Meets a id (.asking r) := h
    exact ⟨hasking.congr rfl rfl rfl, houtbox⟩
  | answered r =>
    rw [hpending r h.1 h.2.1]
    have hanswered : e.Meets a id (.answered r) := h
    exact ⟨hanswered.congr rfl rfl rfl, houtbox⟩
  | settled =>
    obtain ⟨hknows, hfree⟩ := h
    have hin : (e.sendPong m.id a).established.get? id = some ⟨id, .ofAddress a⟩ :=
      hknows.established
    have hpeer : e.receive bans now ⟨m, a⟩ = (e.sendPong m.id a).refreshPeer id now := by
      rw [Explorer.receive_ping (d := ⟨m, a⟩) hnative hkind]
      show e.onPing now a m = _
      unfold onPing
      dsimp only
      rw [hsender, Dict.contains, hin, Option.isSome_some, if_pos rfl]
    rw [hpeer]
    unfold refreshPeer
    rw [hin]
    refine ⟨⟨⟨hknows.established, ?_⟩, hfree⟩, houtbox⟩
    show (e.table.refresh ⟨id, .ofAddress a⟩ now).2.node? id = some ⟨id, .ofAddress a⟩
    have hsound : e.table.Sound := hreachable.coherent.sound
    rw [DistanceTable.node?_refresh hsound, if_pos]
    refine ⟨rfl, ?_⟩
    rw [hknows.stored]
    rfl

/-- A stranger for whom there is room is established once it has answered. -/
theorem knows_enroll (hcoherent : e.registry.Coherent) (hexpects : e.Expects id)
    (hself : id ≠ e.localId) (now : Timestamp) (a : SocketAddress) :
    (e.enroll now id a).Knows a id ∧ (e.enroll now id a).requests = e.requests ∧
    (e.enroll now id a).outbox = e.outbox := by
  have hin := established_enroll hcoherent hself (.inr hexpects.room) now a
  obtain ⟨houtbox, hrequests, -, -⟩ := vacate_frame ⟨id, .ofAddress a⟩ e
  have hvacated := coherent_vacate hcoherent ⟨id, .ofAddress a⟩
  rcases enroll_cases now id a e with ⟨hsame, -⟩ | ⟨-, hregistry⟩ | ⟨-, o, table, hadd, ho, he⟩
  · exact absurd hsame hself
  · -- Who is established only now has found a place.
    have hsame : (e.enroll now id a).established = (e.vacate ⟨id, .ofAddress a⟩).established :=
      congrArg Registry.established hregistry
    rw [hsame, contains_vacate, hexpects.stranger] at hin
    exact absurd hin.1 Bool.false_ne_true
  · rw [he]
    refine ⟨⟨?_, ?_⟩, hrequests, houtbox⟩
    · show (Dict.insert id _ _).get? id = _
      rw [Dict.get?_insert, if_pos rfl]
    · show table.node? id = _
      rw [(DistanceTable.add_of_isSuccess hvacated.sound hadd ho).2.2.2.2, if_pos rfl]

/-- The PONG that an explorer waits for establishes its sender. -/
theorem Meets.receive_pong (h : e.Meets a id (.answered r)) (hfresh : FreshlyReachable drawn e)
    (hrun : e.phase = .running) (hself : id ≠ e.localId) (hnative : e.isForeign m = false)
    (hkind : m.kind = .pong) (hsender : m.sender = id) (hid : m.id = r.id) (bans : Bans)
    (now : Timestamp) :
    (e.receive bans now ⟨m, a⟩).Meets a id .settled ∧
    (e.receive bans now ⟨m, a⟩).outbox = [] := by
  obtain ⟨hexpects, hr, hrelated⟩ := h
  have horderly := hfresh.reachable.orderly
  obtain ⟨⟨k, hk⟩, haddress⟩ := RequestTracker.mem_of_pingTo? hr
  obtain rfl : r.id = k := horderly.keyed k r hk
  have hsettles : e.Settles ⟨m, a⟩ r := by
    refine ⟨hrun, hnative, body_of_pong hkind, hid ▸ hk, ?_⟩
    simp [Request.accepts, Request.mayAnswer, hid, hkind, (horderly.asks r.id r hk).2, haddress,
      hrelated]
  -- A challenge would rest on a PING that is bound to its incumbent.
  have hunchallenged : e.challenges.get? m.id = none := by
    cases hc : e.challenges.get? m.id with
    | none => rfl
    | some c =>
      obtain ⟨r', hr' | ⟨hr', -⟩, hbound⟩ := hfresh.backed.backed m.id c hc
      · rw [hid, hk] at hr'
        rw [← Option.some.inj hr', hrelated] at hbound
        cases hbound
      · cases hr'
  rw [hsettles.receive_eq]
  rcases onPong_cases now hrun hnative (body_of_pong hkind) (d := ⟨m, a⟩) with
    ⟨hno, -⟩ | ⟨c, hc, -⟩ | ⟨-, he⟩
  · exact absurd hsettles (hno r)
  · have hsome := hc.2
    rw [hunchallenged] at hsome
    cases hsome
  · have hcoherent : (e.withoutPing m.id).registry.Coherent := hfresh.reachable.coherent
    obtain ⟨hknows, hrequests, houtbox⟩ := knows_enroll (e := e.withoutPing m.id) hcoherent
      ⟨hexpects.stranger, hexpects.room⟩ hself now a
    rw [he]
    show Meets a id ((e.withoutPing m.id).enroll now m.sender a) .settled ∧
      ((e.withoutPing m.id).enroll now m.sender a).outbox = []
    rw [hsender]
    refine ⟨⟨hknows, ?_⟩, houtbox.trans hfresh.reachable.outbox_eq⟩
    rw [hrequests]
    exact (hsettles.pingTo?_eq horderly).2

end Explorer

/-! ### Both sides -/

/-- The messages that arrive at a side in the course of some deliveries. -/
def arrivals (s : Side) (deliveries : List Delivery) : List Message :=
  (deliveries.filter (·.side = s)).map Delivery.message

namespace Exchange

open Explorer (FreshlyReachable)

/-- The exchange after some messages have arrived. -/
def through : Exchange → List Delivery → Exchange
  | x, [] => x
  | x, d :: rest => through (x.deliver d) rest

/-- The messages arrive one after the other, each of them while it is under way. -/
def Follows : Exchange → List Delivery → Prop
  | _, [] => True
  | x, d :: rest => x.Possible d ∧ Follows (x.deliver d) rest

/-- The messages that a side hands over when a message arrives. -/
def sentOn (s : Side) (x : Exchange) (d : Delivery) : List Datagram :=
  if s = d.side then (x.turn d).sent else []

/-- The messages that a side hands over in the course of some deliveries. -/
def sentIn (s : Side) : Exchange → List Delivery → List Datagram
  | _, [] => []
  | x, d :: rest => x.sentOn s d ++ sentIn s (x.deliver d) rest

/-- Two strangers for each of whom there is room at the other one, and nothing between them but one
PING that anybody may answer, or one in each direction. -/
structure Opens (x : Exchange) : Prop where
  /-- They do not know each other. -/
  expects : ∀ s, (x.explorer s).Expects (x.explorer s.other).localId
  /-- Each has sent no PING, or has sent one that is under way. -/
  opening : ∀ s,
    ((x.explorer s).requests.pingTo? (x.address s.other) = none ∧ x.inbox s.other = []) ∨
    ∃ r, (x.explorer s).requests.pingTo? (x.address s.other) = some r ∧ r.related = none ∧
      x.inbox s.other = [r.message]
  /-- One of them has sent one. -/
  begun : ∃ s, x.inbox s ≠ []

/-- Both explorers are at a stage, and what is under way is what they are waiting for. -/
structure Handshake (x : Exchange) (stage : Side → Stage) : Prop where
  /-- Each explorer is at its stage. -/
  meets : ∀ s, (x.explorer s).Meets (x.address s.other) (x.explorer s.other).localId (stage s)
  /-- The PING of the other side and the PONG for the own one are under way. -/
  inbox : ∀ s, (x.inbox s).Perm ((stage s.other).asks ++ (stage s).answers (x.explorer s.other))
  /-- As long as one side is silent the PING of the other side is under way. -/
  called : ∀ s, stage s = .silent → ∃ r, stage s.other = .asking r

variable {x : Exchange} {d : Delivery} {stage stage' : Side → Stage} {drawn : Side → List MessageId}

theorem config_deliver (s : Side) :
    ((x.deliver d).explorer s).config = (x.explorer s).config :=
  x.config_explorerAfter d s

/-- The inbox of the side that a message arrives at. -/
theorem inbox_deliver_self : (x.deliver d).inbox d.side = (x.inbox d.side).erase d.message := by
  show x.inboxAfter d d.side = _
  rw [inboxAfter, if_pos rfl]

/-- The inbox of the side that a message has come from. -/
theorem inbox_deliver_other :
    (x.deliver d).inbox d.side.other = x.inbox d.side.other ++
      messagesTo (x.address d.side.other)
        ((x.explorer d.side).receive d.bans d.now (x.datagram d)).outbox := by
  show x.inboxAfter d d.side.other = _
  rw [inboxAfter, if_neg (Side.other_ne d.side), turn, Explorer.perform_receive (x.running d.side)]
  rfl

theorem messagesTo_map (a : SocketAddress) (messages : List Message) :
    messagesTo a (messages.map (⟨·, a⟩)) = messages := by
  induction messages with
  | nil => rfl
  | cons m rest ih => simpa [messagesTo] using ih

theorem arrivals_self (d : Delivery) : arrivals d.side [d] = [d.message] := by
  simp [arrivals]

theorem arrivals_other (d : Delivery) : arrivals d.side.other [d] = [] := by
  simp [arrivals, (Side.other_ne d.side).symm]

/-- A message that arrives takes one side one stage further. -/
structure Advances (d : Delivery) (stage stage' : Side → Stage) : Prop where
  /-- It is a PING or a PONG. -/
  kind : d.message.kind = .ping ∨ d.message.kind = .pong
  /-- A PING is one of those that were still to arrive. -/
  ping : ∀ s, countKind .ping (arrivals s [d]) + (stage' s.other).unasked = (stage s.other).unasked
  /-- A PONG is one of those that were still to arrive. -/
  pong : ∀ s, countKind .pong (arrivals s [d]) + (stage' s).unanswered = (stage s).unanswered

/-- A message arrives, and what is under way afterwards is what the two explorers are waiting
for. -/
theorem handshake_deliver (mine theirs : Stage) (sent : List Message)
    (hmine : ((x.explorer d.side).receive d.bans d.now (x.datagram d)).Meets
      (x.address d.side.other) (x.explorer d.side.other).localId mine)
    (hsent : ((x.explorer d.side).receive d.bans d.now (x.datagram d)).outbox
      = sent.map (⟨·, x.address d.side.other⟩))
    (htheirs : (x.explorer d.side.other).Meets (x.address d.side) (x.explorer d.side).localId
      theirs)
    (hin : ((x.inbox d.side).erase d.message).Perm
      (theirs.asks ++ mine.answers (x.explorer d.side.other)))
    (hout : (x.inbox d.side.other ++ sent).Perm
      (mine.asks ++ theirs.answers (x.explorer d.side)))
    (hcalled : mine ≠ .silent ∧ theirs ≠ .silent) :
    (x.deliver d).Handshake (d.side.split mine theirs) := by
  constructor
  · refine Side.forall_of d.side ?_ ?_
    · rw [localId_deliver, Side.split_self, explorer_deliver_self]
      exact hmine.congr rfl rfl rfl
    · rw [localId_deliver, Side.split_other, explorer_deliver_other, Side.other_other]
      exact htheirs
  · refine Side.forall_of d.side ?_ ?_
    · rw [Side.split_self, Side.split_other, inbox_deliver_self,
        Stage.answers_congr (config_deliver _)]
      exact hin
    · rw [Side.other_other, Side.split_self, Side.split_other, inbox_deliver_other, hsent,
        messagesTo_map, Stage.answers_congr (config_deliver _)]
      exact hout
  · refine Side.forall_of d.side ?_ ?_
    · rw [Side.split_self]
      exact fun hsilent => absurd hsilent hcalled.1
    · rw [Side.split_other]
      exact fun hsilent => absurd hsilent hcalled.2

/-- The PING of a side is answered when it arrives, and the other side is roused. -/
theorem Handshake.deliver_ping (h : x.Handshake stage) (hpossible : x.Possible d) {r : Request}
    (hstage : stage d.side.other = .asking r) (hmessage : d.message = r.message) :
    ∃ stage', (x.deliver d).Handshake stage' ∧ Advances d stage stage' := by
  have hsender := hpossible.sender_eq
  have htheirs := h.meets d.side.other
  rw [hstage, Side.other_other] at htheirs
  -- The PING is the one that the other side has composed.
  obtain ⟨⟨k, hk⟩, -⟩ := RequestTracker.mem_of_pingTo? htheirs.2.1
  have hcomposed := ((x.reachable d.side.other).genuine.ping k r hk).1
  rw [← hmessage] at hcomposed
  have hkind : d.message.kind = .ping := by rw [hcomposed]; rfl
  have hnative : (x.explorer d.side).isForeign d.message = false := by
    have hnative := x.native_compose d.side.other k
      (.ping (x.explorer d.side.other).config.localNode.endpoint)
    rwa [Side.other_other, ← hcomposed] at hnative
  obtain ⟨hmine, hsent⟩ := (h.meets d.side).receive_ping (x.reachable d.side) hnative hkind hsender
    d.bans d.now
  generalize (x.explorer d.side).nextPing d.now (x.address d.side.other) 1 none = next
    at hmine hsent
  refine ⟨_, handshake_deliver _ (.answered r) _ hmine hsent htheirs ?_ ?_ ⟨?_, nofun⟩,
    .inl hkind, ?_, ?_⟩
  · -- The PING is no longer under way.
    have hin := (h.inbox d.side).erase d.message
    rw [hstage, Stage.asks, hmessage, List.singleton_append, List.erase_cons_head] at hin
    rwa [Stage.answers_roused, Stage.asks, List.nil_append, hmessage]
  · -- The PONG is, and perhaps a PING.
    have hout := h.inbox d.side.other
    rw [hstage, Side.other_other, Stage.answers, List.append_nil] at hout
    rw [Stage.asks_roused, Stage.answers, List.append_assoc, hmessage]
    exact hout.append List.perm_append_comm
  · exact Stage.roused_ne_silent next _
  · refine Side.forall_of d.side ?_ ?_
    · rw [arrivals_self, countKind_singleton, if_pos hkind, Side.split_other, hstage]
      rfl
    · rw [arrivals_other, Side.other_other, Side.split_self, Stage.unasked_roused]
      exact Nat.zero_add _
  · refine Side.forall_of d.side ?_ ?_
    · rw [arrivals_self, countKind_singleton, hkind, if_neg (by decide), Side.split_self,
        Stage.unanswered_roused, Nat.zero_add]
    · rw [arrivals_other, Side.split_other, hstage]
      rfl

/-- The PONG for the PING of a side settles it. -/
theorem Handshake.deliver_pong (h : x.Handshake stage) (hpossible : x.Possible d)
    (hfresh : FreshlyReachable (drawn d.side) (x.explorer d.side)) {r : Request}
    (hstage : stage d.side = .answered r)
    (hmessage : d.message = (x.explorer d.side.other).compose r.id .pong) :
    ∃ stage', (x.deliver d).Handshake stage' ∧ Advances d stage stage' := by
  have hkind : d.message.kind = .pong := by rw [hmessage]; rfl
  have hid : d.message.id = r.id := by rw [hmessage]; rfl
  have hnative : (x.explorer d.side).isForeign d.message = false := by
    have hnative := x.native_compose d.side.other r.id .pong
    rwa [Side.other_other, ← hmessage] at hnative
  have hmine := h.meets d.side
  rw [hstage] at hmine
  obtain ⟨hmine, hsent⟩ := hmine.receive_pong hfresh (x.running d.side) (x.distinct d.side).symm
    hnative hkind hpossible.sender_eq hid d.bans d.now
  have htheirs := h.meets d.side.other
  rw [Side.other_other] at htheirs
  have hspoken : stage d.side.other ≠ .silent := by
    intro hsilent
    obtain ⟨r', hasking⟩ := h.called d.side.other hsilent
    rw [Side.other_other, hstage] at hasking
    cases hasking
  refine ⟨_, handshake_deliver .settled _ [] hmine hsent htheirs ?_ ?_
    ⟨nofun, hspoken⟩, .inr hkind, ?_, ?_⟩
  · -- The PONG is no longer under way.
    have hin := h.inbox d.side
    rw [hstage, Stage.answers, ← hmessage] at hin
    have hin := (hin.trans (List.perm_append_comm)).erase d.message
    rw [List.singleton_append, List.erase_cons_head] at hin
    rwa [Stage.answers, List.append_nil]
  · have hout := h.inbox d.side.other
    rw [Side.other_other, hstage] at hout
    rw [List.append_nil]
    exact hout
  · refine Side.forall_of d.side ?_ ?_
    · rw [arrivals_self, countKind_singleton, hkind, if_neg (by decide), Side.split_other,
        Nat.zero_add]
    · rw [arrivals_other, Side.other_other, Side.split_self, hstage]
      rfl
  · refine Side.forall_of d.side ?_ ?_
    · rw [arrivals_self, countKind_singleton, if_pos hkind, Side.split_self, hstage]
      rfl
    · rw [arrivals_other, Side.split_other]
      exact Nat.zero_add _

/-- **Every message that arrives takes one side one stage further.** -/
theorem Handshake.deliver (h : x.Handshake stage) (hpossible : x.Possible d)
    (hfresh : ∀ s, FreshlyReachable (drawn s) (x.explorer s)) :
    ∃ stage', (x.deliver d).Handshake stage' ∧ Advances d stage stage' := by
  rcases List.mem_append.1 ((h.inbox d.side).mem_iff.1 hpossible) with hasked | hanswered
  · obtain ⟨r, hstage, hmessage⟩ := Stage.of_mem_asks hasked
    exact h.deliver_ping hpossible hstage hmessage
  · obtain ⟨r, hstage, hmessage⟩ := Stage.of_mem_answers hanswered
    exact h.deliver_pong hpossible (hfresh d.side) hstage hmessage

/-! ### Many messages -/

/-- If the identifiers that a delivery draws are fresh, they are among those of a fresh run. -/
theorem freshlyReachable_deliver (hfresh : ∀ s, FreshlyReachable (drawn s) (x.explorer s))
    (hdrawn : ∀ s, (drawn s ++ requestIds (x.sentOn s d)).Nodup) :
    ∀ s, FreshlyReachable (drawn s ++ requestIds (x.sentOn s d)) ((x.deliver d).explorer s) := by
  have hself : x.sentOn d.side d = (x.turn d).sent := if_pos rfl
  have hother : x.sentOn d.side.other d = [] := if_neg (Side.other_ne d.side)
  refine Side.forall_of d.side ?_ ?_
  · have hnext := hdrawn d.side
    have hexplorer : (x.deliver d).explorer d.side = (x.turn d).explorer := if_pos rfl
    rw [hself] at hnext ⊢
    rw [hexplorer]
    exact (hfresh d.side).perform _ _ _ hnext
  · rw [hother, explorer_deliver_other]
    have hnone : drawn d.side.other ++ requestIds [] = drawn d.side.other := List.append_nil _
    rw [hnone]
    exact hfresh d.side.other

/-- The two explorers stay who and where they are. -/
theorem through_frame (x : Exchange) (deliveries : List Delivery) :
    (x.through deliveries).address = x.address ∧
      ∀ s, ((x.through deliveries).explorer s).localId = (x.explorer s).localId := by
  induction deliveries generalizing x with
  | nil => exact ⟨rfl, fun _ => rfl⟩
  | cons d rest ih =>
    obtain ⟨haddress, hlocal⟩ := ih (x.deliver d)
    exact ⟨haddress, fun s => (hlocal s).trans (localId_deliver s)⟩

theorem arrivals_cons (s : Side) (d : Delivery) (rest : List Delivery) :
    arrivals s (d :: rest) = arrivals s [d] ++ arrivals s rest := by
  unfold arrivals
  rw [← List.map_append, ← List.filter_append]
  rfl

/-- Every message arrives on one of the two sides. -/
theorem length_arrivals (deliveries : List Delivery) :
    (arrivals .left deliveries).length + (arrivals .right deliveries).length
      = deliveries.length := by
  induction deliveries with
  | nil => rfl
  | cons d rest ih =>
    have hone : (arrivals .left [d]).length + (arrivals .right [d]).length = 1 := by
      cases hside : d.side <;> simp [arrivals, hside]
    rw [arrivals_cons .left d rest, arrivals_cons .right d rest, List.length_append,
      List.length_append, List.length_cons]
    omega

/-- A message that arrives is a PING or a PONG, and counts as such. -/
theorem Advances.length_arrivals (h : Advances d stage stage') (s : Side) :
    (arrivals s [d]).length
      = countKind .ping (arrivals s [d]) + countKind .pong (arrivals s [d]) := by
  refine Side.forall_of (P := fun s => (arrivals s [d]).length
    = countKind .ping (arrivals s [d]) + countKind .pong (arrivals s [d])) d.side ?_ ?_ s
  · rw [arrivals_self, countKind_singleton, countKind_singleton]
    rcases h.kind with hkind | hkind <;> rw [hkind] <;> rfl
  · rw [arrivals_other]
    rfl

/-- Messages that arrive one after the other are the PINGs and PONGs that were still to arrive, but
for those that still are. -/
theorem Handshake.through {deliveries : List Delivery} (h : x.Handshake stage)
    (hfresh : ∀ s, FreshlyReachable (drawn s) (x.explorer s)) (hfollows : x.Follows deliveries)
    (hdrawn : ∀ s, (drawn s ++ requestIds (x.sentIn s deliveries)).Nodup) :
    ∃ stage', (x.through deliveries).Handshake stage' ∧
      (∀ s, countKind .ping (arrivals s deliveries) + (stage' s.other).unasked
        = (stage s.other).unasked) ∧
      (∀ s, countKind .pong (arrivals s deliveries) + (stage' s).unanswered
        = (stage s).unanswered) ∧
      ∀ s, (arrivals s deliveries).length
        = countKind .ping (arrivals s deliveries) + countKind .pong (arrivals s deliveries) := by
  induction deliveries generalizing x stage drawn with
  | nil =>
    exact ⟨stage, h, fun _ => Nat.zero_add _, fun _ => Nat.zero_add _, fun _ => rfl⟩
  | cons d rest ih =>
    obtain ⟨hpossible, hrest⟩ := hfollows
    have hsplit : ∀ s, drawn s ++ requestIds (x.sentIn s (d :: rest))
        = drawn s ++ requestIds (x.sentOn s d) ++ requestIds ((x.deliver d).sentIn s rest) := by
      intro s
      rw [sentIn, requestIds_append, List.append_assoc]
    have hlater : ∀ s, (drawn s ++ requestIds (x.sentOn s d)
        ++ requestIds ((x.deliver d).sentIn s rest)).Nodup := fun s => hsplit s ▸ hdrawn s
    have hnow : ∀ s, (drawn s ++ requestIds (x.sentOn s d)).Nodup :=
      fun s => (List.nodup_append.1 (hlater s)).1
    obtain ⟨stage₁, hhandshake, hone⟩ := h.deliver hpossible hfresh
    obtain ⟨stage₂, hend, hping, hpong, hlength⟩ :=
      ih hhandshake (freshlyReachable_deliver hfresh hnow) hrest hlater
    refine ⟨stage₂, hend, fun s => ?_, fun s => ?_, fun s => ?_⟩
    · have hone := hone.ping s
      have hping := hping s
      rw [arrivals_cons, countKind_append]
      omega
    · have hone := hone.pong s
      have hpong := hpong s
      rw [arrivals_cons, countKind_append]
      omega
    · rw [arrivals_cons, countKind_append, countKind_append, List.length_append,
        hone.length_arrivals, hlength s]
      omega

/-! ### Two strangers -/

/-- Two strangers start silent or asking. -/
theorem Opens.handshake (h : x.Opens) :
    ∃ stage, x.Handshake stage ∧ ∀ s, (stage s).unasked = 1 ∧ (stage s).unanswered = 1 := by
  -- The PING under way to the other side decides the stage.
  let stage : Side → Stage := fun s =>
    match (x.explorer s).requests.pingTo? (x.address s.other) with
    | none => .silent
    | some r => .asking r
  have hstage : ∀ s, stage s = .silent ∧
      (x.explorer s).requests.pingTo? (x.address s.other) = none ∧ x.inbox s.other = [] ∨
      ∃ r, stage s = .asking r ∧ (x.explorer s).requests.pingTo? (x.address s.other) = some r ∧
        r.related = none ∧ x.inbox s.other = [r.message] := by
    intro s
    rcases h.opening s with ⟨hfree, hin⟩ | ⟨r, hr, hrelated, hin⟩
    · exact .inl ⟨by simp only [stage, hfree], hfree, hin⟩
    · exact .inr ⟨r, by simp only [stage, hr], hr, hrelated, hin⟩
  have hanswers : ∀ s e, (stage s).answers e = [] := by
    intro s e
    rcases hstage s with ⟨hs, -⟩ | ⟨r, hs, -⟩ <;> rw [hs] <;> rfl
  have hinbox : ∀ s, x.inbox s.other = (stage s).asks := by
    intro s
    rcases hstage s with ⟨hs, -, hin⟩ | ⟨r, hs, -, -, hin⟩ <;> rw [hs, hin] <;> rfl
  refine ⟨stage, ⟨fun s => ?_, fun s => ?_, fun s hsilent => ?_⟩, fun s => ?_⟩
  · rcases hstage s with ⟨hs, hfree, -⟩ | ⟨r, hs, hr, hrelated, -⟩
    · rw [hs]
      exact ⟨h.expects s, hfree⟩
    · rw [hs]
      exact ⟨h.expects s, hr, hrelated⟩
  · have hin := hinbox s.other
    rw [Side.other_other] at hin
    rw [hin, hanswers, List.append_nil]
  · -- If both were silent, nothing would have begun.
    rcases hstage s.other with ⟨hother, -⟩ | ⟨r, hother, -⟩
    · obtain ⟨t, ht⟩ := h.begun
      refine absurd ?_ ht
      have hin := hinbox t.other
      rw [Side.other_other] at hin
      rw [hin]
      have hboth : ∀ t, stage t = .silent := Side.forall_of s hsilent hother
      rw [hboth]
      rfl
    · exact ⟨r, hother⟩
  · rcases hstage s with ⟨hs, -⟩ | ⟨r, hs, -⟩ <;> rw [hs] <;> exact ⟨rfl, rfl⟩

/-- When nothing is under way any more both sides are settled. -/
theorem Handshake.settled (h : x.Handshake stage) (hrest : ∀ s, x.inbox s = []) (s : Side) :
    stage s = .settled := by
  have hnone : ∀ s, (stage s).asks = [] ∧ (stage s).answers (x.explorer s.other) = [] := by
    intro s
    have hmine := h.inbox s
    have htheirs := h.inbox s.other
    rw [hrest, List.nil_perm, List.append_eq_nil_iff] at hmine htheirs
    rw [Side.other_other] at htheirs
    exact ⟨htheirs.1, hmine.2⟩
  cases hs : stage s with
  | silent =>
    obtain ⟨r, hother⟩ := h.called s hs
    have hasks := (hnone s.other).1
    rw [hother] at hasks
    cases hasks
  | asking r =>
    have hasks := (hnone s).1
    rw [hs] at hasks
    cases hasks
  | answered r =>
    have hanswers := (hnone s).2
    rw [hs] at hanswers
    cases hanswers
  | settled => rfl

/-- **Two strangers that meet establish each other.**  One or both of two running explorers have
sent the other one a PING that anybody may answer; neither knows the other one, and each has room
for it.  If nothing else happens but that the messages between them arrive, in any order, and the
identifiers are fresh, then at most four messages arrive; and nothing is under way any more just
when four have.  Then each has established the other one, in the table as well, with the host and
the port at which it was heard, no PING is waited for between them, and one PING and one PONG have
travelled in each direction. -/
theorem strangers_agree (x : Exchange) (hopens : x.Opens) (drawn : Side → List MessageId)
    (hfresh : ∀ s, FreshlyReachable (drawn s) (x.explorer s)) (deliveries : List Delivery)
    (hfollows : x.Follows deliveries)
    (hdrawn : ∀ s, (drawn s ++ requestIds (x.sentIn s deliveries)).Nodup) :
    let y := x.through deliveries
    deliveries.length ≤ 4 ∧ (deliveries.length = 4 ↔ ∀ s, y.inbox s = []) ∧
    ((∀ s, y.inbox s = []) → ∀ s,
      let peer : Node := ⟨(x.explorer s.other).localId,
        ⟨(x.address s.other).ip.text, (x.address s.other).port⟩⟩
      (y.explorer s).established.get? peer.id = some peer ∧
      (y.explorer s).table.node? peer.id = some peer ∧
      (∀ m r, (y.explorer s).requests.pings.get? m = some r → r.address ≠ x.address s.other) ∧
      (arrivals s deliveries).length = 2 ∧ countKind .ping (arrivals s deliveries) = 1 ∧
      countKind .pong (arrivals s deliveries) = 1) := by
  intro y
  obtain ⟨stage, hhandshake, hstart⟩ := hopens.handshake
  obtain ⟨stage', hend, hping, hpong, hlength⟩ := hhandshake.through hfresh hfollows hdrawn
  obtain ⟨haddress, hlocal⟩ := x.through_frame deliveries
  -- On each side one PING and one PONG were still to arrive when the two met.
  have hping : ∀ s, countKind .ping (arrivals s deliveries) + (stage' s.other).unasked = 1 :=
    fun s => (hping s).trans (hstart s.other).1
  have hpong : ∀ s, countKind .pong (arrivals s deliveries) + (stage' s).unanswered = 1 :=
    fun s => (hpong s).trans (hstart s).2
  have htotal := length_arrivals deliveries
  have hcounts : ∀ s, countKind .ping (arrivals s deliveries) ≤ 1 ∧
      countKind .pong (arrivals s deliveries) ≤ 1 ∧ (arrivals s deliveries).length
        = countKind .ping (arrivals s deliveries) + countKind .pong (arrivals s deliveries) :=
    fun s => ⟨Nat.le.intro (hping s), Nat.le.intro (hpong s), hlength s⟩
  have hleft := hcounts .left
  have hright := hcounts .right
  have hsettled : (∀ s, y.inbox s = []) → ∀ s, countKind .ping (arrivals s deliveries) = 1 ∧
      countKind .pong (arrivals s deliveries) = 1 := by
    intro hrest s
    have hping := hping s
    have hpong := hpong s
    rw [hend.settled hrest] at hping hpong
    exact ⟨hping, hpong⟩
  refine ⟨by omega, ⟨fun hfour => ?_, fun hrest => ?_⟩, fun hrest s => ?_⟩
  · have hpong' : ∀ s, countKind .pong (arrivals s deliveries) = 1 := by
      refine Side.forall_of .left ?_ ?_
      · omega
      · show countKind .pong (arrivals .right deliveries) = 1
        omega
    have hlast : ∀ s, stage' s = .settled := by
      intro s
      have hnone := hpong s
      rw [hpong' s] at hnone
      cases hs : stage' s with
      | settled => rfl
      | silent | asking | answered => rw [hs] at hnone; cases hnone
    intro s
    have hin := hend.inbox s
    rw [hlast, hlast] at hin
    exact List.perm_nil.1 hin
  · have hleft' := hsettled hrest .left
    have hright' := hsettled hrest .right
    omega
  · obtain ⟨hknows, hfree⟩ : y.explorer s |>.Meets (y.address s.other)
        (y.explorer s.other).localId .settled := hend.settled hrest s ▸ hend.meets s
    obtain ⟨hp, hq⟩ := hsettled hrest s
    rw [haddress, hlocal] at hknows
    rw [haddress] at hfree
    refine ⟨hknows.established, hknows.stored, RequestTracker.pingTo?_eq_none.1 hfree, ?_, hp, hq⟩
    rw [hlength, hp, hq]

end Exchange

/-! ### A meeting -/

namespace Sample

/-- Two explorers that have started.  The one on the right has sent the other one a PING. -/
def meeting : Exchange where
  explorer := fun s => (Explorer.run [starts] (newcomer s)).1
  address := addressOf
  inbox := fun s =>
    messagesTo (addressOf s) (Explorer.run [starts] (newcomer s.other)).2.flatten
  reachable := by
    intro s
    cases s <;> exact (Explorer.Reachable.create _ _ _).run _
  running := by
    intro s
    cases s <;> decide +kernel
  distinct := by
    intro s
    cases s <;> decide +kernel
  network := by
    intro s
    cases s <;> decide +kernel
  apart := standoff.apart
  sender := by
    intro s
    cases s <;> decide +kernel

theorem opens_meeting : meeting.Opens where
  expects := by
    intro s
    cases s <;> exact ⟨by decide +kernel, by decide +kernel⟩
  opening := by
    intro s
    cases s with
    | left => exact .inl ⟨by decide +kernel, by decide +kernel⟩
    | right =>
      have hpending : ((meeting.explorer .right).requests.pingTo? (addressOf .left)).any (fun r =>
          decide (r.related = none ∧ meeting.inbox .left = [r.message])) = true := by
        decide +kernel
      obtain ⟨r, hr, hopening⟩ := (Option.any_eq_true _ _).1 hpending
      exact .inr ⟨r, hr, of_decide_eq_true hopening⟩
  begun := ⟨.left, by decide +kernel⟩

/-- What arrives after that.  The PING that the left one sends in turn overtakes its PONG. -/
def greetings : List Delivery :=
  [⟨.left, .none, .ofMillis 0, opening⟩,
    ⟨.right, .none, .ofMillis 0, ⟨messageId 0 0, nodeId 0, some 0, .ping (.ofAddress (address 1))⟩⟩,
    ⟨.right, .none, .ofMillis 0, ⟨opening.id, nodeId 0, some 0, .pong⟩⟩,
    ⟨.left, .none, .ofMillis 0, ⟨messageId 0 0, nodeId 0x80, some 0, .pong⟩⟩]

end Sample

open Sample in
/-- The two explorers establish each other. -/
theorem strangers_meet :
    let drawn := fun s => Explorer.drawnIds [starts] (newcomer s)
    let y := meeting.through greetings
    meeting.Opens ∧ meeting.Follows greetings ∧
    (∀ s, (drawn s ++ requestIds (meeting.sentIn s greetings)).Nodup) ∧
    (∀ s, y.inbox s = []) ∧
    (y.explorer .left).established.get? (nodeId 0x80) = some ⟨nodeId 0x80, .ofAddress (address 2)⟩ ∧
    (y.explorer .right).established.get? (nodeId 0) = some ⟨nodeId 0, .ofAddress (address 1)⟩ := by
  intro drawn y
  have hfresh : ∀ s, Explorer.FreshlyReachable (drawn s) (meeting.explorer s) := by
    intro s
    cases s <;> exact Explorer.freshlyReachable_run (by decide +kernel)
  have hfollows : meeting.Follows greetings := by
    refine ⟨?_, ?_, ?_, ?_, trivial⟩ <;> unfold Exchange.Possible <;> decide +kernel
  have hdrawn : ∀ s, (drawn s ++ requestIds (meeting.sentIn s greetings)).Nodup := by
    intro s
    cases s <;> decide +kernel
  obtain ⟨-, hrest, hagree⟩ :=
    Exchange.strangers_agree meeting opens_meeting drawn hfresh greetings hfollows hdrawn
  have hdone := hrest.1 rfl
  exact ⟨opens_meeting, hfollows, hdrawn, hdone, (hagree hdone .left).1, (hagree hdone .right).1⟩

end NodeDiscovery
