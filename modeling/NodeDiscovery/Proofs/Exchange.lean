import Mathlib.Data.Prod.Lex
import Mathlib.Order.WellFounded
import NodeDiscovery.Proofs.Replies

/-!
# Two explorers and the network between them

Two running explorers of the same network hear each other and nobody else.  Every message that one
sends to the address of the other arrives exactly once, at any time and in any order, and seems to
come from the address of its sender; messages to other addresses are lost.

The two do not always come to rest: as long as each turns the other away, every PING brings about
another one.  But once one of them turns the other away no more, a measure decreases with every
message that arrives.  It counts the FIND_NODEs and NEIGHBORS under way first, since their answers
can bring about PINGs; then it weighs the PINGs and PONGs under way, the eagerness of the explorer
that does not turn the other away, and the slack of the other one.

## Main definitions

* `Exchange` — the two explorers and the messages under way.
* `Exchange.deliver` — the arrival of a message.
* `Exchange.Refuses` — the arrival of a PONG that would establish its sender, if it had a place.
* `Exchange.measure` — what decreases.

## Main results

* `Exchange.measure_deliver` — it decreases unless a peer is turned away.
* `Exchange.refusals_recur` — endless deliveries have endless refusals on both sides.
* `Exchange.deliveries_end` — deliveries end if one side has a place for the other.
-/

namespace NodeDiscovery

/-- The two sides of an exchange. -/
inductive Side where
  /-- One side. -/
  | left
  /-- The other side. -/
  | right
  deriving DecidableEq, Inhabited

namespace Side

/-- The opposite side. -/
def other : Side → Side
  | left => right
  | right => left

@[simp] theorem other_other (s : Side) : s.other.other = s := by
  cases s <;> rfl

@[simp] theorem other_ne (s : Side) : s.other ≠ s := by
  cases s <;> decide

theorem eq_other_of_ne {s t : Side} (h : s ≠ t) : s = t.other := by
  cases s <;> cases t <;> first | rfl | exact absurd rfl h

/-- One thing on a side and another one on the opposite side. -/
def split {α : Type} (s : Side) (mine theirs : α) (t : Side) : α :=
  if t = s then mine else theirs

@[simp] theorem split_self {α : Type} (s : Side) (mine theirs : α) :
    s.split mine theirs s = mine := if_pos rfl

@[simp] theorem split_other {α : Type} (s : Side) (mine theirs : α) :
    s.split mine theirs s.other = theirs := if_neg (other_ne s)

/-- What holds on a side and on the opposite one holds on both sides. -/
theorem forall_of {P : Side → Prop} (s : Side) (hself : P s) (hother : P s.other) : ∀ t, P t := by
  intro t
  by_cases ht : t = s
  · rw [ht]; exact hself
  · rw [eq_other_of_ne ht]; exact hother

end Side

/-- The arrival of a message. -/
structure Delivery where
  /-- Where it arrives. -/
  side : Side
  /-- The bans in force there. -/
  bans : Bans
  /-- When it arrives. -/
  now : Timestamp
  /-- The message. -/
  message : Message

/-- Two running explorers of one network and the messages under way between them. -/
structure Exchange where
  /-- The explorers. -/
  explorer : Side → Explorer
  /-- Their addresses. -/
  address : Side → SocketAddress
  /-- The messages under way to each of them. -/
  inbox : Side → List Message
  /-- The explorers are in states that runs lead to. -/
  reachable : ∀ s, (explorer s).Reachable
  /-- They handle messages. -/
  running : ∀ s, (explorer s).phase = .running
  /-- They have different identifiers. -/
  distinct : ∀ s, (explorer s).localId ≠ (explorer s.other).localId
  /-- They belong to the same network. -/
  network : ∀ s, (explorer s).config.networkId = (explorer s.other).config.networkId
  /-- They are reached at different addresses. -/
  apart : ∀ s, address s ≠ address s.other
  /-- The messages under way to one were sent by the other. -/
  sender : ∀ s m, m ∈ inbox s → m.sender = (explorer s.other).localId

namespace Exchange

variable (x : Exchange) (d : Delivery)

/-- The datagram that arrives. -/
def datagram : Datagram :=
  ⟨d.message, x.address d.side.other⟩

/-- What the explorer that a message arrives at makes of it. -/
def turn : Turn :=
  (x.explorer d.side).perform d.bans d.now (.receive (x.datagram d))

/-- The explorers after the arrival of a message. -/
def explorerAfter (s : Side) : Explorer :=
  if s = d.side then (x.turn d).explorer else x.explorer s

/-- The messages under way after the arrival of a message. -/
def inboxAfter (s : Side) : List Message :=
  if s = d.side then (x.inbox s).erase d.message
  else x.inbox s ++ messagesTo (x.address s) (x.turn d).sent

theorem config_explorerAfter (s : Side) :
    (x.explorerAfter d s).config = (x.explorer s).config := by
  unfold explorerAfter
  split
  · next h => rw [h]; exact Explorer.config_perform _ _ _ _
  · rfl

theorem localId_explorerAfter (s : Side) :
    (x.explorerAfter d s).localId = (x.explorer s).localId :=
  congrArg Config.localId (x.config_explorerAfter d s)

/-- The arrival of a message. -/
def deliver : Exchange where
  explorer := x.explorerAfter d
  address := x.address
  inbox := x.inboxAfter d
  reachable := by
    intro s
    unfold explorerAfter
    split
    · exact (x.reachable d.side).perform _ _ _
    · exact x.reachable s
  running := by
    intro s
    unfold explorerAfter
    split
    · exact (Explorer.phase_receive _ _ _ _).trans (x.running d.side)
    · exact x.running s
  distinct := by
    intro s
    rw [localId_explorerAfter, localId_explorerAfter]
    exact x.distinct s
  network := by
    intro s
    rw [config_explorerAfter, config_explorerAfter]
    exact x.network s
  apart := x.apart
  sender := by
    intro s m hm
    rw [localId_explorerAfter]
    unfold inboxAfter at hm
    split at hm
    · exact x.sender s m (List.mem_of_mem_erase hm)
    · next hs =>
      rcases List.mem_append.1 hm with hm | hm
      · exact x.sender s m hm
      · have hside : d.side = s.other := by rw [Side.eq_other_of_ne hs, Side.other_other]
        have hsent := Explorer.sender_of_sent (x.reachable d.side).outbox_eq _ _ _ _
          (mem_messagesTo.1 hm)
        rw [← hside]
        exact hsent

/-- The message is under way. -/
def Possible : Prop :=
  d.message ∈ x.inbox d.side

/-- The message is a PONG that admits its sender, but the sender finds no place. -/
def Refuses : Prop :=
  (x.explorer d.side).Admits (x.datagram d) ∧
    (x.turn d).explorer.established.contains d.message.sender = false

/-- The exchange after a number of deliveries. -/
def after (deliveries : Nat → Delivery) : Nat → Exchange
  | 0 => x
  | n + 1 => (after deliveries n).deliver (deliveries n)

/-- Deliveries can be made one after the other without end. -/
def Lasts (deliveries : Nat → Delivery) : Prop :=
  ∀ n, (x.after deliveries n).Possible (deliveries n)

/-! ### The measure -/

/-- The FIND_NODEs under way to a side, which bring about a NEIGHBORS each, and the NEIGHBORS. -/
def lookupsTo (s : Side) : Nat :=
  2 * countKind .findNode (x.inbox s) + countKind .neighbors (x.inbox s)

/-- The FIND_NODEs and NEIGHBORS under way. -/
def lookups : Nat :=
  x.lookupsTo .left + x.lookupsTo .right

/-- The PINGs and PONGs under way and those that the two explorers may still send as long as one
side does not turn the other away. -/
def unrest (s : Side) : Nat :=
  4 * (x.explorer s).eagerness (x.address s.other) (x.explorer s.other).localId +
    (x.explorer s.other).slack (x.address s) (x.explorer s).localId +
    5 * countKind .ping (x.inbox s.other) + 3 * countKind .ping (x.inbox s) +
    countKind .pong (x.inbox s.other) + countKind .pong (x.inbox s)

/-- What decreases with every message that arrives as long as a side does not turn the other
away. -/
def measure (s : Side) : Nat ×ₗ Nat :=
  toLex (x.lookups, x.unrest s)

variable {x d}

/-- A message that arrives comes from the other side. -/
theorem Possible.sender_eq (h : x.Possible d) :
    d.message.sender = (x.explorer d.side.other).localId :=
  x.sender d.side d.message h

theorem Possible.sender_ne (h : x.Possible d) :
    d.message.sender ≠ (x.explorer d.side).localId := by
  rw [h.sender_eq]
  exact (x.distinct d.side).symm

/-- What a side sends belongs to the network of the other side. -/
theorem native_compose (x : Exchange) (s : Side) (id : MessageId) (body : Message.Body) :
    (x.explorer s.other).isForeign ((x.explorer s).compose id body) = false := by
  have hnetwork := x.network s
  simp [Explorer.isForeign, Explorer.compose, hnetwork]

@[simp] theorem address_datagram : (x.datagram d).address = x.address d.side.other := rfl

@[simp] theorem message_datagram : (x.datagram d).message = d.message := rfl

theorem lookups_eq (x : Exchange) (s : Side) :
    x.lookups = x.lookupsTo s + x.lookupsTo s.other := by
  cases s with
  | left => rfl
  | right => exact Nat.add_comm _ _

theorem countKind_inboxAfter_self (h : x.Possible d) (k : MessageKind) :
    countKind k ((x.deliver d).inbox d.side) + (if d.message.kind = k then 1 else 0)
      = countKind k (x.inbox d.side) := by
  have hperm := (List.perm_cons_erase h).countP_eq (p := (·.kind = k))
  show countKind k (x.inboxAfter d d.side) + _ = _
  rw [inboxAfter, if_pos rfl, countKind, countKind, hperm, List.countP_cons]
  simp

theorem countKind_inboxAfter_other (k : MessageKind) :
    countKind k ((x.deliver d).inbox d.side.other)
      = countKind k (x.inbox d.side.other) +
        ((x.explorer d.side).receive d.bans d.now (x.datagram d)).queued
          (x.address d.side.other) k := by
  show countKind k (x.inboxAfter d d.side.other) = _
  rw [inboxAfter, if_neg (Side.other_ne d.side), countKind_append, turn,
    Explorer.perform_receive (x.running d.side)]
  rfl

/-- The explorer that a message arrives at, but for the messages that it hands over. -/
theorem explorer_deliver_self :
    (x.deliver d).explorer d.side
      = { (x.explorer d.side).receive d.bans d.now (x.datagram d) with outbox := [] } := by
  show x.explorerAfter d d.side = _
  rw [explorerAfter, if_pos rfl, turn, Explorer.perform_receive (x.running d.side)]
  rfl

theorem explorer_deliver_other :
    (x.deliver d).explorer d.side.other = x.explorer d.side.other := by
  show x.explorerAfter d d.side.other = _
  rw [explorerAfter, if_neg (Side.other_ne d.side)]

theorem localId_deliver (s : Side) :
    ((x.deliver d).explorer s).localId = (x.explorer s).localId :=
  x.localId_explorerAfter d s

/-- The unrest of the side that a message arrives at. -/
theorem unrest_deliver_self :
    (x.deliver d).unrest d.side =
      4 * ((x.explorer d.side).receive d.bans d.now (x.datagram d)).eagerness
          (x.address d.side.other) (x.explorer d.side.other).localId +
        (x.explorer d.side.other).slack (x.address d.side) (x.explorer d.side).localId +
        5 * countKind .ping ((x.deliver d).inbox d.side.other) +
        3 * countKind .ping ((x.deliver d).inbox d.side) +
        countKind .pong ((x.deliver d).inbox d.side.other) +
        countKind .pong ((x.deliver d).inbox d.side) := by
  rw [unrest, localId_deliver, localId_deliver, explorer_deliver_other, explorer_deliver_self]
  rfl

/-- The unrest of the side that a message does not arrive at. -/
theorem unrest_deliver_other :
    (x.deliver d).unrest d.side.other =
      4 * (x.explorer d.side.other).eagerness (x.address d.side) (x.explorer d.side).localId +
        ((x.explorer d.side).receive d.bans d.now (x.datagram d)).slack
          (x.address d.side.other) (x.explorer d.side.other).localId +
        5 * countKind .ping ((x.deliver d).inbox d.side) +
        3 * countKind .ping ((x.deliver d).inbox d.side.other) +
        countKind .pong ((x.deliver d).inbox d.side) +
        countKind .pong ((x.deliver d).inbox d.side.other) := by
  rw [unrest, localId_deliver, localId_deliver, Side.other_other, explorer_deliver_other,
    explorer_deliver_self]
  rfl

/-- What arrives of a message that is no FIND_NODE or NEIGHBORS, and brings about none, leaves the
lookups as they are. -/
theorem lookups_deliver (h : x.Possible d) (hfind : d.message.kind ≠ .findNode)
    (hneighbors : d.message.kind ≠ .neighbors)
    (hsent : ∀ k, k = .findNode ∨ k = .neighbors →
      ((x.explorer d.side).receive d.bans d.now (x.datagram d)).queued
        (x.address d.side.other) k = 0) : (x.deliver d).lookups = x.lookups := by
  have hself := countKind_inboxAfter_self h
  have hf := hself .findNode
  have hn := hself .neighbors
  rw [if_neg hfind, Nat.add_zero] at hf
  rw [if_neg hneighbors, Nat.add_zero] at hn
  rw [lookups_eq _ d.side, lookups_eq x d.side, lookupsTo, lookupsTo, lookupsTo, lookupsTo, hf, hn,
    countKind_inboxAfter_other, countKind_inboxAfter_other, hsent _ (.inl rfl),
    hsent _ (.inr rfl)]
  rfl

/-- The arrival of a PING lowers the unrest. -/
theorem unrest_ping (h : x.Possible d) (hkind : d.message.kind = .ping) (s : Side) :
    (x.deliver d).lookups = x.lookups ∧ (x.deliver d).unrest s < x.unrest s := by
  have hsender := h.sender_eq
  have hreachable := x.reachable d.side
  obtain ⟨hfind, hneighbors, hpong, hpaid, hbarred⟩ := Explorer.ping_account
    (d := x.datagram d) hreachable.outbox_eq hreachable.orderly hkind d.bans d.now
  have hping := countKind_inboxAfter_self h .ping
  have hpong' := countKind_inboxAfter_self h .pong
  have hping₂ := countKind_inboxAfter_other (x := x) (d := d) .ping
  have hpong₂ := countKind_inboxAfter_other (x := x) (d := d) .pong
  rw [hkind, if_pos rfl] at hping
  rw [hkind, if_neg (by decide)] at hpong'
  refine ⟨lookups_deliver h (by simp [hkind]) (by simp [hkind]) ?_, ?_⟩
  · rintro k (rfl | rfl)
    · exact hfind
    · exact hneighbors
  -- The eagerness of the receiver pays for its PING as seen from its own side, the slack as seen
  -- from the other one.
  · simp only [address_datagram, message_datagram, hsender] at hpaid hbarred hpong
    by_cases hs : s = d.side
    · subst hs
      rw [unrest_deliver_self, unrest]
      omega
    · obtain rfl := Side.eq_other_of_ne hs
      rw [unrest_deliver_other, unrest, Side.other_other]
      omega

/-- The arrival of a PONG lowers the unrest, unless its sender is turned away. -/
theorem unrest_pong (h : x.Possible d) (hkind : d.message.kind = .pong) {s : Side}
    (hs : d.side = s → ¬ x.Refuses d) :
    (x.deliver d).lookups = x.lookups ∧ (x.deliver d).unrest s < x.unrest s := by
  have hsender := h.sender_eq
  have hreachable := x.reachable d.side
  obtain ⟨hothers, hpaid, hbarred⟩ := Explorer.pong_account
    (d := x.datagram d) hreachable (x.running d.side) h.sender_ne hkind d.bans d.now
  have hping := countKind_inboxAfter_self h .ping
  have hpong := countKind_inboxAfter_self h .pong
  have hping₂ := countKind_inboxAfter_other (x := x) (d := d) .ping
  have hpong₂ := countKind_inboxAfter_other (x := x) (d := d) .pong
  have hnone := hothers .pong (by decide)
  rw [hkind, if_neg (by decide)] at hping
  rw [hkind, if_pos rfl] at hpong
  refine ⟨lookups_deliver h (by simp [hkind]) (by simp [hkind]) ?_, ?_⟩
  · rintro k (rfl | rfl)
    · exact hothers _ (by decide)
    · exact hothers _ (by decide)
  · simp only [address_datagram, message_datagram, hsender] at hpaid hbarred hnone
    by_cases hside : s = d.side
    · subst hside
      -- Whoever is admitted finds a place, and so nothing is sent.
      have hwelcome := hpaid ?_
      · rw [unrest_deliver_self, unrest]
        omega
      · intro hadmits
        have hplace : ¬ (x.turn d).explorer.established.contains d.message.sender = false :=
          fun hno => hs rfl ⟨hadmits, hno⟩
        rw [Bool.not_eq_false, turn, Explorer.perform_receive (x.running d.side)] at hplace
        rw [hsender] at hplace
        exact hplace
    · obtain rfl := Side.eq_other_of_ne hside
      rw [unrest_deliver_other, unrest, Side.other_other]
      omega

/-- The arrival of a FIND_NODE or of a NEIGHBORS leaves fewer lookups. -/
theorem lookups_lt (h : x.Possible d)
    (hkind : d.message.kind = .findNode ∨ d.message.kind = .neighbors) :
    (x.deliver d).lookups < x.lookups := by
  have houtbox := (x.reachable d.side).outbox_eq
  have hfind := countKind_inboxAfter_self h .findNode
  have hneighbors := countKind_inboxAfter_self h .neighbors
  have hfind₂ := countKind_inboxAfter_other (x := x) (d := d) .findNode
  have hneighbors₂ := countKind_inboxAfter_other (x := x) (d := d) .neighbors
  rw [lookups_eq _ d.side, lookups_eq x d.side, lookupsTo, lookupsTo, lookupsTo, lookupsTo]
  rcases hkind with hkind | hkind
  · obtain ⟨hothers, hanswer⟩ := Explorer.findNode_account (d := x.datagram d) houtbox hkind
      d.bans d.now
    have hnone := hothers .findNode (by decide)
    simp only [address_datagram] at hanswer hnone
    rw [hkind, if_pos rfl] at hfind
    rw [hkind, if_neg (by decide)] at hneighbors
    omega
  · have hothers := fun k => Explorer.neighbors_account (d := x.datagram d) (k := k) houtbox hkind
      d.bans d.now
    have hnone := hothers .findNode (by decide)
    have hnone' := hothers .neighbors (by decide)
    simp only [address_datagram] at hnone hnone'
    rw [hkind, if_neg (by decide)] at hfind
    rw [hkind, if_pos rfl] at hneighbors
    omega

/-- **Every message that arrives lowers the measure of a side, unless it makes just this side turn
the other away.** -/
theorem measure_deliver (h : x.Possible d) {s : Side} (hs : d.side = s → ¬ x.Refuses d) :
    (x.deliver d).measure s < x.measure s := by
  unfold measure
  rw [Prod.Lex.toLex_lt_toLex]
  cases hkind : d.message.kind with
  | ping => exact .inr (unrest_ping h hkind s)
  | pong => exact .inr (unrest_pong h hkind hs)
  | findNode => exact .inl (lookups_lt h (.inl hkind))
  | neighbors => exact .inl (lookups_lt h (.inr hkind))

/-! ### Deliveries without end -/

/-- Endless deliveries have endless refusals on both sides. -/
theorem refusals_recur {deliveries : Nat → Delivery} (h : x.Lasts deliveries) (s : Side)
    (n : Nat) :
    ∃ k, n ≤ k ∧ (deliveries k).side = s ∧ (x.after deliveries k).Refuses (deliveries k) := by
  by_contra hnone
  -- Otherwise the measure of the side decreases forever from that point on.
  obtain ⟨k, hk⟩ := WellFounded.not_rel_apply_succ (r := (· < ·))
    fun k => (x.after deliveries (n + k)).measure s
  refine hk (measure_deliver (h (n + k)) ?_)
  intro hside hrefuses
  exact hnone ⟨n + k, Nat.le_add_right n k, hside, hrefuses⟩

/-- The other side finds a place at a side: it is established there, or its bucket has room. -/
def Welcomes (s : Side) (x : Exchange) : Prop :=
  (x.explorer s).registry.Welcomes (x.explorer s.other).localId

theorem Welcomes.deliver {s : Side} (hwelcome : x.Welcomes s) (h : x.Possible d) :
    (x.deliver d).Welcomes s := by
  unfold Welcomes
  rw [localId_deliver]
  by_cases hs : s = d.side
  · subst hs
    have hsender := h.sender_eq
    have heffect := Explorer.perform_effect d.bans d.now (.receive (x.datagram d))
      (x.explorer d.side)
    have hafter : (x.deliver d).explorer d.side = (x.turn d).explorer := by
      show x.explorerAfter d d.side = _
      rw [explorerAfter, if_pos rfl]
    rw [hafter, ← hsender]
    exact heffect.welcomes (x.reachable d.side).coherent h.sender_ne (hsender ▸ hwelcome)
  · obtain rfl := Side.eq_other_of_ne hs
    rw [explorer_deliver_other]
    exact hwelcome

/-- A side at which the other finds a place does not turn it away. -/
theorem Welcomes.not_refuses (hwelcome : x.Welcomes d.side) (h : x.Possible d) :
    ¬ x.Refuses d := by
  rintro ⟨hadmits, hno⟩
  have hsender := h.sender_eq
  have hin := Explorer.established_enroll (e := (x.explorer d.side).withoutPing d.message.id)
    (x.reachable d.side).coherent h.sender_ne (hsender ▸ hwelcome) d.now (x.datagram d).address
  rw [turn, hadmits.perform_eq] at hno
  exact Bool.false_ne_true (hno.symm.trans hin)

theorem Welcomes.after {s : Side} {deliveries : Nat → Delivery} (hwelcome : x.Welcomes s)
    (h : x.Lasts deliveries) (n : Nat) : (x.after deliveries n).Welcomes s := by
  induction n with
  | zero => exact hwelcome
  | succ n ih => exact ih.deliver (h n)

/-- **Deliveries end unless both sides turn each other away again and again.**  However two running
explorers stand to each other and whatever is under way between them, if messages can arrive
without end, then on each side PONGs that should establish the other keep finding no place for it.
In particular deliveries end if one of the two has established the other or has room in the
bucket of the other. -/
theorem deliveries_end (x : Exchange) (deliveries : Nat → Delivery) :
    (x.Lasts deliveries → ∀ s n, ∃ k, n ≤ k ∧ (deliveries k).side = s ∧
      (x.after deliveries k).Refuses (deliveries k)) ∧
    ((∃ s, x.Welcomes s) → ¬ x.Lasts deliveries) := by
  refine ⟨refusals_recur, ?_⟩
  rintro ⟨s, hwelcome⟩ hlasts
  obtain ⟨k, -, hside, hrefuses⟩ := refusals_recur hlasts s 0
  have hplace := hwelcome.after hlasts k
  rw [← hside] at hplace
  exact hplace.not_refuses (hlasts k) hrefuses

end Exchange
end NodeDiscovery
