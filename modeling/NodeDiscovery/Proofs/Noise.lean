import NodeDiscovery.Proofs.Answering

/-!
# Messages that leave no trace

Anybody can send anything to an explorer: messages of other networks, answers that nobody has asked
for or that come from elsewhere, questions of strangers.  Such a message is not only left
unanswered.  It takes nothing out, lets nobody count as seen, is not remembered and uses up no
random word, so that a run is the same with it and without it.

## Main definitions

* `Request.Asks` — a request asks for a datagram.
* `Explorer.Mismatch` — the messages that an explorer has no use for.

## Main results

* `Explorer.Mismatch.receive_eq` — hearing one changes nothing.
* `Explorer.run_unmarked` — so a run may as well do without them.
* `Explorer.noise_leaves_no_trace` — both, for every state of every run.
-/

namespace NodeDiscovery

/-- A request asks for a datagram: it has the identifier and the kind of the answer, and comes from
where the request went and, if the request is bound to a node, from this node. -/
structure Request.Asks (r : Request) (d : Datagram) : Prop where
  /-- The identifier ties it to the request. -/
  id : d.message.id = r.id
  /-- It is of the kind that the request expects. -/
  kind : d.message.kind = r.expects
  /-- It comes from where the request went. -/
  address : d.address = r.address
  /-- It comes from the node that the request is bound to. -/
  sender : ∀ n, r.related = some n → n.id = d.message.sender

theorem Request.accepts_iff {r : Request} {d : Datagram} :
    r.accepts d.address d.message = true ↔ r.Asks d := by
  have hsender : r.mayAnswer d.message.sender = true ↔
      ∀ n, r.related = some n → n.id = d.message.sender := by
    unfold mayAnswer
    cases r.related <;> simp
  simp only [accepts, Bool.and_eq_true, decide_eq_true_eq, hsender]
  constructor
  · rintro ⟨⟨⟨hid, hkind⟩, haddress⟩, hsender⟩
    exact ⟨hid, hkind, haddress, hsender⟩
  · rintro ⟨hid, hkind, haddress, hsender⟩
    exact ⟨⟨⟨hid, hkind⟩, haddress⟩, hsender⟩

instance (r : Request) (d : Datagram) : Decidable (r.Asks d) :=
  decidable_of_iff _ Request.accepts_iff

namespace Explorer

/-- The messages that an explorer has no use for. -/
inductive Mismatch (e : Explorer) (d : Datagram) : Prop where
  /-- It says that it belongs to another network. -/
  | foreign {network : UInt32} (hnetwork : d.message.network = some network)
      (hother : network ≠ e.config.networkId)
  /-- It is a PONG that no PING asks for. -/
  | pong (hbody : d.message.body = .pong) (hunasked : ∀ r ∈ e.requests.pings.values, ¬ r.Asks d)
  /-- It is the FIND_NODE of somebody who is not established. -/
  | findNode {target : NodeId} (hbody : d.message.body = .findNode target)
      (hstranger : e.established.contains d.message.sender = false)
  /-- It is a NEIGHBORS that no FIND_NODE asks for, of somebody who is not established. -/
  | neighbors {nodes : List Node} (hbody : d.message.body = .neighbors nodes)
      (hunasked : ∀ r ∈ e.requests.finds.values, ¬ r.Asks d)
      (hstranger : e.established.contains d.message.sender = false)

variable {e : Explorer} {d : Datagram}

/-! ### One message -/

/-- What no request asks for no request accepts. -/
theorem accepts_of_unasked {p : PendingRequests} (hunasked : ∀ r ∈ p.values, ¬ r.Asks d)
    (r : Request) (hr : p.get? d.message.id = some r) : r.accepts d.address d.message = false := by
  rw [Bool.eq_false_iff, ne_eq, Request.accepts_iff]
  exact hunasked r (Dict.mem_values.2 ⟨d.message.id, hr⟩)

/-- Hearing a message that an explorer has no use for changes nothing. -/
theorem Mismatch.receive_eq (h : e.Mismatch d) (bans : Bans) (now : Timestamp) :
    e.receive bans now d = e := by
  cases hnative : e.isForeign d.message with
  | true => exact receive_foreign hnative bans now
  | false =>
    cases h with
    | foreign hnetwork hother => simp [isForeign, hnetwork, hother] at hnative
    | pong hbody hunasked =>
      rw [receive_pong hnative (by rw [Message.kind, hbody])]
      exact onPong_of_unasked (accepts_of_unasked hunasked) now
    | findNode hbody hstranger =>
      obtain ⟨target, hreceive⟩ := receive_findNode hnative (by rw [Message.kind, hbody]) bans now
      rw [hreceive, onFindNode_of_stranger (Dict.contains_eq_false.1 hstranger)]
    | neighbors hbody hunasked hstranger =>
      obtain ⟨nodes, hreceive⟩ := receive_neighbors hnative (by rw [Message.kind, hbody]) bans now
      rw [hreceive, onNeighbors_of_unasked (accepts_of_unasked hunasked),
        refreshPeer_of_stranger (Dict.contains_eq_false.1 hstranger)]

/-- Between two calls nothing is left of it: the explorer is the same and sends nothing. -/
theorem Mismatch.perform_eq (h : e.Mismatch d) (hrun : e.phase = .running)
    (houtbox : e.outbox = []) (bans : Bans) (now : Timestamp) :
    e.perform bans now (.receive d) = ⟨e, [], true⟩ := by
  have hkept : { e with outbox := [] } = e := by rw [← houtbox]
  rw [perform_receive hrun, h.receive_eq, finish, hkept, houtbox]

/-- An explorer that is not running does not listen at all. -/
theorem perform_receive_of_not_running (hrun : e.phase ≠ .running) (houtbox : e.outbox = [])
    (bans : Bans) (now : Timestamp) : e.perform bans now (.receive d) = ⟨e, [], false⟩ := by
  have hkept : { e with outbox := [] } = e := by rw [← houtbox]
  show e.whenRunning _ = _
  rw [whenRunning, if_neg hrun, finish, hkept, houtbox]

/-! ### Runs -/

/-- What is not marked, in its order. -/
def unmarked {α : Type} (l : List (α × Bool)) : List α :=
  (l.filter fun x => !x.2).map Prod.fst

/-- A call is a message that the explorer has no use for, or does not listen to. -/
def Idle (e : Explorer) (o : Occasion) : Prop :=
  ∃ d, o.call = .receive d ∧ (e.phase = .running → e.Mismatch d)

theorem Idle.perform_eq {o : Occasion} (h : e.Idle o) (houtbox : e.outbox = []) :
    (e.perform o.bans o.now o.call).explorer = e ∧ (e.perform o.bans o.now o.call).sent = [] := by
  obtain ⟨d, hcall, hmismatch⟩ := h
  rw [hcall]
  by_cases hrun : e.phase = .running
  · rw [(hmismatch hrun).perform_eq hrun houtbox]
    exact ⟨rfl, rfl⟩
  · rw [perform_receive_of_not_running hrun houtbox]
    exact ⟨rfl, rfl⟩

/-- A run may as well do without the marked calls if they are idle when they are made. -/
theorem run_unmarked {calls : List (Occasion × Bool)} (houtbox : e.outbox = [])
    (hidle : ∀ i o, calls[i]? = some (o, true) → (stateAt (calls.map Prod.fst) e i).Idle o) :
    (run (calls.map Prod.fst) e).1 = (run (unmarked calls) e).1 ∧
    unmarked ((run (calls.map Prod.fst) e).2.zip (calls.map Prod.snd))
      = (run (unmarked calls) e).2 ∧
    ∀ i o, calls[i]? = some (o, true) → sentAt (calls.map Prod.fst) e i = [] := by
  induction calls generalizing e with
  | nil => exact ⟨rfl, rfl, fun i o ho => by cases ho⟩
  | cons call calls ih =>
    obtain ⟨o, marked⟩ := call
    obtain ⟨hstate, hsent, hnone⟩ := ih (outbox_perform o.bans o.now o.call e)
      fun i o' ho' => hidle (i + 1) o' ho'
    cases marked with
    | false =>
      refine ⟨hstate, congrArg (List.cons _) hsent, fun i o' ho' => ?_⟩
      cases i with
      | zero => cases ho'
      | succ i => exact hnone i o' ho'
    | true =>
      have hhere : e.Idle o := hidle 0 o rfl
      obtain ⟨hsame, hsilent⟩ := hhere.perform_eq houtbox
      refine ⟨?_, ?_, fun i o' ho' => ?_⟩
      · show (run (calls.map Prod.fst) (e.perform o.bans o.now o.call).explorer).1 = _
        rw [hstate, hsame]
        rfl
      · show unmarked ((run (calls.map Prod.fst) (e.perform o.bans o.now o.call).explorer).2.zip
          (calls.map Prod.snd)) = _
        rw [hsent, hsame]
        rfl
      · cases i with
        | zero => exact hsilent
        | succ i => exact hnone i o' ho'

/-- **Messages that an explorer has no use for leave no trace.**  In whatever running state a run
leads to, a message of another network, a PONG that no PING asks for, the FIND_NODE of a stranger or
a NEIGHBORS of a stranger that no FIND_NODE asks for is left unanswered, and the explorer is exactly
what it was: what it waits for, its challenges, its peers with their order and the times at which
they were seen, what it remembers, the addresses that it means to contact and its source of random
words.  So if any calls of a run are such messages, the run without them leads to the same state,
and each of its calls sends what it sends with them. -/
theorem noise_leaves_no_trace (config : Config) (system : SystemLookup) (random : RandomSource) :
    let start := create config system random
    (∀ occasions bans now d, let e := (run occasions start).1
      e.phase = .running → e.Mismatch d → e.perform bans now (.receive d) = ⟨e, [], true⟩) ∧
    ∀ calls : List (Occasion × Bool),
      (∀ i o, calls[i]? = some (o, true) → (stateAt (calls.map Prod.fst) start i).Idle o) →
      (run (calls.map Prod.fst) start).1 = (run (unmarked calls) start).1 ∧
      unmarked ((run (calls.map Prod.fst) start).2.zip (calls.map Prod.snd))
        = (run (unmarked calls) start).2 ∧
      ∀ i o, calls[i]? = some (o, true) → sentAt (calls.map Prod.fst) start i = [] := by
  intro start
  have hstart : Reachable start := .create config system random
  refine ⟨?_, fun calls hidle => run_unmarked hstart.outbox_eq hidle⟩
  intro occasions bans now d e hrun hmismatch
  exact hmismatch.perform_eq hrun (hstart.run occasions).outbox_eq bans now

open Sample in
/-- A peer is established, and meanwhile four messages are heard that leave no trace: a PING of
another network, the PONG that is expected but from elsewhere, and the question and the answer of a
stranger. -/
theorem noise_during_handshake :
    let elsewhere : Datagram := ⟨⟨messageId 0 0, nodeId 0x80, some 0, .pong⟩, address 2⟩
    let calls : List (Occasion × Bool) := [(starts, false), (pinged 0x80 1, false),
      (⟨.none, .ofMillis 0, .receive ⟨⟨.nil, nodeId 0x90, some 7, .ping ⟨"", 0⟩⟩, address 5⟩⟩,
        true),
      (⟨.none, .ofMillis 0, .receive elsewhere⟩, true),
      (hears 0x90 5 .nil (.findNode (nodeId 0)), true),
      (ponged 0x80 1 (messageId 0 0), false), (hears 0x90 5 .nil (.neighbors []), true),
      (updates, false)]
    let noisy := run (calls.map Prod.fst) (explorer 0 3)
    let quiet := run [starts, pinged 0x80 1, ponged 0x80 1 (messageId 0 0), updates] (explorer 0 3)
    let e := (run [starts, pinged 0x80 1] (explorer 0 3)).1
    noisy.1 = quiet.1 ∧ noisy.1.established.contains (nodeId 0x80) = true ∧
    unmarked (noisy.2.zip (calls.map Prod.snd)) = quiet.2 ∧ noisy.2.flatten.length = 4 ∧
    e.requests.pings.contains elsewhere.message.id = true ∧
    e.perform .none (.ofMillis 0) (.receive elsewhere) = ⟨e, [], true⟩ := by
  intro elsewhere calls noisy quiet e
  have hidle : ∀ i o, calls[i]? = some (o, true) →
      (stateAt (calls.map Prod.fst) (explorer 0 3) i).Idle o := by
    intro i o ho
    rcases i with _ | _ | _ | _ | _ | _ | _ | _ | i <;> cases ho
    · exact ⟨_, rfl, fun _ => .foreign rfl (by decide +kernel)⟩
    · exact ⟨_, rfl, fun _ => .pong rfl (by decide +kernel)⟩
    · exact ⟨_, rfl, fun _ => .findNode rfl (by decide +kernel)⟩
    · exact ⟨_, rfl, fun _ => .neighbors rfl (by decide +kernel) (by decide +kernel)⟩
  obtain ⟨hone, hrun⟩ := noise_leaves_no_trace (Sample.config 0 3) (fun _ => none) (source 0)
  obtain ⟨hstate, hsent, -⟩ := hrun calls hidle
  refine ⟨hstate, by decide +kernel, hsent, by decide +kernel, by decide +kernel, ?_⟩
  exact hone [starts, pinged 0x80 1] .none (.ofMillis 0) elsewhere (by decide +kernel)
    (.pong rfl (by decide +kernel))

end Explorer
end NodeDiscovery
