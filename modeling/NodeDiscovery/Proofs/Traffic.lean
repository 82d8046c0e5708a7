import NodeDiscovery.Proofs.Sending

/-!
# What a call sends and waits for

Every call is a sequence of elementary moves: a message is queued, a request is tracked and
queued, a PING is bound to a node, requests are dropped, or something else changes that is neither
sent nor waited for.  What each move keeps every call keeps, whatever made it.

## Main definitions

* `RequestTracker.Orderly` — the PINGs stand under their own identifiers, one to an address.
* `Explorer.Move`, `Explorer.Moves` — one elementary change, and a sequence of them.

## Main results

* `Explorer.perform_moves` — every call is a sequence of moves.
* `Explorer.Settles.perform_moves` — a call that settles a PING first drops it.
* `Explorer.pending_of_moves` — a PING that is waited for was waited for or has been queued.
-/

namespace NodeDiscovery

/-! ### Pending PINGs -/

namespace RequestTracker

/-- The PINGs under way are in order. -/
structure Orderly (t : RequestTracker) : Prop where
  /-- Each stands under its own identifier. -/
  keyed : ∀ m r, t.pings.get? m = some r → r.id = m
  /-- Each is a PING that asks for a PONG. -/
  asks : ∀ m r, t.pings.get? m = some r → r.message.kind = .ping ∧ r.expects = .pong
  /-- No two go to the same address. -/
  alone : ∀ m m' r r', t.pings.get? m = some r → t.pings.get? m' = some r' →
    r.address = r'.address → m = m'

variable {t : RequestTracker} {a : SocketAddress}

theorem pingTo?_eq_none :
    t.pingTo? a = none ↔ ∀ m r, t.pings.get? m = some r → r.address ≠ a := by
  unfold pingTo?
  rw [List.find?_eq_none]
  constructor
  · intro h m r hr
    simpa using h r (Dict.mem_values.2 ⟨m, hr⟩)
  · intro h r hr
    obtain ⟨m, hm⟩ := Dict.mem_values.1 hr
    simpa using h m r hm

theorem mem_of_pingTo? {r : Request} (h : t.pingTo? a = some r) :
    (∃ m, t.pings.get? m = some r) ∧ r.address = a := by
  unfold pingTo? at h
  exact ⟨Dict.mem_values.1 (List.mem_of_find?_eq_some h), by simpa using List.find?_some h⟩

/-- The only PING to an address is the one that is found. -/
theorem Orderly.pingTo?_eq (h : t.Orderly) {m : MessageId} {r : Request}
    (hr : t.pings.get? m = some r) : t.pingTo? r.address = some r := by
  cases hfind : t.pingTo? r.address with
  | none => exact absurd rfl (pingTo?_eq_none.1 hfind m r hr)
  | some r' =>
    obtain ⟨⟨m', hm'⟩, haddress⟩ := mem_of_pingTo? hfind
    obtain rfl := h.alone m' m r' r hm' hr haddress
    exact hm'.symm.trans hr

/-- PINGs under way to the same address are the same. -/
theorem Orderly.eq_of_address (h : t.Orderly) {m m' : MessageId} {r r' : Request}
    (hr : t.pings.get? m = some r) (hr' : t.pings.get? m' = some r')
    (haddress : r.address = r'.address) : r = r' := by
  have hfound := h.pingTo?_eq hr
  rw [haddress, h.pingTo?_eq hr'] at hfound
  exact (Option.some.inj hfound).symm

theorem get?_bind (id : MessageId) (node : Node) (t : RequestTracker) (m : MessageId) :
    (t.bind id node).pings.get? m =
      if m = id then (t.pings.get? m).map fun r => { r with related := some node }
      else t.pings.get? m :=
  Dict.get?_adjust t.pings id m _

/-- A bound PING is the same PING but for the node it is bound to. -/
theorem get?_of_bind {id m : MessageId} {node : Node} {r : Request}
    (h : (t.bind id node).pings.get? m = some r) :
    ∃ r₀, t.pings.get? m = some r₀ ∧ r₀.message = r.message ∧ r₀.address = r.address ∧
      r₀.expects = r.expects := by
  rw [get?_bind] at h
  split at h
  · obtain ⟨r₀, hr₀, rfl⟩ := Option.map_eq_some_iff.1 h
    exact ⟨r₀, hr₀, rfl, rfl, rfl⟩
  · exact ⟨r, h, rfl, rfl, rfl⟩

theorem orderly_empty : empty.Orderly where
  keyed := fun _ _ h => by cases h
  asks := fun _ _ h => by cases h
  alone := fun _ _ _ _ h => by cases h

/-- PINGs that are, up to what may answer them, among those of an orderly tracker are in order. -/
theorem Orderly.of_subset (h : t.Orderly) {t' : RequestTracker}
    (hsub : ∀ m r, t'.pings.get? m = some r → ∃ r₀, t.pings.get? m = some r₀ ∧
      r₀.message = r.message ∧ r₀.address = r.address ∧ r₀.expects = r.expects) :
    t'.Orderly where
  keyed := by
    intro m r hr
    obtain ⟨r₀, hr₀, hmessage, -, -⟩ := hsub m r hr
    rw [Request.id, ← hmessage]
    exact h.keyed m r₀ hr₀
  asks := by
    intro m r hr
    obtain ⟨r₀, hr₀, hmessage, -, hexpects⟩ := hsub m r hr
    rw [← hmessage, ← hexpects]
    exact h.asks m r₀ hr₀
  alone := by
    intro m m' r r' hr hr' haddress
    obtain ⟨r₀, hr₀, -, hr, -⟩ := hsub m r hr
    obtain ⟨r₀', hr₀', -, hr', -⟩ := hsub m' r' hr'
    exact h.alone m m' r₀ r₀' hr₀ hr₀' (by rw [hr, hr', haddress])

theorem Orderly.trackPing (h : t.Orderly) {r : Request} (hfree : t.pingTo? r.address = none)
    (hkind : r.message.kind = .ping) (hexpects : r.expects = .pong) :
    (t.trackPing r).Orderly := by
  have hget : ∀ m, (t.trackPing r).pings.get? m = if m = r.id then some r else t.pings.get? m :=
    fun m => Dict.get?_insert t.pings m r.id r
  have hother := pingTo?_eq_none.1 hfree
  refine ⟨?_, ?_, ?_⟩
  · intro m r' hr'
    rw [hget] at hr'
    split at hr'
    · next hm => cases hr'; exact hm.symm
    · exact h.keyed m r' hr'
  · intro m r' hr'
    rw [hget] at hr'
    split at hr'
    · cases hr'; exact ⟨hkind, hexpects⟩
    · exact h.asks m r' hr'
  · intro m m' s s' hs hs' haddress
    rw [hget] at hs hs'
    -- The new PING and an earlier one cannot share an address: none was under way there.
    split at hs <;> split at hs'
    · next hm hm' => rw [hm, hm']
    · cases hs; exact absurd haddress.symm (hother m' s' hs')
    · cases hs'; exact absurd haddress (hother m s hs)
    · exact h.alone m m' s s' hs hs' haddress

end RequestTracker

namespace Explorer

/-! ### Moves -/

/-- One elementary change of what an explorer sends and waits for. -/
inductive Move : Explorer → Explorer → Prop where
  /-- Something changes that is neither sent nor waited for. -/
  | silent {e e' : Explorer} (hconfig : e'.config = e.config) (hphase : e'.phase = e.phase)
      (hrequests : e'.requests = e.requests) (houtbox : e'.outbox = e.outbox) : Move e e'
  /-- A PONG is queued. -/
  | pong (e : Explorer) (id : MessageId) (a : SocketAddress) : Move e (e.sendPong id a)
  /-- A NEIGHBORS is queued. -/
  | neighbors (e : Explorer) (id : MessageId) (nodes : List Node) (a : SocketAddress) :
      Move e (e.sendNeighbors id nodes a)
  /-- A PING is tracked and queued, to an address that none is under way to. -/
  | ping (e : Explorer) (now : Timestamp) (a : SocketAddress) (attempt : UInt32)
      (related : Option Node) (hfree : e.requests.pingTo? a = none) :
      Move e (e.sendPing now a attempt related).2
  /-- A FIND_NODE is tracked and queued. -/
  | find (e : Explorer) (now : Timestamp) (a : SocketAddress) (node : Node) :
      Move e (e.sendFindNode now a node)
  /-- A PING under way is bound to a node. -/
  | bind (e : Explorer) (id : MessageId) (node : Node) :
      Move e { e with requests := e.requests.bind id node }
  /-- Requests are no longer waited for. -/
  | drop (e : Explorer) (p q : MessageId → Request → Bool) :
      Move e { e with requests := ⟨e.requests.pings.filter p, e.requests.finds.filter q⟩ }

/-- A sequence of elementary changes. -/
abbrev Moves : Explorer → Explorer → Prop :=
  Relation.ReflTransGen Move

variable {e e' : Explorer}

theorem Sending.move {P : Request → Prop} (h : Sending P e e') : Move e e' := by
  cases h with
  | silent hconfig hphase hrequests houtbox => exact .silent hconfig hphase hrequests houtbox
  | pong id a => exact .pong e id a
  | neighbors id nodes a => exact .neighbors e id nodes a
  | ping now a attempt related hfree => exact .ping e now a attempt related hfree
  | find now a node => exact .find e now a node
  | bind id node => exact .bind e id node

/-- What stops waiting for nothing is a sequence of moves, whatever it sends. -/
theorem moves_of_sendings {P : Request → Prop} (h : Sendings P e e') : e.Moves e' :=
  Relation.ReflTransGen.mono (fun _ _ h => h.move) _ _ h

theorem moves_drop (p q : MessageId → Request → Bool) (e : Explorer) : e.Moves (e.drop p q) :=
  .single (.drop e p q)

/-! ### Single operations -/

theorem moves_silent (hconfig : e'.config = e.config) (hphase : e'.phase = e.phase)
    (hrequests : e'.requests = e.requests) (houtbox : e'.outbox = e.outbox) : e.Moves e' :=
  .single (.silent hconfig hphase hrequests houtbox)

theorem moves_addresses (cache : AddressCache) (e : Explorer) :
    e.Moves { e with addresses := cache } :=
  moves_silent rfl rfl rfl rfl

theorem moves_sendPing (now : Timestamp) (a : SocketAddress) (attempt : UInt32)
    (related : Option Node) (e : Explorer) : e.Moves (e.sendPing now a attempt related).2 :=
  moves_of_sendings (sendings_sendPing (P := fun _ => True) trivial)

theorem moves_pursue (now : Timestamp) (a : SocketAddress) (attempt : UInt32) (c : Challenge)
    (e : Explorer) : e.Moves (e.pursue now a attempt c) :=
  moves_of_sendings (sendings_pursue (P := fun _ => True) trivial)

theorem moves_withoutPing (id : MessageId) (e : Explorer) : e.Moves (e.withoutPing id) := by
  rw [← drop_ping]
  exact moves_drop _ _ e

theorem moves_withoutFind (id : MessageId) (e : Explorer) :
    e.Moves { e with requests := { e.requests with finds := e.requests.finds.erase id } } := by
  rw [← drop_find]
  exact moves_drop _ _ e

theorem moves_forget (id : NodeId) (e : Explorer) : e.Moves (e.forget id) :=
  moves_silent rfl rfl rfl rfl

theorem moves_vacate (node : Node) (e : Explorer) : e.Moves (e.vacate node) :=
  moves_of_sendings (P := fun _ => True) (sendings_vacate node e)

theorem moves_expirePing (now : Timestamp) (request : Request) (e : Explorer) :
    e.Moves (e.expirePing now request) :=
  moves_of_sendings (sendings_expirePing now request e)

theorem moves_expirePings (now : Timestamp) (x : List Request) (e : Explorer) :
    e.Moves (e.expirePings now x) :=
  moves_of_sendings (sendings_expirePings now x e)

/-! ### Calls -/

/-- Every call is a sequence of moves, perhaps after a change of phase; in the end the queued
messages are handed over. -/
theorem perform_moves (bans : Bans) (now : Timestamp) (call : Call) (e : Explorer) :
    ∃ phase e' accepted, Moves { e with phase } e' ∧
      e.perform bans now call = e'.finish accepted := by
  obtain ⟨_, phase, p, q, e', accepted, hsendings, hperform⟩ := perform_sendings bans now call e
  exact ⟨phase, e', accepted, (moves_drop p q _).trans (moves_of_sendings hsendings), hperform⟩

/-- A call that settles a PING first drops it. -/
theorem Settles.perform_moves {e : Explorer} {d : Datagram} {r : Request} (h : e.Settles d r)
    (bans : Bans) (now : Timestamp) :
    ∃ e', (e.withoutPing d.message.id).Moves e' ∧
      e.perform bans now (.receive d) = e'.finish true := by
  rw [perform_receive h.running, h.receive_eq]
  rcases onPong_cases now h.running h.native h.body with ⟨hno, -⟩ | ⟨c, -, hpong⟩ | ⟨-, hpong⟩
  · exact absurd h (hno r)
  · rw [hpong]
    refine ⟨_, ?_, rfl⟩
    exact moves_silent rfl rfl rfl rfl
  · rw [hpong]
    exact ⟨_, moves_of_sendings (sendings_enroll now _ _ _), rfl⟩

/-! ### What moves keep -/

theorem config_of_moves (h : e.Moves e') : e'.config = e.config := by
  induction h with
  | refl => rfl
  | tail _ hmove ih =>
    rw [← ih]
    cases hmove with
    | silent hconfig _ _ _ => exact hconfig
    | ping now a attempt related hfree => rw [sendPing_of_free hfree]
    | _ => rfl

theorem phase_of_moves (h : e.Moves e') : e'.phase = e.phase := by
  induction h with
  | refl => rfl
  | tail _ hmove ih =>
    rw [← ih]
    cases hmove with
    | silent _ hphase _ _ => exact hphase
    | ping now a attempt related hfree => rw [sendPing_of_free hfree]
    | _ => rfl

/-- Moves only add to the queue, and only messages of the explorer itself. -/
theorem outbox_of_moves (h : e.Moves e') :
    ∃ new, e'.outbox = e.outbox ++ new ∧ ∀ d ∈ new, d.message.sender = e.localId := by
  induction h with
  | refl => exact ⟨[], by simp, by simp⟩
  | @tail e₁ e₂ hmoves hmove ih =>
    have hlocal : e₁.localId = e.localId := congrArg Config.localId (config_of_moves hmoves)
    -- One move queues nothing or one message of the explorer itself.
    have hone : ∃ new, e₂.outbox = e₁.outbox ++ new ∧
        ∀ d ∈ new, d.message.sender = e₁.localId := by
      cases hmove with
      | silent _ _ _ houtbox => exact ⟨[], by simp [houtbox], by simp⟩
      | pong id a => exact ⟨[_], rfl, by simp [compose]⟩
      | neighbors id nodes a => exact ⟨[_], rfl, by simp [compose]⟩
      | ping now a attempt related hfree =>
        rw [sendPing_of_free hfree]
        exact ⟨[_], rfl, by simp [nextPing, request, compose]⟩
      | find now a node => exact ⟨[_], rfl, by simp [compose]⟩
      | bind id node => exact ⟨[], by simp, by simp⟩
      | drop p q => exact ⟨[], by simp, by simp⟩
    obtain ⟨new, houtbox, hnew⟩ := ih
    obtain ⟨one, houtbox₁, hone⟩ := hone
    refine ⟨new ++ one, by rw [houtbox₁, houtbox, List.append_assoc], ?_⟩
    intro d hd
    rcases List.mem_append.1 hd with hd | hd
    · exact hnew d hd
    · rw [hone d hd, hlocal]

theorem mem_outbox_of_moves (h : e.Moves e') {d : Datagram} (hd : d ∈ e.outbox) :
    d ∈ e'.outbox := by
  obtain ⟨new, houtbox, -⟩ := outbox_of_moves h
  rw [houtbox]
  exact List.mem_append_left new hd

theorem orderly_of_moves (h : e.Moves e') (horderly : e.requests.Orderly) :
    e'.requests.Orderly := by
  induction h with
  | refl => exact horderly
  | tail _ hmove ih =>
    cases hmove with
    | silent _ _ hrequests _ => rw [hrequests]; exact ih
    | pong | neighbors => exact ih
    | ping now a attempt related hfree =>
      rw [sendPing_of_free hfree]
      exact ih.trackPing hfree rfl rfl
    | find now a node => exact ⟨ih.keyed, ih.asks, ih.alone⟩
    | bind id node => exact ih.of_subset fun m r hr => RequestTracker.get?_of_bind hr
    | drop p q =>
      refine ih.of_subset fun m r hr => ⟨r, ?_, rfl, rfl, rfl⟩
      exact (Dict.get?_filter_eq_some.1 hr).1

/-- A PING that is waited for after some moves was waited for before them, or it has been queued
by them. -/
theorem pending_of_moves (h : e.Moves e') {m : MessageId} {r : Request}
    (hr : e'.requests.pings.get? m = some r) :
    (∃ r₀, e.requests.pings.get? m = some r₀ ∧ r₀.message = r.message ∧ r₀.address = r.address) ∨
    (r.message.id = m ∧ r.message.kind = .ping ∧ ⟨r.message, r.address⟩ ∈ e'.outbox) := by
  induction h generalizing r with
  | refl => exact .inl ⟨r, hr, rfl, rfl⟩
  | @tail e₁ e₂ _ hmove ih =>
    -- Most moves leave what is waited for as it is, and what was queued stays queued.
    have hsame : (∃ r₁, e₁.requests.pings.get? m = some r₁ ∧ r₁.message = r.message ∧
          r₁.address = r.address) →
        (∃ r₀, e.requests.pings.get? m = some r₀ ∧ r₀.message = r.message ∧
          r₀.address = r.address) ∨
        (r.message.id = m ∧ r.message.kind = .ping ∧ ⟨r.message, r.address⟩ ∈ e₂.outbox) := by
      rintro ⟨r₁, hr₁, hmessage, haddress⟩
      rw [← hmessage, ← haddress]
      rcases ih hr₁ with hbefore | ⟨hid, hkind, hqueued⟩
      · exact .inl hbefore
      · exact .inr ⟨hid, hkind, mem_outbox_of_moves (.single hmove) hqueued⟩
    cases hmove with
    | silent _ _ hrequests _ =>
      rw [hrequests] at hr
      exact hsame ⟨r, hr, rfl, rfl⟩
    | pong | neighbors | find => exact hsame ⟨r, hr, rfl, rfl⟩
    | ping now a attempt related hfree =>
      rw [sendPing_of_free hfree] at hsame hr ⊢
      have hr : (e₁.requests.pings.insert _ _).get? m = some r := hr
      rw [Dict.get?_insert] at hr
      split at hr
      · next hm =>
        cases hr
        exact .inr ⟨hm.symm, rfl, List.mem_append_right _ (List.mem_singleton.2 rfl)⟩
      · exact hsame ⟨r, hr, rfl, rfl⟩
    | bind id node =>
      obtain ⟨r₁, hr₁, hmessage, haddress, -⟩ := RequestTracker.get?_of_bind hr
      exact hsame ⟨r₁, hr₁, hmessage, haddress⟩
    | drop p q => exact hsame ⟨r, (Dict.get?_filter_eq_some.1 hr).1, rfl, rfl⟩

/-! ### What calls keep -/

theorem orderly_perform (horderly : e.requests.Orderly) (bans : Bans) (now : Timestamp)
    (call : Call) : (e.perform bans now call).explorer.requests.Orderly := by
  obtain ⟨phase, e', accepted, hmoves, hperform⟩ := perform_moves bans now call e
  rw [hperform]
  show e'.requests.Orderly
  exact orderly_of_moves hmoves horderly

theorem config_perform (bans : Bans) (now : Timestamp) (call : Call) (e : Explorer) :
    (e.perform bans now call).explorer.config = e.config := by
  obtain ⟨phase, e', accepted, hmoves, hperform⟩ := perform_moves bans now call e
  rw [hperform]
  have hconfig := config_of_moves hmoves
  exact hconfig

theorem config_run (occasions : List Occasion) (e : Explorer) :
    (run occasions e).1.config = e.config := by
  induction occasions generalizing e with
  | nil => rfl
  | cons o rest ih =>
    show (run rest (e.perform o.bans o.now o.call).explorer).1.config = e.config
    rw [ih, config_perform]

/-- Hearing a message does not change the phase. -/
theorem phase_receive (bans : Bans) (now : Timestamp) (d : Datagram) (e : Explorer) :
    (e.perform bans now (.receive d)).explorer.phase = e.phase := by
  show (e.whenRunning _).explorer.phase = e.phase
  unfold whenRunning
  split
  · next hrun =>
    obtain ⟨p, q, hsendings, -⟩ := sendings_receive bans now d hrun
    have hphase := phase_of_moves ((moves_drop p q e).trans (moves_of_sendings hsendings))
    exact hphase
  · rfl

/-- The PINGs under way are in order in every reachable state. -/
theorem Reachable.orderly (h : Reachable e) : e.requests.Orderly := by
  induction h with
  | create config system random => exact RequestTracker.orderly_empty
  | perform bans now call _ ih => exact orderly_perform ih bans now call

/-- A call sends only messages of the explorer itself. -/
theorem sender_of_sent (h : e.outbox = []) (bans : Bans) (now : Timestamp) (call : Call) :
    ∀ d ∈ (e.perform bans now call).sent, d.message.sender = e.localId := by
  obtain ⟨phase, e', accepted, hmoves, hperform⟩ := perform_moves bans now call e
  obtain ⟨new, houtbox, hnew⟩ := outbox_of_moves hmoves
  rw [hperform, sent_finish, houtbox, h]
  exact hnew

end Explorer
end NodeDiscovery
