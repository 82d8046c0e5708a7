import NodeDiscovery.Proofs.FiniteMap
import NodeDiscovery.Proofs.Runs
import NodeDiscovery.Proofs.TableEntries

/-!
# What a call does to the peers of an explorer

The registry of an explorer is the part of its state that says who its peers are: the established
nodes, the known hosts and the table.  Sending and tracking messages leave the registry as it is,
and so a call does one of five things to it.  Every invariant of the registry, and every account
of who comes and goes, is a case analysis of these five.

## Main definitions

* `Explorer.registry` — the registry.
* `Explorer.Settles` — a datagram settles a PING that waits for an answer.
* `Explorer.Admits`, `Explorer.Defends` — such an answer is a newcomer's, or the incumbent's of a
  challenge.
* `Explorer.Effect` — the five things that a call can do to the registry.

## Main results

* `Explorer.perform_effect` — every call does one of the five.
* `Explorer.enroll_cases` — what the admission of a peer does to the registry.
-/

namespace NodeDiscovery

/-- What an explorer knows of its peers. -/
structure Registry where
  /-- The settings. -/
  config : Config
  /-- The peers that have answered. -/
  established : Dict NodeId Node
  /-- The peer established last at each endpoint. -/
  knownHosts : Dict String NodeId
  /-- The established peers by distance. -/
  table : DistanceTable

namespace Explorer

/-- What the explorer knows of its peers. -/
def registry (e : Explorer) : Registry :=
  ⟨e.config, e.established, e.knownHosts, e.table⟩

/-- An endpoint without an address leaves the explorer as it is. -/
theorem eq_of_unresolved {e : Explorer} {endpoint : Endpoint} {err : AddressError}
    {cache : AddressCache} (h : e.addresses.resolve endpoint = (.error err, cache)) :
    { e with addresses := cache } = e := by
  rw [AddressCache.cache_of_resolve_error h]

/-! ### Sending leaves the registry as it is -/

theorem foldl_same {α β : Type} {f : Explorer → α → Explorer} (g : Explorer → β)
    (hf : ∀ e a, g (f e a) = g e) (l : List α) (e : Explorer) : g (l.foldl f e) = g e := by
  induction l generalizing e with
  | nil => rfl
  | cons a l ih => rw [List.foldl_cons, ih, hf]

@[simp] theorem registry_sendPing (now : Timestamp) (a : SocketAddress) (attempt : UInt32)
    (related : Option Node) (e : Explorer) :
    (e.sendPing now a attempt related).2.registry = e.registry := by
  unfold sendPing
  split <;> rfl

@[simp] theorem registry_sendPong (id : MessageId) (a : SocketAddress) (e : Explorer) :
    (e.sendPong id a).registry = e.registry := rfl

@[simp] theorem registry_contactQueued (now : Timestamp) (e : Explorer) :
    (e.contactQueued now).registry = e.registry :=
  foldl_same registry (fun e a => registry_sendPing now a 1 none e) _ e

@[simp] theorem registry_learnAll (bans : Bans) (nodes : List Node) (e : Explorer) :
    (e.learnAll bans nodes).registry = e.registry := by
  refine foldl_same registry (fun e node => ?_) nodes e
  unfold learn
  split
  · rfl
  · split
    · rfl
    · dsimp only
      split <;> rfl

@[simp] theorem registry_pursue (now : Timestamp) (a : SocketAddress) (attempt : UInt32)
    (c : Challenge) (e : Explorer) : (e.pursue now a attempt c).registry = e.registry :=
  registry_sendPing now a attempt (some c.incumbent) e

@[simp] theorem registry_challenge (now : Timestamp) (incumbent challenger : Node)
    (e : Explorer) : (e.challenge now incumbent challenger).registry = e.registry := by
  unfold challenge
  split
  · rfl
  · split
    · rw [registry_pursue]; rfl
    · rfl

@[simp] theorem registry_retry (now : Timestamp) (request : Request) (c : Option Challenge)
    (e : Explorer) : (e.retry now request c).registry = e.registry := by
  unfold retry
  cases c with
  | none => exact registry_sendPing now _ _ _ e
  | some c => exact registry_pursue now _ _ c e

@[simp] theorem registry_recheckChallenger (now : Timestamp) (c : Option Challenge)
    (e : Explorer) : (e.recheckChallenger now c).registry = e.registry := by
  unfold recheckChallenger
  split
  · rfl
  · split
    · rw [registry_sendPing]; rfl
    · rfl

@[simp] theorem registry_askAll (now : Timestamp) (nodes : List Node) (e : Explorer) :
    (e.askAll now nodes).registry = e.registry := by
  refine foldl_same registry (fun e node => ?_) nodes e
  unfold ask
  split <;> rfl

@[simp] theorem registry_checkAll (now : Timestamp) (nodes : List Node) (e : Explorer) :
    (e.checkAll now nodes).registry = e.registry := by
  refine foldl_same registry (fun e node => ?_) nodes e
  unfold check
  split
  · rw [registry_sendPing]; rfl
  · rfl

@[simp] theorem registry_explore (now : Timestamp) (e : Explorer) :
    (e.explore now).registry = e.registry := by
  unfold explore
  dsimp only
  rw [registry_checkAll]
  show (Explorer.askAll _ _ _).registry = _
  rw [registry_askAll]
  rfl

/-! ### What changes the registry depends on the registry alone -/

theorem registry_forget_congr {e e' : Explorer} (h : e.registry = e'.registry) (id : NodeId) :
    (e.forget id).registry = (e'.forget id).registry := by
  simp only [registry, forget, Registry.mk.injEq] at h ⊢
  obtain ⟨hc, he, hk, ht⟩ := h
  rw [hc, he, hk, ht]
  exact ⟨rfl, rfl, rfl, rfl⟩

theorem registry_forgetAll_congr (ids : List NodeId) {e e' : Explorer}
    (h : e.registry = e'.registry) :
    (ids.foldl (fun e id => e.forget id) e).registry
      = (ids.foldl (fun e id => e.forget id) e').registry := by
  induction ids generalizing e e' with
  | nil => exact h
  | cons id ids ih => exact ih (registry_forget_congr h id)

theorem registry_refreshPeer_congr {e e' : Explorer} (h : e.registry = e'.registry)
    (id : NodeId) (now : Timestamp) :
    (e.refreshPeer id now).registry = (e'.refreshPeer id now).registry := by
  have he : e.established = e'.established := congrArg Registry.established h
  simp only [registry, Registry.mk.injEq] at h
  obtain ⟨hc, -, hk, ht⟩ := h
  unfold refreshPeer
  rw [he]
  split <;> simp only [registry, hc, he, hk, ht]

theorem registry_vacate_congr {e e' : Explorer} (h : e.registry = e'.registry) (node : Node) :
    (e.vacate node).registry = (e'.vacate node).registry := by
  have hc : e.config = e'.config := congrArg Registry.config h
  have hk : e.knownHosts = e'.knownHosts := congrArg Registry.knownHosts h
  unfold vacate
  rw [hc, hk]
  split
  · exact h
  · split
    · split
      · exact h
      · exact registry_forget_congr h _
    · exact h

theorem registry_establish_congr {e e' : Explorer} (h : e.registry = e'.registry) (node : Node)
    (table : DistanceTable) :
    (e.establish node table).registry = (e'.establish node table).registry := by
  simp only [registry, Registry.mk.injEq] at h
  obtain ⟨hc, he, hk, -⟩ := h
  simp only [registry, establish, hostsWithoutEarlier, hc, he, hk]

theorem registry_place_congr {e e' : Explorer} (h : e.registry = e'.registry) (now : Timestamp)
    (node : Node) : (e.place now node).registry = (e'.place now node).registry := by
  have ht : e.table = e'.table := congrArg Registry.table h
  have hwith : ∀ table, registry { e with table } = registry { e' with table } :=
    fun table => congrArg (fun r : Registry => { r with table }) h
  unfold place
  rw [ht]
  split
  · rw [registry_challenge, registry_challenge, hwith]
  · exact registry_establish_congr h node _
  · exact registry_establish_congr h node _
  · exact hwith _

theorem registry_enroll_congr {e e' : Explorer} (h : e.registry = e'.registry) (now : Timestamp)
    (id : NodeId) (a : SocketAddress) :
    (e.enroll now id a).registry = (e'.enroll now id a).registry := by
  have hc : e.localId = e'.localId := congrArg (fun r => r.config.localId) h
  unfold enroll
  rw [hc]
  split
  · exact h
  · exact registry_place_congr (registry_vacate_congr h _) now _

/-! ### The admission of a peer -/

/-- Vacating an endpoint gives up another peer there, or nobody. -/
theorem vacate_cases (node : Node) (e : Explorer) :
    e.vacate node = e ∨ ∃ prior, e.config.allowMultiple = false ∧
      e.knownHosts.get? node.endpoint.key = some prior ∧ prior ≠ node.id ∧
      e.vacate node = e.forget prior := by
  unfold vacate
  cases hm : e.config.allowMultiple with
  | true => exact .inl rfl
  | false =>
    cases hk : e.knownHosts.get? node.endpoint.key with
    | none => exact .inl rfl
    | some prior =>
      by_cases hp : prior = node.id
      · exact .inl (by simp [hp])
      · exact .inr ⟨prior, rfl, rfl, hp, by simp [hp]⟩

/-- A peer takes its place in the table, or the registry stays as it is. -/
theorem place_cases (now : Timestamp) (node : Node) (e : Explorer) :
    (e.place now node).registry = e.registry ∨
    ∃ o table, e.table.add node now = (.ok o, table) ∧ o.isSuccess = true ∧
      e.place now node = e.establish node table := by
  unfold place
  rcases h : e.table.add node now with ⟨_ | o, table⟩
  · -- A node that cannot be added leaves the table as it is.
    rw [DistanceTable.table_of_error h]
    exact .inl rfl
  · cases o with
    | conflict incumbent =>
      obtain rfl := DistanceTable.table_of_conflict h
      exact .inl (registry_challenge now incumbent node e)
    | added => exact .inr ⟨.added, table, rfl, rfl, rfl⟩
    | refreshed => exact .inr ⟨.refreshed, table, rfl, rfl, rfl⟩

/-- What the admission of a peer does to the registry: nothing for the explorer itself; otherwise
the endpoint of the peer is vacated, and if there is a place the peer is established. -/
theorem enroll_cases (now : Timestamp) (id : NodeId) (a : SocketAddress) (e : Explorer) :
    (id = e.localId ∧ e.enroll now id a = e) ∨
    (id ≠ e.localId ∧
      (e.enroll now id a).registry = (e.vacate ⟨id, .ofAddress a⟩).registry) ∨
    (id ≠ e.localId ∧ ∃ o table,
      (e.vacate ⟨id, .ofAddress a⟩).table.add ⟨id, .ofAddress a⟩ now = (.ok o, table) ∧
      o.isSuccess = true ∧
      e.enroll now id a = (e.vacate ⟨id, .ofAddress a⟩).establish ⟨id, .ofAddress a⟩ table) := by
  unfold enroll
  by_cases hid : id = e.localId
  · exact .inl ⟨hid, if_pos hid⟩
  · rw [if_neg hid]
    rcases place_cases now ⟨id, .ofAddress a⟩ (e.vacate ⟨id, .ofAddress a⟩) with h | h
    · exact .inr (.inl ⟨hid, h⟩)
    · exact .inr (.inr ⟨hid, h⟩)

/-! ### Answers to PINGs -/

/-- A datagram settles a PING that waits for an answer: it is a PONG, the explorer listens to it,
and it is the answer that the PING asks for. -/
structure Settles (e : Explorer) (d : Datagram) (r : Request) : Prop where
  /-- The explorer handles messages. -/
  running : e.phase = .running
  /-- The message belongs to the network of the explorer. -/
  native : e.isForeign d.message = false
  /-- The message is a PONG. -/
  body : d.message.body = .pong
  /-- The PING waits for its answer. -/
  pending : e.requests.pings.get? d.message.id = some r
  /-- The message is the answer. -/
  accepts : r.accepts d.address d.message = true

/-- A datagram settles a PING that no challenge depends on, so that its sender is admitted. -/
def Admits (e : Explorer) (d : Datagram) : Prop :=
  (∃ r, e.Settles d r) ∧ e.challenges.get? d.message.id = none

/-- A datagram settles the PING of a challenge, so that the incumbent keeps its place. -/
def Defends (e : Explorer) (d : Datagram) (c : Challenge) : Prop :=
  (∃ r, e.Settles d r) ∧ e.challenges.get? d.message.id = some c

/-- The answer comes from where the PING was sent. -/
theorem Settles.address_eq {e : Explorer} {d : Datagram} {r : Request} (h : e.Settles d r) :
    r.address = d.address := by
  have haccepts := h.accepts
  simp only [Request.accepts, Bool.and_eq_true, decide_eq_true_eq] at haccepts
  exact haccepts.1.2.symm

/-- The PING is bound to nobody else than the sender of the answer. -/
theorem Settles.mayAnswer {e : Explorer} {d : Datagram} {r : Request} (h : e.Settles d r) :
    r.mayAnswer d.message.sender = true := by
  have haccepts := h.accepts
  simp only [Request.accepts, Bool.and_eq_true] at haccepts
  exact haccepts.2

/-- The explorer without the PING that a message answers. -/
def withoutPing (id : MessageId) (e : Explorer) : Explorer :=
  { e with requests := { e.requests with pings := e.requests.pings.erase id } }

@[simp] theorem registry_withoutPing (id : MessageId) (e : Explorer) :
    (e.withoutPing id).registry = e.registry := rfl

section Take

variable {p p' : PendingRequests} {t t' : RequestTracker} {source : SocketAddress} {m : Message}
  {r : Request}

/-- A request is taken out by an answer that it accepts. -/
theorem take_eq_some :
    PendingRequests.take source m p = (some r, p') ↔
      p.get? m.id = some r ∧ r.accepts source m = true ∧ p' = p.erase m.id := by
  unfold PendingRequests.take
  constructor
  · intro h
    split at h
    · next hr =>
      split at h
      · next haccepts => cases h; exact ⟨hr, haccepts, rfl⟩
      · cases h
    · cases h
  · rintro ⟨hr, haccepts, rfl⟩
    simp only [hr, haccepts, if_true]

/-- Any other message takes none out, and all stay as they are. -/
theorem take_eq_none :
    PendingRequests.take source m p = (none, p') ↔
      (∀ r, p.get? m.id = some r → r.accepts source m = false) ∧ p' = p := by
  unfold PendingRequests.take
  rw [eq_comm (a := p')]
  cases hr : p.get? m.id with
  | none => simp
  | some r => cases haccepts : r.accepts source m <;> simp [haccepts]

/-- The same of what the requests that are left are part of. -/
theorem map_take_eq_some {β : Type} (f : PendingRequests → β) {b : β} :
    (PendingRequests.take source m p).map id f = (some r, b) ↔
      p.get? m.id = some r ∧ r.accepts source m = true ∧ b = f (p.erase m.id) := by
  rcases htake : PendingRequests.take source m p with ⟨found, p'⟩
  rw [Prod.map_apply, Prod.mk.injEq]
  constructor
  · rintro ⟨rfl, rfl⟩
    obtain ⟨hr, haccepts, rfl⟩ := take_eq_some.1 htake
    exact ⟨hr, haccepts, rfl⟩
  · rintro ⟨hr, haccepts, rfl⟩
    cases htake.symm.trans (take_eq_some.2 ⟨hr, haccepts, rfl⟩)
    exact ⟨rfl, rfl⟩

theorem map_take_eq_none {β : Type} (f : PendingRequests → β) {b : β} :
    (PendingRequests.take source m p).map id f = (none, b) ↔
      (∀ r, p.get? m.id = some r → r.accepts source m = false) ∧ b = f p := by
  rcases htake : PendingRequests.take source m p with ⟨found, p'⟩
  rw [Prod.map_apply, Prod.mk.injEq]
  constructor
  · rintro ⟨rfl, rfl⟩
    obtain ⟨hnone, rfl⟩ := take_eq_none.1 htake
    exact ⟨hnone, rfl⟩
  · rintro ⟨hnone, rfl⟩
    cases htake.symm.trans (take_eq_none.2 ⟨hnone, rfl⟩)
    exact ⟨rfl, rfl⟩

theorem takePing_eq_some :
    t.takePing source m = (some r, t') ↔ t.pings.get? m.id = some r ∧ r.accepts source m = true ∧
      t' = { t with pings := t.pings.erase m.id } :=
  map_take_eq_some fun pings => ({ t with pings } : RequestTracker)

theorem takePing_eq_none :
    t.takePing source m = (none, t') ↔
      (∀ r, t.pings.get? m.id = some r → r.accepts source m = false) ∧ t' = t :=
  map_take_eq_none fun pings => ({ t with pings } : RequestTracker)

theorem takeFind_eq_some :
    t.takeFind source m = (some r, t') ↔ t.finds.get? m.id = some r ∧ r.accepts source m = true ∧
      t' = { t with finds := t.finds.erase m.id } :=
  map_take_eq_some fun finds => ({ t with finds } : RequestTracker)

theorem takeFind_eq_none :
    t.takeFind source m = (none, t') ↔
      (∀ r, t.finds.get? m.id = some r → r.accepts source m = false) ∧ t' = t :=
  map_take_eq_none fun finds => ({ t with finds } : RequestTracker)

end Take

/-- A PONG is ignored, defends the incumbent of a challenge or admits its sender. -/
theorem onPong_cases {e : Explorer} {d : Datagram} (now : Timestamp)
    (hrun : e.phase = .running) (hnative : e.isForeign d.message = false)
    (hbody : d.message.body = .pong) :
    ((∀ r, ¬ e.Settles d r) ∧ e.onPong now d.address d.message = e) ∨
    (∃ c, e.Defends d c ∧ e.onPong now d.address d.message =
      { e.withoutPing d.message.id with
        challenges := e.challenges.erase d.message.id
        table := (e.table.refresh c.incumbent now).2 }) ∨
    (e.Admits d ∧ e.onPong now d.address d.message =
      (e.withoutPing d.message.id).enroll now d.message.sender d.address) := by
  unfold onPong
  rcases htake : e.requests.takePing d.address d.message with ⟨found, requests⟩
  cases found with
  | none =>
    obtain ⟨hnone, rfl⟩ := takePing_eq_none.1 htake
    refine .inl ⟨fun r h => ?_, rfl⟩
    have haccepts := h.accepts
    rw [hnone r h.pending] at haccepts
    cases haccepts
  | some r =>
    obtain ⟨hget, hacc, rfl⟩ := takePing_eq_some.1 htake
    have hsettles : e.Settles d r := ⟨hrun, hnative, hbody, hget, hacc⟩
    dsimp only
    cases hc : e.challenges.get? d.message.id with
    | some c => exact .inr (.inl ⟨c, ⟨⟨r, hsettles⟩, hc⟩, rfl⟩)
    | none =>
      refine .inr (.inr ⟨⟨⟨r, hsettles⟩, hc⟩, ?_⟩)
      dsimp only
      rw [hsettles.address_eq]
      rfl

/-- A running explorer hears a message of its own network. -/
theorem perform_receive {e : Explorer} {d : Datagram} (hrun : e.phase = .running)
    (bans : Bans) (now : Timestamp) :
    e.perform bans now (.receive d) = (e.receive bans now d).finish true := by
  show e.whenRunning _ = _
  unfold whenRunning
  rw [if_pos hrun]

theorem Settles.receive_eq {e : Explorer} {d : Datagram} {r : Request} (h : e.Settles d r)
    (bans : Bans) (now : Timestamp) :
    e.receive bans now d = e.onPong now d.address d.message := by
  unfold receive
  rw [h.native, h.body]
  rfl

/-- What the answer of an incumbent does: its challenge is settled, and the table stores it as the
challenge found it. -/
theorem Defends.perform_eq {e : Explorer} {d : Datagram} {c : Challenge} (h : e.Defends d c)
    (bans : Bans) (now : Timestamp) :
    e.perform bans now (.receive d) = finish true
      { e.withoutPing d.message.id with
        challenges := e.challenges.erase d.message.id
        table := (e.table.refresh c.incumbent now).2 } := by
  obtain ⟨⟨r, hr⟩, hc⟩ := h
  rw [perform_receive hr.running, hr.receive_eq]
  rcases onPong_cases now hr.running hr.native hr.body with ⟨hno, -⟩ | ⟨c', hc', h⟩ | ⟨ha, -⟩
  · exact absurd hr (hno r)
  · obtain rfl : c' = c := Option.some.inj (hc'.2.symm.trans hc)
    rw [h]
  · rw [ha.2] at hc
    cases hc

/-- What the answer of a newcomer does: it is admitted. -/
theorem Admits.perform_eq {e : Explorer} {d : Datagram} (h : e.Admits d) (bans : Bans)
    (now : Timestamp) :
    e.perform bans now (.receive d)
      = ((e.withoutPing d.message.id).enroll now d.message.sender d.address).finish true := by
  obtain ⟨⟨r, hr⟩, hc⟩ := h
  rw [perform_receive hr.running, hr.receive_eq]
  rcases onPong_cases now hr.running hr.native hr.body with ⟨hno, -⟩ | ⟨c', hc', -⟩ | ⟨-, h⟩
  · exact absurd hr (hno r)
  · rw [hc'.2] at hc
    cases hc
  · rw [h]

/-! ### The five effects of a call -/

/-- What a call can do to the registry of an explorer. -/
inductive Effect (e : Explorer) (now : Timestamp) : Call → Registry → Prop where
  /-- Nothing. -/
  | none (call : Call) : Effect e now call e.registry
  /-- The sender of a message is marked as seen now, if it is established. -/
  | seen (d : Datagram) :
      Effect e now (.receive d) (e.refreshPeer d.message.sender now).registry
  /-- The incumbent of a challenge has answered. -/
  | defended (d : Datagram) (c : Challenge) (h : e.Defends d c) :
      Effect e now (.receive d)
        { e.registry with table := (e.table.refresh c.incumbent now).2 }
  /-- The sender of a message has answered a PING and is admitted. -/
  | admitted (d : Datagram) (h : e.Admits d) :
      Effect e now (.receive d) (e.enroll now d.message.sender d.address).registry
  /-- Peers that did not answer are given up. -/
  | gaveUp (ties : List MessageId) (ids : List NodeId) :
      Effect e now (.clean ties) (ids.foldl (fun e id => e.forget id) e).registry

theorem registry_onPing (now : Timestamp) (source : SocketAddress) (m : Message) (e : Explorer) :
    (e.onPing now source m).registry = (e.refreshPeer m.sender now).registry := by
  unfold onPing
  dsimp only
  split
  · exact registry_refreshPeer_congr (registry_sendPong m.id source e) m.sender now
  · next h =>
    have hnone : e.established.get? m.sender = none := by
      rw [Bool.not_eq_true] at h
      exact Dict.contains_eq_false.1 h
    rw [registry_sendPing, registry_sendPong, refreshPeer, hnone]

theorem registry_onFindNode (now : Timestamp) (m : Message) (target : NodeId) (e : Explorer) :
    (e.onFindNode now m target).registry = e.registry ∨
      (e.onFindNode now m target).registry = (e.refreshPeer m.sender now).registry := by
  unfold onFindNode refreshPeer
  split
  · exact .inl rfl
  · next requester hget =>
    split
    · exact .inl rfl
    · refine .inr ?_
      rw [hget]
      rfl

theorem registry_onNeighbors (bans : Bans) (now : Timestamp) (source : SocketAddress)
    (m : Message) (nodes : List Node) (e : Explorer) :
    (e.onNeighbors bans now source m nodes).registry = (e.refreshPeer m.sender now).registry := by
  unfold onNeighbors
  dsimp only
  refine registry_refreshPeer_congr ?_ m.sender now
  split
  · rfl
  · rw [registry_contactQueued, registry_learnAll]
    rfl

/-- The peers given up while PINGs expire. -/
theorem registry_expirePings (now : Timestamp) (expired : List Request) (e : Explorer) :
    ∃ ids : List NodeId,
      (e.expirePings now expired).registry
        = (ids.foldl (fun e id => e.forget id) e).registry := by
  unfold expirePings
  induction expired generalizing e with
  | nil => exact ⟨[], rfl⟩
  | cons r expired ih =>
    -- What the later PINGs give up depends on the registry alone, so it may be given up from `e`.
    obtain ⟨ids, hids⟩ := ih (e.expirePing now r)
    rw [List.foldl_cons, hids]
    -- One PING that has expired gives up its node or nobody.
    have hone : (e.expirePing now r).registry = e.registry ∨
        ∃ id, (e.expirePing now r).registry = (e.forget id).registry := by
      unfold expirePing
      dsimp only
      split
      · rw [registry_retry]; exact .inl rfl
      · rw [registry_recheckChallenger, giveUp]
        split
        · exact .inr ⟨_, registry_forget_congr rfl _⟩
        · exact .inl rfl
    rcases hone with h | ⟨id, h⟩
    · exact ⟨ids, registry_forgetAll_congr ids h⟩
    · exact ⟨id :: ids, registry_forgetAll_congr ids h⟩

/-- Every call does one of the five things to the registry. -/
theorem perform_effect (bans : Bans) (now : Timestamp) (call : Call) (e : Explorer) :
    e.Effect now call (e.perform bans now call).explorer.registry := by
  cases call with
  | start contact =>
    have h : (e.perform bans now (.start contact)).explorer.registry = e.registry := by
      show (e.start contact now).explorer.registry = _
      unfold start
      split
      · cases contact with
        | false => rfl
        | true => exact registry_contactQueued now _
      · rfl
    rw [h]
    exact .none _
  | dispose =>
    have h : (e.perform bans now .dispose).explorer.registry = e.registry := by
      show e.dispose.explorer.registry = _
      unfold dispose
      split <;> rfl
    rw [h]
    exact .none _
  | receive d =>
    show e.Effect now _ (e.whenRunning _).explorer.registry
    unfold whenRunning
    split
    · next hrun =>
      show e.Effect now _ (e.receive bans now d).registry
      unfold receive
      split
      · exact .none _
      · next hnative =>
        rw [Bool.not_eq_true] at hnative
        split
        · rw [registry_onPing]; exact .seen d
        · next hbody =>
          rcases onPong_cases now hrun hnative hbody with ⟨-, h⟩ | ⟨c, hc, h⟩ | ⟨ha, h⟩
          · rw [h]; exact .none _
          · rw [h]; exact .defended d c hc
          · -- The registry does not see that the PING is used up.
            rw [h, registry_enroll_congr (registry_withoutPing d.message.id e)]
            exact .admitted d ha
        · rcases registry_onFindNode now d.message _ e with h | h
          · rw [h]; exact .none _
          · rw [h]; exact .seen d
        · rw [registry_onNeighbors]; exact .seen d
    · exact .none _
  | clean ties =>
    show e.Effect now _ (e.whenRunning _).explorer.registry
    unfold whenRunning
    split
    · show e.Effect now _ (e.purge now ties).registry
      obtain ⟨ids, hids⟩ := registry_expirePings now (e.requests.drainPings now ties).1
        { e with requests := (e.requests.drainPings now ties).2 }
      have h : (e.purge now ties).registry = (ids.foldl (fun e id => e.forget id) e).registry :=
        hids.trans (registry_forgetAll_congr ids rfl)
      rw [h]
      exact .gaveUp ties ids
    · exact .none _
  | update =>
    show e.Effect now _ (e.whenRunning _).explorer.registry
    unfold whenRunning
    split
    · show e.Effect now _ (e.explore now).registry
      rw [registry_explore]
      exact .none _
    · exact .none _

end Explorer
end NodeDiscovery
