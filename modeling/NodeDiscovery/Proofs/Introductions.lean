import NodeDiscovery.Proofs.Contacting
import NodeDiscovery.Proofs.Noise

/-!
# Whom a NEIGHBORS makes an explorer contact

A peer that has been asked for nodes may list whatever it likes.  Of its list no more nodes count
than a message may list, and of these only such as are neither the explorer itself nor banned and
have an address that is known without a look-up and is not banned.  Their addresses join the queue,
where an address stands once, and everything in the queue is contacted.  What is remembered of
addresses changes with each node, but never so that another address is found for a later one.

## Main definitions

* `AddressCache.Finds` — an address is found for an endpoint.
* `Explorer.MayContact` — a node that is listed may be contacted at an address.
* `Explorer.Learned` — what becomes of the queue when nodes are listed.

## Main results

* `AddressCache.Faithful.finds_of_resolve` — finding an address adds nothing to what is found.
* `Explorer.learned_learnAll` — nobody is queued who may not be, and nobody is left out.
* `Explorer.neighbors_contacted` — what a NEIGHBORS comes to, for every state of every run.
-/

namespace NodeDiscovery

/-! ### What is found for an endpoint -/

namespace AddressCache

/-- An address is found for an endpoint. -/
def Finds (c : AddressCache) (endpoint : Endpoint) (a : SocketAddress) : Prop :=
  ∃ cache, c.resolve endpoint = (.ok a, cache)

variable {c cache : AddressCache} {endpoint : Endpoint} {a b : SocketAddress}

/-- No other address is found for the same endpoint. -/
theorem Finds.unique (h : c.Finds endpoint a) (h' : c.Finds endpoint b) : a = b := by
  obtain ⟨cache, hcache⟩ := h
  obtain ⟨cache', hcache'⟩ := h'
  rw [hcache] at hcache'
  cases hcache'
  rfl

/-- What is found is what is held, or what the host is the text of. -/
theorem Faithful.finds_iff (h : c.Faithful) :
    c.Finds endpoint a ↔ c.find? endpoint.key = some a ∨
      ∃ ip, IpAddress.parse? endpoint.host = some ip ∧ a = .ofIp ip endpoint.port := by
  unfold Finds AddressCache.resolve
  cases hheld : c.find? endpoint.key with
  | some held =>
    constructor
    · rintro ⟨cache, hcache⟩
      cases hcache
      exact .inl rfl
    · rintro (hsame | ⟨ip, hip, rfl⟩)
      · cases hsame
        exact ⟨_, rfl⟩
      · obtain rfl := h endpoint ip held hip hheld
        exact ⟨_, rfl⟩
  | none =>
    cases hip : IpAddress.parse? endpoint.host with
    | some ip => simp [eq_comm]
    | none => simp

/-- To find an address is to record it. -/
theorem eq_record_of_resolve (hresolve : c.resolve endpoint = (.ok a, cache)) :
    cache = c.record endpoint.key a := by
  unfold resolve at hresolve
  split at hresolve
  · cases hresolve
    rfl
  · split at hresolve
    · cases hresolve
      rfl
    · cases hresolve

/-- Once an address has been found, nothing is found that was not found before. -/
theorem Faithful.finds_of_resolve (h : c.Faithful)
    (hresolve : c.resolve endpoint = (.ok a, cache)) {endpoint' : Endpoint}
    (hfinds : cache.Finds endpoint' b) : c.Finds endpoint' b := by
  -- An answer that is held now is the new one or was held before; a text needs no answer.
  rcases (h.resolve hresolve).finds_iff.1 hfinds with hheld | hip
  · rw [eq_record_of_resolve hresolve] at hheld
    rcases find?_record hheld with ⟨hkey, rfl⟩ | hheld
    · obtain rfl := Endpoint.key_injective hkey
      exact ⟨cache, hresolve⟩
    · exact h.finds_iff.2 (.inl hheld)
  · exact h.finds_iff.2 (.inr hip)

end AddressCache

namespace Explorer

/-- A node that is listed may be contacted at an address. -/
structure MayContact (e : Explorer) (bans : Bans) (n : Node) (a : SocketAddress) : Prop where
  /-- It is not the explorer itself. -/
  other : n.id ≠ e.localId
  /-- The node is not banned. -/
  node : bans.node n.id = false
  /-- This address is found for it. -/
  found : e.addresses.Finds n.endpoint a
  /-- The IP address is not banned. -/
  ip : bans.ip a.ip = false

/-- What becomes of the queue when some nodes are listed. -/
structure Learned (bans : Bans) (nodes : List Node) (e e' : Explorer) : Prop where
  /-- The settings stay. -/
  config : e'.config = e.config
  /-- The PINGs under way stay. -/
  pings : e'.requests.pings = e.requests.pings
  /-- Nothing is sent. -/
  outbox : e'.outbox = e.outbox
  /-- What is remembered for the text of an IP address is this address. -/
  faithful : e'.addresses.Faithful
  /-- No address is found that was not found before. -/
  finds : ∀ endpoint a, e'.addresses.Finds endpoint a → e.addresses.Finds endpoint a
  /-- What was queued stays queued. -/
  kept : ∀ a ∈ e.bootNodes.toList, a ∈ e'.bootNodes.toList
  /-- Whatever is new may be contacted. -/
  sound : ∀ a ∈ e'.bootNodes.toList, a ∈ e.bootNodes.toList ∨ ∃ n ∈ nodes, e.MayContact bans n a
  /-- A node whose host is the text of an IP address is queued if it may be contacted there. -/
  complete : ∀ n ∈ nodes, ∀ ip, IpAddress.parse? n.endpoint.host = some ip →
    e.MayContact bans n (.ofIp ip n.endpoint.port) → .ofIp ip n.endpoint.port ∈ e'.bootNodes.toList
  /-- The queue grows by one for each node at most. -/
  length_le : e'.bootNodes.toList.length ≤ e.bootNodes.toList.length + nodes.length

variable {drawn : List MessageId} {e e₁ e₂ : Explorer} {bans : Bans} {now : Timestamp}
  {n : Node} {nodes nodes' : List Node} {a : SocketAddress} {d : Datagram}

/-! ### One node after the other -/

theorem MayContact.of_finds (h : e₁.MayContact bans n a) (hconfig : e₁.config = e.config)
    (hfound : e.addresses.Finds n.endpoint a) : e.MayContact bans n a :=
  ⟨fun hid => h.other (hid.trans (congrArg Config.localId hconfig).symm), h.node, hfound, h.ip⟩

/-- A node that is listed is queued if it may be contacted. -/
theorem learn_cases (bans : Bans) (n : Node) (e : Explorer) :
    (∃ a cache, e.MayContact bans n a ∧ e.addresses.resolve n.endpoint = (.ok a, cache) ∧
      e.learn bans n = { e with addresses := cache, bootNodes := e.bootNodes.insert a }) ∨
    (∀ a, ¬ e.MayContact bans n a) ∧ (e.learn bans n = e ∨
      ∃ a cache, e.addresses.resolve n.endpoint = (.ok a, cache) ∧
        e.learn bans n = { e with addresses := cache }) := by
  unfold learn
  split
  · next hbarred =>
    refine .inr ⟨fun a h => ?_, .inl rfl⟩
    rcases hbarred with hid | hbanned
    · exact h.other hid
    · exact Bool.false_ne_true (h.node.symm.trans hbanned)
  · next hadmitted =>
    obtain ⟨hother, hnode⟩ := not_or.1 hadmitted
    split
    · next err cache hresolve =>
      refine .inr ⟨fun a h => ?_, .inl (eq_of_unresolved hresolve)⟩
      obtain ⟨cache, hcache⟩ := h.found
      rw [hresolve] at hcache
      cases hcache
    · next a cache hresolve =>
      dsimp only
      split
      · next hbanned =>
        refine .inr ⟨fun b h => ?_, .inr ⟨a, cache, hresolve, rfl⟩⟩
        obtain rfl := h.found.unique ⟨cache, hresolve⟩
        exact Bool.false_ne_true (h.ip.symm.trans hbanned)
      · next hip =>
        refine .inl ⟨a, cache, ?_, hresolve, rfl⟩
        exact ⟨hother, Bool.eq_false_iff.2 hnode, ⟨cache, hresolve⟩, Bool.eq_false_iff.2 hip⟩

theorem learned_learn (hfaithful : e.addresses.Faithful) (bans : Bans) (n : Node) :
    Learned bans [n] e (e.learn bans n) := by
  rcases learn_cases bans n e with
    ⟨a, cache, hmay, hresolve, h⟩ | ⟨hnot, h | ⟨a, cache, hresolve, h⟩⟩ <;> rw [h]
  · refine ⟨rfl, rfl, rfl, hfaithful.resolve hresolve,
      fun _ _ => hfaithful.finds_of_resolve hresolve, fun b hb => AddressSet.mem_insert.2 (.inr hb),
      fun b hb => ?_, fun n' hn' ip hip hmay' => ?_, AddressSet.length_insert_le e.bootNodes a⟩
    · rcases AddressSet.mem_insert.1 hb with rfl | hb
      · exact .inr ⟨n, List.mem_singleton_self n, hmay⟩
      · exact .inl hb
    · obtain rfl := List.mem_singleton.1 hn'
      exact AddressSet.mem_insert.2 (.inl (hmay'.found.unique hmay.found))
  · refine ⟨rfl, rfl, rfl, hfaithful, fun _ _ => id, fun _ => id, fun _ => .inl,
      fun n' hn' ip _ hmay' => ?_, Nat.le_succ _⟩
    exact absurd (List.mem_singleton.1 hn' ▸ hmay') (hnot _)
  · refine ⟨rfl, rfl, rfl, hfaithful.resolve hresolve,
      fun _ _ => hfaithful.finds_of_resolve hresolve, fun _ => id, fun _ => .inl,
      fun n' hn' ip _ hmay' => ?_, Nat.le_succ _⟩
    obtain rfl := List.mem_singleton.1 hn'
    exact absurd hmay' (hnot _)

/-- Nodes that are listed one after the other are listed together. -/
theorem Learned.trans (h : Learned bans nodes e e₁) (h' : Learned bans nodes' e₁ e₂) :
    Learned bans (nodes ++ nodes') e e₂ := by
  refine ⟨h'.config.trans h.config, h'.pings.trans h.pings, h'.outbox.trans h.outbox,
    h'.faithful, fun endpoint a hfinds => h.finds endpoint a (h'.finds endpoint a hfinds),
    fun a ha => h'.kept a (h.kept a ha), ?_, ?_, ?_⟩
  · intro a ha
    rcases h'.sound a ha with ha | ⟨n, hn, hmay⟩
    · refine (h.sound a ha).imp_right ?_
      rintro ⟨n, hn, hmay⟩
      exact ⟨n, List.mem_append_left _ hn, hmay⟩
    · exact .inr ⟨n, List.mem_append_right _ hn,
        hmay.of_finds h.config (h.finds _ _ hmay.found)⟩
  · -- What has been forgotten since does not matter for the text of an IP address.
    intro n hn ip hip hmay
    rcases List.mem_append.1 hn with hn | hn
    · exact h'.kept _ (h.complete n hn ip hip hmay)
    · refine h'.complete n hn ip hip (hmay.of_finds h.config.symm ?_)
      exact h.faithful.finds_iff.2 (.inr ⟨ip, hip, rfl⟩)
  · have hone := h.length_le
    have htwo := h'.length_le
    rw [List.length_append]
    omega

/-- Of the nodes that are listed nobody is queued who may not be contacted, and nobody is left out
whose address is plain. -/
theorem learned_learnAll (hfaithful : e.addresses.Faithful) (bans : Bans) (nodes : List Node) :
    Learned bans nodes e (e.learnAll bans nodes) := by
  induction nodes generalizing e with
  | nil =>
    exact ⟨rfl, rfl, rfl, hfaithful, fun _ _ => id, fun _ => id, fun _ => .inl,
      fun _ hn => absurd hn List.not_mem_nil, Nat.le_refl _⟩
  | cons n nodes ih =>
    have hone := learned_learn hfaithful bans n
    exact hone.trans (ih hone.faithful)

/-- Contacting the queue that is made in this way leaves nothing in it. -/
theorem Learned.contacted (h : Learned bans nodes e e₁) (hrecorded : e.Recorded drawn)
    (hfresh : (e₁.contactQueued now).Fresh drawn) :
    (∃ pings, Contacted now e₁.bootNodes.toList pings e (e₁.contactQueued now)) ∧
      (e₁.contactQueued now).bootNodes = .empty := by
  have hrecorded₁ : e₁.Recorded drawn := by
    intro m p hp
    rw [h.pings] at hp
    rw [issued, h.outbox]
    exact hrecorded m p hp
  have haddresses : e₁.requests.pingAddresses = e.requests.pingAddresses := by
    rw [RequestTracker.pingAddresses, h.pings, RequestTracker.pingAddresses]
  obtain ⟨⟨pings, hcontacted⟩, hempty⟩ := contacted_contactQueued hrecorded₁ hfresh
  refine ⟨⟨pings, ?_, ?_, hcontacted.first, ?_⟩, hempty⟩
  · rw [hcontacted.outbox, h.outbox]
  · rw [hcontacted.addresses, haddresses]
  · intro m p
    rw [hcontacted.pending, h.pings]

/-! ### The answer as a whole -/

theorem Genuine.exists_asks_iff (h : e.Genuine) :
    (∃ r ∈ e.requests.finds.values, r.Asks d) ↔
      ∃ r, e.requests.finds.get? d.message.id = some r ∧ r.accepts d.address d.message = true := by
  constructor
  · rintro ⟨r, hr, hasks⟩
    obtain ⟨m, hm⟩ := Dict.mem_values.1 hr
    have hid : r.id = m := congrArg Message.id (h.find m r hm).1
    exact ⟨r, by rw [hasks.id, hid, hm], Request.accepts_iff.2 hasks⟩
  · rintro ⟨r, hr, haccepts⟩
    exact ⟨r, Dict.mem_values.2 ⟨_, hr⟩, Request.accepts_iff.1 haccepts⟩

/-- A NEIGHBORS that was asked for lists nodes, and then the queue is contacted. -/
theorem onNeighbors_of_asked (hgenuine : e.Genuine) (hfaithful : e.addresses.Faithful)
    (hasked : ∃ r ∈ e.requests.finds.values, r.Asks d) (bans : Bans) (now : Timestamp)
    (nodes : List Node) :
    ∃ e₁, Learned bans (nodes.take e.config.maxNodesPerMessage) e e₁ ∧
      e.onNeighbors bans now d.address d.message nodes
        = (e₁.contactQueued now).refreshPeer d.message.sender now := by
  obtain ⟨r, hr, haccepts⟩ := hgenuine.exists_asks_iff.1 hasked
  let asked : Explorer :=
    { e with requests := { e.requests with finds := e.requests.finds.erase d.message.id } }
  have htake : e.requests.takeFind d.address d.message = (some r, asked.requests) :=
    takeFind_eq_some.2 ⟨hr, haccepts, rfl⟩
  have hnone : Learned bans [] e asked := ⟨rfl, rfl, rfl, hfaithful, fun _ _ => id, fun _ => id,
    fun _ => .inl, fun _ hn => absurd hn List.not_mem_nil, Nat.le_refl _⟩
  refine ⟨_, hnone.trans (learned_learnAll (e := asked) hfaithful bans _), ?_⟩
  rw [onNeighbors, htake]

theorem bootNodes_refreshPeer (id : NodeId) (now : Timestamp) (e : Explorer) :
    (e.refreshPeer id now).bootNodes = e.bootNodes := by
  unfold refreshPeer
  split <;> rfl

theorem perform_neighbors (hrun : e.phase = .running) (hnative : e.isForeign d.message = false)
    (hbody : d.message.body = .neighbors nodes) (bans : Bans) (now : Timestamp) :
    e.perform bans now (.receive d)
      = (e.onNeighbors bans now d.address d.message nodes).finish true := by
  rw [perform_receive hrun, receive, if_neg (by rw [hnative]; exact Bool.false_ne_true), hbody]

/-- A NEIGHBORS that was asked for ends with an empty queue: the first of the nodes that it lists
have been learned, and whatever was queued then has been contacted. -/
theorem perform_neighbors_of_asked (hreachable : Reachable e) (hrun : e.phase = .running)
    (hnative : e.isForeign d.message = false) (hbody : d.message.body = .neighbors nodes)
    (hnew : (e.requests.pings.keys
      ++ requestIds (e.perform bans now (.receive d)).sent).Nodup)
    (hasked : ∃ r ∈ e.requests.finds.values, r.Asks d) :
    ∃ e₁ pings, Learned bans (nodes.take e.config.maxNodesPerMessage) e e₁ ∧
      Contacted now e₁.bootNodes.toList pings e (e₁.contactQueued now) ∧
      (e.perform bans now (.receive d)).sent = pings.map Request.datagram ∧
      (e.perform bans now (.receive d)).explorer.requests = (e₁.contactQueued now).requests ∧
      (e.perform bans now (.receive d)).explorer.bootNodes = .empty := by
  obtain ⟨e₁, hlearned, hafter⟩ := onNeighbors_of_asked hreachable.genuine
    hreachable.located.faithful hasked bans now nodes
  have hturn := perform_neighbors hrun hnative hbody bans now
  rw [hafter] at hturn
  obtain ⟨hout, hrequests, -⟩ := refreshPeer_frame d.message.sender now (e₁.contactQueued now)
  have hfresh : (e₁.contactQueued now).Fresh e.requests.pings.keys := by
    rw [hturn, sent_finish, hout] at hnew
    exact hnew
  obtain ⟨⟨pings, hcontacted⟩, hempty⟩ := hlearned.contacted (recorded_keys e) hfresh
  refine ⟨e₁, pings, hlearned, hcontacted, ?_, ?_, ?_⟩
  · rw [hturn, sent_finish, hout, hcontacted.outbox, hreachable.outbox_eq, List.nil_append]
  · rw [hturn]
    exact hrequests
  · rw [hturn]
    exact (bootNodes_refreshPeer _ _ _).trans hempty

/-- **A NEIGHBORS brings in nobody who may not be contacted, and loses nobody who may.**  Whatever
running state a run leads to, whatever is banned and whatever list a NEIGHBORS of the own network
has: if no FIND_NODE asks for it, nothing is sent and the queue stays as it is.  If one does, the
queue is empty afterwards, and PINGs have been sent, to different addresses that none was under way
to, and no more than a message may list nodes besides those queued before.  Each goes to an address
that was queued, or to one at which a node may be contacted that is among the first of the list, as
many as a message may list.  If the PINGs have identifiers of their own, one is under way then to
every address that was queued, and to every one of these first nodes whose host is the text of an IP
address, unless it is the explorer itself or is banned or the IP address is. -/
theorem neighbors_contacted (config : Config) (system : SystemLookup) (random : RandomSource)
    (occasions : List Occasion) (bans : Bans) (now : Timestamp) (d : Datagram)
    (nodes : List Node) :
    let e := (run occasions (create config system random)).1
    let turn := e.perform bans now (.receive d)
    let listed := nodes.take config.maxNodesPerMessage
    e.phase = .running → e.isForeign d.message = false → d.message.body = .neighbors nodes →
    (e.requests.pings.keys ++ requestIds turn.sent).Nodup →
    ((∀ r ∈ e.requests.finds.values, ¬ r.Asks d) →
      turn.sent = [] ∧ turn.explorer.bootNodes = e.bootNodes) ∧
    ((∃ r ∈ e.requests.finds.values, r.Asks d) →
      turn.explorer.bootNodes = .empty ∧
      turn.sent.length ≤ config.maxNodesPerMessage + e.bootNodes.toList.length ∧
      (turn.sent.map Datagram.address).Nodup ∧
      (∀ s ∈ turn.sent, s.message.kind = .ping ∧ s.address ∉ e.requests.pingAddresses ∧
        (s.address ∈ e.bootNodes.toList ∨ ∃ n ∈ listed, e.MayContact bans n s.address)) ∧
      (∀ a ∈ e.bootNodes.toList, a ∈ turn.explorer.requests.pingAddresses) ∧
      ∀ n ∈ listed, ∀ ip, IpAddress.parse? n.endpoint.host = some ip → n.id ≠ config.localId →
        bans.node n.id = false → bans.ip ip = false →
        .ofIp ip n.endpoint.port ∈ turn.explorer.requests.pingAddresses) := by
  intro e turn listed hrun hnative hbody hnew
  have hreachable : Reachable e := (Reachable.create config system random).run occasions
  have hconfig : e.config = config := config_run occasions _
  refine ⟨fun hunasked => ?_, fun hasked => ?_⟩
  · have hturn : turn = (e.refreshPeer d.message.sender now).finish true := by
      rw [← onNeighbors_of_unasked (accepts_of_unasked hunasked) bans now nodes]
      exact perform_neighbors hrun hnative hbody bans now
    rw [hturn]
    refine ⟨?_, bootNodes_refreshPeer _ _ _⟩
    exact (refreshPeer_frame d.message.sender now e).1.trans hreachable.outbox_eq
  · obtain ⟨e₁, pings, hlearned, hcontacted, hsent, hwaiting, hempty⟩ :=
      perform_neighbors_of_asked hreachable hrun hnative hbody hnew hasked
    rw [hconfig] at hlearned
    have hlearned : Learned bans listed e e₁ := hlearned
    have hsent : turn.sent = pings.map Request.datagram := hsent
    have hwaiting : turn.explorer.requests = (e₁.contactQueued now).requests := hwaiting
    refine ⟨hempty, ?_, ?_, ?_, ?_, ?_⟩
    · have hlisted : listed.length ≤ config.maxNodesPerMessage := List.length_take_le _ _
      have hqueue := hlearned.length_le
      have hpings := hcontacted.length_le
      rw [hsent, List.length_map]
      omega
    · have haddresses : turn.sent.map Datagram.address = pings.map Request.address := by
        rw [hsent, List.map_map]
        rfl
      rw [haddresses]
      exact hcontacted.nodup_addresses e₁.bootNodes.nodup_toList
    · intro s hs
      rw [hsent] at hs
      obtain ⟨p, hp, rfl⟩ := List.mem_map.1 hs
      obtain ⟨hqueued, hfree⟩ := hcontacted.address_of_mem hp
      exact ⟨(hcontacted.first p hp).1, hfree, hlearned.sound _ hqueued⟩
    · intro a ha
      rw [hwaiting]
      exact hcontacted.mem_pingAddresses (hlearned.kept a ha)
    · -- The text of an IP address is found whatever is remembered.
      intro n hn ip hip hother hnode hallowed
      rw [hwaiting]
      refine hcontacted.mem_pingAddresses (hlearned.complete n hn ip hip ?_)
      refine ⟨fun hid => hother (hid.trans (congrArg Config.localId hconfig)), hnode, ?_, ?_⟩
      · exact hreachable.located.faithful.finds_iff.2 (.inr ⟨ip, hip, rfl⟩)
      · rw [SocketAddress.ip_ofIp]
        exact hallowed

open Sample in
/-- An address is queued, and a peer that has been asked lists the explorer itself, a node that is
banned, and one that is not. -/
theorem listed_node_is_contacted :
    let config := { Sample.config 0 3 with bootstrapNodes := ["10.0.0.9:30303"] }
    let occasions : List Occasion := [⟨.none, .ofMillis 0, .start false⟩, pinged 0x80 1,
      ponged 0x80 1 (messageId 0 0), updates]
    let bans : Bans := ⟨fun _ => false, fun id => decide (id = nodeId 0x20)⟩
    let nodes : List Node := [⟨nodeId 0, .ofAddress (address 3)⟩,
      ⟨nodeId 0x20, .ofAddress (address 5)⟩, ⟨nodeId 0x40, .ofAddress (address 4)⟩]
    let d : Datagram := ⟨⟨messageId 0 1, nodeId 0x80, some 0, .neighbors nodes⟩, address 1⟩
    let e := (run occasions (create config (fun _ => none) (source 0))).1
    let turn := e.perform bans (.ofMillis 1) (.receive d)
    e.phase = .running ∧ e.isForeign d.message = false ∧
      (e.requests.pings.keys ++ requestIds turn.sent).Nodup ∧
      (∃ r ∈ e.requests.finds.values, r.Asks d) ∧ e.bootNodes.toList = [address 9] ∧
      turn.sent.length = 2 ∧ turn.explorer.bootNodes = .empty ∧
      address 9 ∈ turn.explorer.requests.pingAddresses ∧
      address 4 ∈ turn.explorer.requests.pingAddresses := by
  intro config occasions bans nodes d e turn
  have hrun : e.phase = .running := by decide +kernel
  have hnative : e.isForeign d.message = false := by decide +kernel
  have hnew : (e.requests.pings.keys ++ requestIds turn.sent).Nodup := by decide +kernel
  have hasked : ∃ r ∈ e.requests.finds.values, r.Asks d := by decide +kernel
  have hqueued : e.bootNodes.toList = [address 9] := by decide +kernel
  obtain ⟨hempty, -, -, -, hold, hlisted⟩ := (neighbors_contacted config (fun _ => none) (source 0)
    occasions bans (.ofMillis 1) d nodes hrun hnative rfl hnew).2 hasked
  have hnine : address 9 ∈ e.bootNodes.toList := by
    rw [hqueued]
    exact List.mem_singleton_self _
  have hfour := hlisted ⟨nodeId 0x40, .ofAddress (address 4)⟩ (by decide +kernel) (address 4).ip
    (IpAddress.parse?_text _) (by decide) (by decide) rfl
  have hsame : SocketAddress.ofIp (address 4).ip (Endpoint.ofAddress (address 4)).port
      = address 4 := rfl
  rw [hsame] at hfour
  refine ⟨hrun, hnative, hnew, hasked, hqueued, by decide +kernel, ?_⟩
  -- To compare the statements the run need not be evaluated.
  with_reducible exact ⟨hempty, hold _ hnine, hfour⟩

end Explorer
end NodeDiscovery
