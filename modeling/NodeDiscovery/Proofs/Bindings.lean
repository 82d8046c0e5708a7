import NodeDiscovery.Proofs.AddressMemory
import NodeDiscovery.Proofs.Expiring

/-!
# Whom a PING is bound to

A PING is bound to a node of the table, to check whether it is there, or to the incumbent of a
challenge, which has been in the table.  Such a node was established once, and the PING goes to
where it was: the endpoint of an observed address leads back to it, and a PING that is sent in place
of one that has expired goes to the same address.  The peer may have moved since.

## Main definitions

* `Node.ReachedAt` — the address at which a node is reached.
* `Request.BoundTo` — the node that a request is bound to is reached where the request went.
* `Explorer.Keeps` — what an explorer keeps of its peers satisfies a property.
* `Explorer.Stood` — a node was established at some time of a run.

## Main results

* `Explorer.Deed.keeps`, `Explorer.keeps_expirePing` — what a deed keeps, and what the end of a PING
  does.
* `Explorer.keeps_stateAt` — what an explorer keeps of its peers was established.
-/

namespace NodeDiscovery

/-- The address is that of the endpoint of the node, and has no scope. -/
def Node.ReachedAt (n : Node) (a : SocketAddress) : Prop :=
  n.endpoint = .ofAddress a ∧ a = .ofIp a.ip a.port

/-- The node that a request is bound to satisfies `S` and is reached where the request went. -/
def Request.BoundTo (S : Node → Prop) (r : Request) : Prop :=
  ∀ n, r.related = some n → S n ∧ n.ReachedAt r.address

/-- A node at the endpoint of an address is reached at this address without its scope. -/
theorem Node.reachedAt_ofIp {n : Node} {a : SocketAddress} (h : n.endpoint = .ofAddress a) :
    n.ReachedAt (.ofIp a.ip a.port) := by
  refine ⟨?_, by simp⟩
  rw [h, Endpoint.ofAddress, Endpoint.ofAddress, SocketAddress.ip_ofIp, SocketAddress.port_ofIp]

/-- Nodes with one endpoint are reached at one address. -/
theorem Node.ReachedAt.address_eq {n n' : Node} {a a' : SocketAddress} (h : n.ReachedAt a)
    (h' : n'.ReachedAt a') (hsame : n.endpoint = n'.endpoint) : a = a' := by
  have hboth : Endpoint.ofAddress a = Endpoint.ofAddress a' := by rw [← h.1, ← h'.1, hsame]
  have htext : a.ip.text = a'.ip.text := congrArg Endpoint.host hboth
  -- The text of an IP address determines it.
  have hip : a.ip = a'.ip := by
    rw [← Option.some.injEq, ← IpAddress.parse?_text, ← IpAddress.parse?_text a'.ip, htext]
  have hport : a.port = a'.port := congrArg Endpoint.port hboth
  rw [h.2, h'.2, hip, hport]

/-- The incumbent of a conflict is a node of the table. -/
theorem DistanceTable.node?_of_conflict {t t' : DistanceTable} (ht : t.Sound)
    {node incumbent : Node} {now : Timestamp}
    (hadd : t.add node now = (.ok (.conflict incumbent), t')) :
    t.node? incumbent.id = some incumbent := by
  obtain ⟨-, -, -, holdest, -⟩ := add_eq_conflict_iff.1 hadd
  obtain ⟨entry, hentry, rfl⟩ := Bucket.mem_of_oldest? holdest
  exact (mem_nodes ht).1 (List.mem_map.2 ⟨entry, mem_entries.2 ⟨_, hentry⟩, rfl⟩)

namespace Explorer

/-- All nodes that an explorer keeps satisfy `S`, and PINGs that are bound to a node went to where
it is reached, also the expired PINGs `x` that have been taken out. -/
structure Keeps (S : Node → Prop) (x : List Request) (e : Explorer) : Prop where
  /-- What is remembered for the text of an IP address is this address. -/
  faithful : e.addresses.Faithful
  /-- The established peers. -/
  established : ∀ id n, e.established.get? id = some n → S n
  /-- The nodes of the table. -/
  table : ∀ id n, e.table.node? id = some n → S n
  /-- The incumbents of challenges. -/
  incumbents : ∀ m c, e.challenges.get? m = some c → S c.incumbent
  /-- The nodes that PINGs are bound to. -/
  bound : ∀ m r, e.requests.pings.get? m = some r → r.BoundTo S
  /-- The nodes that expired PINGs are bound to. -/
  expired : ∀ r ∈ x, r.BoundTo S

variable {S S' N : Node → Prop} {x : List Request} {e e' : Explorer} {now : Timestamp}
  {drawn ties : List MessageId}

theorem Keeps.mono (h : e.Keeps S x) (hS : ∀ n, S n → S' n) : e.Keeps S' x where
  faithful := h.faithful
  established := fun id n hn => hS n (h.established id n hn)
  table := fun id n hn => hS n (h.table id n hn)
  incumbents := fun m c hc => hS c.incumbent (h.incumbents m c hc)
  bound := fun m r hr n hn => ⟨hS n (h.bound m r hr n hn).1, (h.bound m r hr n hn).2⟩
  expired := fun r hr n hn => ⟨hS n (h.expired r hr n hn).1, (h.expired r hr n hn).2⟩

/-! ### Deeds -/

theorem keeps_consult (h : e.Keeps S x) {endpoint : Endpoint} {a : SocketAddress}
    {cache : AddressCache} (hresolve : e.addresses.resolve endpoint = (.ok a, cache)) :
    Keeps S x { e with addresses := cache } :=
  ⟨h.faithful.resolve hresolve, h.established, h.table, h.incumbents, h.bound, h.expired⟩

/-- A node that is kept at the endpoint of an address is reached where its endpoint leads to. -/
theorem Keeps.reached (h : e.Keeps S x) (hS : ∀ n, S n → ∃ a, n.endpoint = .ofAddress a)
    {node : Node} (hnode : S node) {a : SocketAddress} {cache : AddressCache}
    (hresolve : e.addresses.resolve node.endpoint = (.ok a, cache)) :
    S node ∧ node.ReachedAt a := by
  obtain ⟨b, hb⟩ := hS node hnode
  rw [hb, h.faithful.resolve_ofAddress] at hresolve
  cases hresolve
  exact ⟨hnode, Node.reachedAt_ofIp hb⟩

theorem keeps_sendPing (h : e.Keeps S x) {a : SocketAddress} {attempt : UInt32}
    {related : Option Node} (hrelated : ∀ n, related = some n → S n ∧ n.ReachedAt a) :
    (e.sendPing now a attempt related).2.Keeps S x := by
  cases hpending : e.requests.pingTo? a with
  | some r => rw [sendPing_of_pending hpending]; exact h
  | none =>
    rw [sendPing_of_free hpending]
    refine ⟨h.faithful, h.established, h.table, h.incumbents, ?_, h.expired⟩
    intro m r hr
    have hr : (e.requests.pings.insert _ _).get? m = some r := hr
    rw [Dict.get?_insert] at hr
    split at hr
    · cases hr
      exact hrelated
    · exact h.bound m r hr

/-- The PING under way to an address may be bound to an incumbent that is reached there. -/
theorem keeps_pursue (h : e.Keeps S x) (horderly : e.requests.Orderly) {a : SocketAddress}
    {attempt : UInt32} {c : Challenge} (hc : S c.incumbent ∧ c.incumbent.ReachedAt a) :
    (e.pursue now a attempt c).Keeps S x := by
  have h₁ : (e.sendPing now a attempt (some c.incumbent)).2.Keeps S x := by
    refine keeps_sendPing h fun n hn => ?_
    cases hn
    exact hc
  obtain ⟨p, haddress, hrelated, hpings⟩ := pings_pursue horderly now a attempt c
  refine ⟨h₁.faithful, h₁.established, h₁.table, ?_, ?_, h.expired⟩
  · intro m c' hc'
    rw [challenges_pursue] at hc'
    split at hc'
    · cases hc'
      exact hc.1
    · exact h.incumbents m c' hc'
  · intro m r hr
    rw [hpings] at hr
    split at hr
    · cases hr
      intro n hn
      rw [hrelated] at hn
      cases hn
      exact ⟨hc.1, haddress ▸ hc.2⟩
    · exact h₁.bound m r hr

theorem keeps_withoutChallenge (h : e.Keeps S x) (m : MessageId) :
    (e.withoutChallenge m).Keeps S x := by
  refine ⟨h.faithful, h.established, h.table, ?_, h.bound, h.expired⟩
  intro k c hc
  exact h.incumbents k c (get?_withoutChallenge.1 hc).2

theorem keeps_withoutPing (h : e.Keeps S x) (m : MessageId) : (e.withoutPing m).Keeps S x := by
  refine ⟨h.faithful, h.established, h.table, h.incumbents, ?_, h.expired⟩
  intro k r hr
  exact h.bound k r (Dict.get?_erase_eq_some.1 hr).2

theorem keeps_refresh (h : e.Keeps S x) (hsound : e.table.Sound) {node : Node} (hnode : S node)
    (now : Timestamp) : Keeps S x { e with table := (e.table.refresh node now).2 } := by
  refine ⟨h.faithful, h.established, ?_, h.incumbents, h.bound, h.expired⟩
  intro id n hn
  have hn : (e.table.refresh node now).2.node? id = some n := hn
  rw [DistanceTable.node?_refresh hsound] at hn
  split at hn
  · cases hn
    exact hnode
  · exact h.table id n hn

theorem keeps_forget (h : e.Keeps S x) (hsound : e.table.Sound) (id : NodeId) :
    (e.forget id).Keeps S x := by
  refine ⟨h.faithful, ?_, ?_, h.incumbents, h.bound, h.expired⟩
  · exact fun i n hn => h.established i n (established_of_forget hn)
  · intro i n hn
    have hn : (e.table.remove id).2.node? i = some n := hn
    rw [DistanceTable.node?_remove hsound] at hn
    split at hn
    · cases hn
    · exact h.table i n hn

theorem keeps_establish (h : e.Keeps S x) (hsound : e.table.Sound) {node : Node} {o : Admission}
    {table : DistanceTable} (hadd : e.table.add node now = (.ok o, table))
    (ho : o.isSuccess = true) (hnode : S node) : (e.establish node table).Keeps S x := by
  obtain ⟨-, -, -, -, hnodes⟩ := DistanceTable.add_of_isSuccess hsound hadd ho
  refine ⟨h.faithful, ?_, ?_, h.incumbents, h.bound, h.expired⟩
  · intro id n hn
    have hn : (e.established.insert node.id node).get? id = some n := hn
    rw [Dict.get?_insert] at hn
    split at hn
    · cases hn
      exact hnode
    · exact h.established id n hn
  · intro id n hn
    have hn : table.node? id = some n := hn
    rw [hnodes] at hn
    split at hn
    · cases hn
      exact hnode
    · exact h.table id n hn

/-- What an explorer keeps of its peers satisfies `S` after a deed if whoever is established by it
does. -/
theorem Deed.keeps (hdeed : Deed now N e e') (hN : ∀ n, N n → S n)
    (hS : ∀ n, S n → ∃ a, n.endpoint = .ofAddress a) (hcoherent : e.registry.Coherent)
    (horderly : e.requests.Orderly) (h : e.Keeps S x) : e'.Keeps S x := by
  have hsound : e.table.Sound := hcoherent.sound
  cases hdeed with
  | choose | pong | neighbors | ask | told =>
    exact ⟨h.faithful, h.established, h.table, h.incumbents, h.bound, h.expired⟩
  | consult hresolve => exact keeps_consult h hresolve
  | contact a => exact keeps_sendPing h (by simp)
  | @probe node a cache hnode hresolve =>
    have hnode : S node := h.table node.id node ((DistanceTable.mem_nodes hsound).1 hnode)
    refine keeps_sendPing (keeps_consult h hresolve) fun n hn => ?_
    cases hn
    exact h.reached hS hnode hresolve
  | seen hnode => exact keeps_refresh h hsound (h.established _ _ hnode) now
  | settle hd => exact keeps_withoutPing h _
  | @defend d c hd =>
    have h₁ := keeps_withoutChallenge (keeps_withoutPing h d.message.id) d.message.id
    exact keeps_refresh h₁ hsound (h.incumbents _ c hd.2) now
  | @rival node incumbent a cache hadd hfree hresolve =>
    have hnode : S incumbent := h.table _ _ (DistanceTable.node?_of_conflict hsound hadd)
    exact keeps_pursue (keeps_consult h hresolve) horderly (h.reached hS hnode hresolve)
  | forget id => exact keeps_forget h hsound id
  | establish hadd ho hnode => exact keeps_establish h hsound hadd ho (hN _ hnode)

theorem keeps_of_deeds (hdeeds : Deeds now N e e') (hN : ∀ n, N n → S n)
    (hS : ∀ n, S n → ∃ a, n.endpoint = .ofAddress a) (hcoherent : e.registry.Coherent)
    (horderly : e.requests.Orderly) (h : e.Keeps S x) : e'.Keeps S x := by
  induction hdeeds with
  | refl => exact h
  | @tail e₁ e₂ hdeeds hdeed ih =>
    exact hdeed.keeps hN hS (coherent_of_deeds hdeeds hcoherent)
      (orderly_of_moves (moves_of_deeds hdeeds) horderly) ih

/-! ### Rounds of expiring -/

theorem keeps_drainPings (h : e.Keeps S []) (horderly : e.requests.Orderly) (now : Timestamp)
    (ties : List MessageId) :
    Keeps S (e.requests.drainPings now ties).1
      { e with requests := (e.requests.drainPings now ties).2 } := by
  refine ⟨h.faithful, h.established, h.table, h.incumbents, ?_, ?_⟩
  · intro m r hr
    exact h.bound m r (Dict.get?_filter_eq_some.1 hr).1
  · intro r hr
    exact h.bound r.id r (horderly.mem_expired.1 hr).1

theorem keeps_giveUp (h : e.Keeps S x) (hsound : e.table.Sound) (r : Request) :
    (e.giveUp r).Keeps S x := by
  unfold giveUp
  split
  · exact keeps_forget h hsound _
  · exact h

theorem keeps_recheckChallenger (h : e.Keeps S x) (now : Timestamp) (c : Option Challenge) :
    (e.recheckChallenger now c).Keeps S x := by
  rcases recheckChallenger_cases now c e with hnone | ⟨endpoint, a, cache, hresolve, hsent⟩
  · rw [hnone]; exact h
  · rw [hsent]; exact keeps_sendPing (keeps_consult h hresolve) (by simp)

/-- The PING that is sent in place of an expired one is bound to the same node as the expired one:
to the incumbent if a challenge rested on it. -/
theorem keeps_expirePing {r : Request} (h : e.Keeps S (r :: x)) (hbacked : e.Backed drawn (r :: x))
    (horderly : e.requests.Orderly) (hsound : e.table.Sound) :
    (e.expirePing now r).Keeps S x := by
  have hr : r.BoundTo S := h.expired r List.mem_cons_self
  have h₁ : (e.withoutChallenge r.id).Keeps S x := by
    obtain ⟨hf, he, ht, hi, hb, hx⟩ := keeps_withoutChallenge h r.id
    exact ⟨hf, he, ht, hi, hb, fun r' hr' => hx r' (List.mem_cons_of_mem _ hr')⟩
  rcases expirePing_cases now r e with ⟨-, -, h⟩ | ⟨c, -, hc, h⟩ | ⟨-, h⟩
  · rw [h]; exact keeps_sendPing h₁ hr
  · -- The challenge rested on the expired PING, which is the only one of its identifier.
    have hrelated : r.related = some c.incumbent := by
      obtain ⟨r', hr' | ⟨hr', hid⟩, hrelated⟩ := hbacked.backed r.id c hc
      · rw [hbacked.gone r List.mem_cons_self] at hr'
        cases hr'
      · rcases List.mem_cons.1 hr' with rfl | hr'
        · exact hrelated
        · exact absurd (hid ▸ List.mem_map_of_mem hr') (List.nodup_cons.1 hbacked.ids).1
    rw [h]; exact keeps_pursue h₁ horderly (hr c.incumbent hrelated)
  · rw [h]; exact keeps_recheckChallenger (keeps_giveUp h₁ hsound r) now _

theorem coherent_expirePing (h : e.registry.Coherent) (now : Timestamp) (r : Request) :
    (e.expirePing now r).registry.Coherent := by
  obtain ⟨ids, hids⟩ := registry_expirePings now [r] e
  rw [show (e.expirePing now r).registry = _ from hids]
  exact coherent_forgetAll ids h

theorem keeps_expirePings (h : e.Keeps S x) (hbacked : e.Backed drawn x)
    (horderly : e.requests.Orderly) (hcoherent : e.registry.Coherent)
    (hfresh : (e.expirePings now x).Fresh drawn) : (e.expirePings now x).Keeps S [] := by
  induction x generalizing e with
  | nil => exact h
  | cons r x ih =>
    have hone : (e.expirePing now r).Fresh drawn := hfresh.first_turn
    exact ih (keeps_expirePing h hbacked horderly hcoherent.sound)
      (backed_expirePing hbacked horderly hone)
      (orderly_of_moves (moves_expirePing now r e) horderly)
      (coherent_expirePing hcoherent now r) hfresh

theorem keeps_purge (h : e.Keeps S []) (hbacked : e.Backed drawn [])
    (horderly : e.requests.Orderly) (hcoherent : e.registry.Coherent)
    (hfresh : (e.purge now ties).Fresh drawn) : (e.purge now ties).Keeps S [] := by
  have h₁ := keeps_expirePings (keeps_drainPings h horderly now ties)
    (backed_drainPings hbacked horderly now ties) (orderly_drainPings horderly now ties) hcoherent
    hfresh
  exact ⟨h₁.faithful, h₁.established, h₁.table, h₁.incumbents, h₁.bound, h₁.expired⟩

/-! ### Calls and runs -/

/-- What an explorer keeps of its peers satisfies `S` after a call if its established peers do. -/
theorem keeps_perform (h : e.Keeps S []) (hbacked : e.Backed drawn [])
    (horderly : e.requests.Orderly) (hcoherent : e.registry.Coherent)
    (hS : ∀ n, S n → ∃ a, n.endpoint = .ofAddress a) (bans : Bans) (now : Timestamp) (call : Call)
    (hafter : ∀ n, (e.perform bans now call).explorer.established.get? n.id = some n → S n)
    (hfresh : (drawn ++ requestIds (e.perform bans now call).sent).Nodup) :
    (e.perform bans now call).explorer.Keeps S [] := by
  have hended : ∀ {e : Explorer}, e.Keeps S [] → Keeps S [] { e with outbox := [] } :=
    fun h => ⟨h.faithful, h.established, h.table, h.incumbents, h.bound, h.expired⟩
  rcases perform_cases bans now call e with
    ⟨ties, -, -, hround⟩ | ⟨phase, e', accepted, hperform, hdeeds⟩
  · rw [hround] at hfresh ⊢
    exact hended (keeps_purge h hbacked horderly hcoherent hfresh)
  · rw [hperform] at hafter ⊢
    have h₁ : Keeps S [] { e with phase } :=
      ⟨h.faithful, h.established, h.table, h.incumbents, h.bound, h.expired⟩
    exact hended (keeps_of_deeds hdeeds hafter hS hcoherent horderly h₁)

/-- An explorer begins with no peers. -/
theorem keeps_create (config : Config) (system : SystemLookup) (random : RandomSource) :
    (create config system random).Keeps S [] := by
  refine ⟨faithful_create config system random, ?_, ?_, ?_, ?_, ?_⟩
  · intro id n hn; cases hn
  · intro id n hn
    have hn : (DistanceTable.empty config.localId config.bucketSize).node? id = some n := hn
    rw [DistanceTable.node?_empty] at hn
    cases hn
  · intro m c hc; cases hc
  · intro m r hr; cases hr
  · intro r hr; cases hr

/-- A node was established before call number `i` of a run or earlier, and at an observed
address. -/
structure Stood (occasions : List Occasion) (e : Explorer) (i : Nat) (n : Node) : Prop where
  /-- It was established. -/
  before : ∃ j ≤ i, (stateAt occasions e j).established.get? n.id = some n
  /-- Its endpoint is that of an address. -/
  observed : ∃ a, n.endpoint = .ofAddress a

/-- Whatever an explorer keeps of its peers was established before. -/
theorem keeps_stateAt {config : Config} {system : SystemLookup} {random : RandomSource}
    {occasions : List Occasion}
    (hfresh : (drawnIds occasions (create config system random)).Nodup) {i : Nat}
    (hi : i ≤ occasions.length) :
    (stateAt occasions (create config system random) i).Keeps
      (Stood occasions (create config system random) i) [] := by
  induction i with
  | zero => exact keeps_create config system random
  | succ i ih =>
    have ho : occasions[i]? = some occasions[i] := List.getElem?_eq_getElem hi
    have hreachable := freshlyReachable_stateAt hfresh (Nat.le_of_succ_le hi)
    have hsent := nodup_drawnIds_take hfresh (i + 1)
    rw [drawnIds_take_succ hi, sentAt_eq ho] at hsent
    have hkeeps := ih (Nat.le_of_succ_le hi)
    have hmono : ∀ n, Stood occasions (create config system random) i n →
        Stood occasions (create config system random) (i + 1) n := by
      rintro n ⟨⟨j, hj, hn⟩, hobserved⟩
      exact ⟨⟨j, Nat.le_succ_of_le hj, hn⟩, hobserved⟩
    -- Who is established afterwards was so before, or has just answered from an observed address.
    have hafter : ∀ n,
        (stateAt occasions (create config system random) (i + 1)).established.get? n.id = some n →
          Stood occasions (create config system random) (i + 1) n := by
      intro n hn
      refine ⟨⟨i + 1, Nat.le_refl _, hn⟩, ?_⟩
      by_cases hbefore : (stateAt occasions (create config system random) i).established.get? n.id
          = some n
      · exact (hkeeps.established n.id n hbefore).observed
      · rw [stateAt_succ ho] at hn
        obtain ⟨d, -, -, -, -, hnode⟩ := (perform_effect _ _ _ _).established hbefore hn
        exact ⟨d.address, congrArg Node.endpoint hnode⟩
    rw [stateAt_succ ho] at hafter ⊢
    exact keeps_perform (hkeeps.mono hmono) hreachable.backed hreachable.reachable.orderly
      hreachable.reachable.coherent (fun n hn => hn.observed) _ _ _ hafter hsent

end Explorer
end NodeDiscovery
