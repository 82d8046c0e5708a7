import NodeDiscovery.Proofs.Ledger
import NodeDiscovery.Proofs.Whereabouts

/-!
# What a round of expiring gives up

A round deals with its expired PINGs one after the other, and for some of them it sends new PINGs,
moves challenges and gives up peers.  None of this interferes with the PINGs that are still to be
dealt with: whom the round gives up can be told before it begins, whatever the order of the PINGs
and whichever of them share a node; everybody else keeps the place, the order and the time at which
it was seen.

## Main definitions

* `Registry.without` — what is known of the other peers.
* `Explorer.lost` — the peers that the next round gives up.

## Main results

* `Explorer.registry_expirePings_eq` — whom expired PINGs give up, whatever their order.
* `Explorer.registry_purge` — a round leaves what is known of the others.
* `Explorer.pinged_expirePings` — the challenger of an incumbent that is given up is sent a PING.
* `Explorer.clean_gives_up` — what a round does, in every run that draws no identifier twice.
-/

namespace NodeDiscovery

/-! ### All but some peers -/

/-- The nodes of a bucket but for some, in their order. -/
def Bucket.without (ids : List NodeId) (b : Bucket) : Bucket :=
  ⟨b.entries.filter fun x => decide (x.node.id ∉ ids)⟩

/-- The table but for some nodes. -/
def DistanceTable.without (ids : List NodeId) (t : DistanceTable) : DistanceTable :=
  { t with buckets := t.buckets.map (Bucket.without ids) }

/-- What is known of all peers but some. -/
def Registry.without (ids : List NodeId) (r : Registry) : Registry :=
  { r with
    established := r.established.filter fun id _ => decide (id ∉ ids)
    knownHosts := r.knownHosts.filter fun _ id => decide (id ∉ ids)
    table := r.table.without ids }

theorem Bucket.without_nil (b : Bucket) : b.without [] = b := by
  unfold Bucket.without
  rw [List.filter_eq_self.2 fun x _ => decide_eq_true List.not_mem_nil]

theorem Bucket.without_without (ids ids' : List NodeId) (b : Bucket) :
    (b.without ids).without ids' = b.without (ids ++ ids') := by
  unfold Bucket.without
  rw [List.filter_filter]
  simp only [List.mem_append, not_or, Bool.decide_and, Bool.and_comm]

namespace DistanceTable

theorem get_without (ids : List NodeId) (t : DistanceTable) (i : Fin 256) :
    (t.without ids).buckets.get i = (t.buckets.get i).without ids :=
  Vector.getElem_map _ i.isLt

/-- Tables of one keeper and one size with the same buckets are the same. -/
theorem ext_get {t t' : DistanceTable} (hlocal : t.localId = t'.localId)
    (hsize : t.bucketSize = t'.bucketSize)
    (hget : ∀ i : Fin 256, t.buckets.get i = t'.buckets.get i) : t = t' := by
  obtain ⟨localId, bucketSize, buckets⟩ := t
  obtain ⟨localId', bucketSize', buckets'⟩ := t'
  obtain rfl : localId = localId' := hlocal
  obtain rfl : bucketSize = bucketSize' := hsize
  have hbuckets : buckets = buckets' := Vector.ext fun i hi => hget ⟨i, hi⟩
  rw [hbuckets]

theorem without_nil (t : DistanceTable) : t.without [] = t :=
  ext_get rfl rfl fun i => by rw [get_without, Bucket.without_nil]

theorem without_without (ids ids' : List NodeId) (t : DistanceTable) :
    (t.without ids).without ids' = t.without (ids ++ ids') :=
  ext_get rfl rfl fun i => by
    rw [get_without, get_without, get_without, Bucket.without_without]

/-- Removing a node leaves the others, in all buckets. -/
theorem Sound.remove_eq {t : DistanceTable} (ht : t.Sound) (id : NodeId) :
    (t.remove id).2 = t.without [id] := by
  refine ext_get rfl rfl fun i => ?_
  have hentries : ∀ b : Bucket, (b.without [id]).entries
      = b.entries.filter fun x => decide (x.node.id ≠ id) := by
    intro b
    simp only [Bucket.without, List.mem_singleton, ne_eq]
  have hbucket : ∀ {b b' : Bucket}, b.entries = b'.entries → b = b' := by
    rintro ⟨l⟩ ⟨l'⟩ h
    rw [show l = l' from h]
  rw [get_without, show (t.remove id).2 = t.setBucket id ((t.bucketFor id).remove id) from rfl,
    get_setBucket]
  split
  · next hi =>
    subst hi
    refine hbucket ?_
    rw [hentries, Bucket.entries_remove (ht.distinct id)]
    rfl
  · -- No other bucket lists the node.
    next hi =>
    refine hbucket ?_
    rw [hentries, List.filter_eq_self.2]
    intro x hx
    refine decide_eq_true fun hid => hi ?_
    rw [← (ht i).placed x hx, hid]

end DistanceTable

namespace Registry

theorem without_nil (r : Registry) : r.without [] = r := by
  unfold without
  simp only [List.not_mem_nil, not_false_eq_true, decide_true, Dict.filter_true,
    DistanceTable.without_nil]

theorem without_without (ids ids' : List NodeId) (r : Registry) :
    (r.without ids).without ids' = r.without (ids ++ ids') := by
  unfold without
  simp only [Dict.filter_filter, DistanceTable.without_without, List.mem_append, not_or,
    Bool.decide_and]

/-- Only who is among the peers matters, not where or how often. -/
theorem without_congr {ids ids' : List NodeId} (h : ∀ id, id ∈ ids ↔ id ∈ ids') (r : Registry) :
    r.without ids = r.without ids' := by
  unfold without DistanceTable.without Bucket.without
  simp only [h]

end Registry

namespace Explorer

variable {e : Explorer} {now : Timestamp} {drawn ties : List MessageId}

/-! ### Whom a round gives up -/

theorem registry_forget (h : e.registry.Coherent) (id : NodeId) :
    (e.forget id).registry = e.registry.without [id] := by
  have htable : (e.table.remove id).2 = e.table.without [id] := h.sound.remove_eq id
  unfold forget registry Registry.without
  simp only [htable, Dict.erase, List.mem_singleton, ne_eq]

/-- The peers that some PINGs are bound to which have been tried as often as PINGs are. -/
def lastTo (most : UInt32) (x : List Request) : List NodeId :=
  ((x.filter fun r => decide (most ≤ r.attempt)).filterMap Request.related).map Node.id

theorem mem_lastTo {most : UInt32} {x : List Request} {id : NodeId} :
    id ∈ lastTo most x ↔ ∃ r ∈ x, most ≤ r.attempt ∧ ∃ n, r.related = some n ∧ n.id = id := by
  simp only [lastTo, List.mem_map, List.mem_filterMap, List.mem_filter, decide_eq_true_eq]
  constructor
  · rintro ⟨n, ⟨r, ⟨hr, hlast⟩, hn⟩, hid⟩
    exact ⟨r, hr, hlast, n, hn, hid⟩
  · rintro ⟨r, hr, hlast, n, hn, hid⟩
    exact ⟨n, ⟨r, ⟨hr, hlast⟩, hn⟩, hid⟩

theorem lastTo_cons (most : UInt32) (r : Request) (x : List Request) :
    lastTo most (r :: x) = lastTo most [r] ++ lastTo most x := by
  rw [lastTo, lastTo, lastTo, ← List.map_append, ← List.filterMap_append, ← List.filter_append,
    List.singleton_append]

/-- The peers that a round gives up: the last PING to them has expired. -/
def lost (now : Timestamp) (e : Explorer) : List NodeId :=
  lastTo e.config.maxPingAttempts (e.requests.pings.values.filter (·.hasExpired now))

theorem registry_expirePing (h : e.registry.Coherent) (now : Timestamp) (r : Request) :
    (e.expirePing now r).registry = e.registry.without (lastTo e.config.maxPingAttempts [r]) := by
  have hkept : r.attempt < e.config.maxPingAttempts →
      e.registry = e.registry.without (lastTo e.config.maxPingAttempts [r]) := by
    intro hattempt
    have hnone : lastTo e.config.maxPingAttempts [r] = [] := by
      simp [lastTo, UInt32.not_le.2 hattempt]
    rw [hnone, Registry.without_nil]
  rcases expirePing_cases now r e with ⟨hattempt, -, he⟩ | ⟨c, hattempt, -, he⟩ | ⟨hlast, he⟩ <;>
    rw [he]
  · rw [registry_sendPing]
    exact hkept hattempt
  · rw [registry_pursue]
    exact hkept hattempt
  · rw [registry_recheckChallenger, giveUp]
    cases hrelated : r.related with
    | none =>
      have hnone : lastTo e.config.maxPingAttempts [r] = [] := by simp [lastTo, hlast, hrelated]
      rw [hnone, Registry.without_nil]
      rfl
    | some n =>
      have hone : lastTo e.config.maxPingAttempts [r] = [n.id] := by
        simp [lastTo, hlast, hrelated]
      rw [hone, ← registry_forget h]
      rfl

/-- Whom PINGs give up does not depend on the order in which they are dealt with. -/
theorem registry_expirePings_eq (h : e.registry.Coherent) (now : Timestamp) (x : List Request) :
    (e.expirePings now x).registry = e.registry.without (lastTo e.config.maxPingAttempts x) := by
  induction x generalizing e with
  | nil => exact (Registry.without_nil e.registry).symm
  | cons r x ih =>
    have hlater := ih (coherent_expirePing h now r)
    rw [config_expirePing, registry_expirePing h, Registry.without_without, ← lastTo_cons] at hlater
    exact hlater

/-- A round gives up those whose last PING has expired, and leaves what is known of the others. -/
theorem registry_purge (h : e.registry.Coherent) (now : Timestamp) :
    (e.purge now ties).registry = e.registry.without (e.lost now) := by
  have hround := registry_expirePings_eq
    (e := { e with requests := (e.requests.drainPings now ties).2 }) h now
    (e.requests.drainPings now ties).1
  refine hround.trans (Registry.without_congr (fun id => ?_) e.registry)
  have hdrained : ∀ r, r ∈ (e.requests.drainPings now ties).1 ↔
      r ∈ e.requests.pings.values.filter (·.hasExpired now) := fun r =>
        (Request.perm_oldestFirst ties _).mem_iff
  rw [lost, mem_lastTo, mem_lastTo]
  simp only [hdrained]

/-- FIND_NODEs are given up when they have expired, and a round sends none. -/
theorem finds_purge (now : Timestamp) (e : Explorer) :
    (e.purge now ties).requests.finds = e.requests.finds.filter fun _ r => !r.hasExpired now := by
  have hfinds := (sendings_withFinds (sendings_expirePings now (e.requests.drainPings now ties).1
    { e with requests := (e.requests.drainPings now ties).2 }) .empty).1
  show ((expirePings now (e.requests.drainPings now ties).1
    { e with requests := (e.requests.drainPings now ties).2 }).requests.finds.filter
      fun _ r => !r.hasExpired now) = _
  rw [hfinds]
  rfl

theorem phase_purge (now : Timestamp) (e : Explorer) : (e.purge now ties).phase = e.phase :=
  (phase_of_moves (moves_of_sendings (sendings_purge now ties e))).trans rfl

/-! ### Challengers -/

/-- The challenger of an incumbent that has been given up is sent a PING, unless one is under way to
it. -/
theorem pinged_recheckChallenger (horderly : e.requests.Orderly)
    (hfaithful : e.addresses.Faithful) {c : Challenge} {a : SocketAddress}
    (ha : c.challenger.endpoint = .ofAddress a) (now : Timestamp) :
    ∃ m p, (e.recheckChallenger now (some c)).requests.pings.get? m = some p ∧
      p.address = .ofIp a.ip a.port := by
  obtain ⟨cache, hresolve⟩ : ∃ cache, e.addresses.resolve c.challenger.endpoint
      = (.ok (.ofIp a.ip a.port), cache) := ⟨_, ha ▸ hfaithful.resolve_ofAddress a⟩
  obtain ⟨p, hp, haddress⟩ := exists_sendPing (e := { e with addresses := cache }) horderly now
    (.ofIp a.ip a.port) 1 none
  simp only [recheckChallenger, hresolve]
  exact ⟨_, p, hp, haddress⟩

theorem pinged_expirePing {r : Request} {c : Challenge} (horderly : e.requests.Orderly)
    (hfaithful : e.addresses.Faithful) (hlast : e.config.maxPingAttempts ≤ r.attempt)
    (hc : e.challenges.get? r.id = some c) {a : SocketAddress}
    (ha : c.challenger.endpoint = .ofAddress a) (now : Timestamp) :
    ∃ m p, (e.expirePing now r).requests.pings.get? m = some p ∧
      p.address = .ofIp a.ip a.port := by
  rcases expirePing_cases now r e with ⟨hattempt, -⟩ | ⟨c', hattempt, -⟩ | ⟨-, he⟩
  · exact absurd hattempt (UInt32.not_lt.2 hlast)
  · exact absurd hattempt (UInt32.not_lt.2 hlast)
  · obtain ⟨-, hrequests, haddresses⟩ := giveUp_frame r (e.withoutChallenge r.id)
    rw [he, hc]
    exact pinged_recheckChallenger (hrequests ▸ horderly) (haddresses ▸ hfaithful) ha now

/-- When all expired PINGs have been dealt with, the PING to the challenger is still under way. -/
theorem pinged_expirePings {x : List Request} (h : e.Backed drawn x)
    (horderly : e.requests.Orderly) (hfaithful : e.addresses.Faithful)
    (hfresh : (e.expirePings now x).Fresh drawn) {r : Request} (hr : r ∈ x)
    (hlast : e.config.maxPingAttempts ≤ r.attempt) {c : Challenge}
    (hc : e.challenges.get? r.id = some c) {a : SocketAddress}
    (ha : c.challenger.endpoint = .ofAddress a) :
    ∃ m p, (e.expirePings now x).requests.pings.get? m = some p ∧
      p.address = .ofIp a.ip a.port := by
  induction x generalizing e with
  | nil => cases hr
  | cons q x ih =>
    have hone : (e.expirePing now q).Fresh drawn := hfresh.first_turn
    have hbacked := backed_expirePing h horderly hone
    rcases List.mem_cons.1 hr with rfl | hr
    · -- What the later PINGs do leaves this one under way.
      obtain ⟨m, p, hp, haddress⟩ := pinged_expirePing horderly hfaithful hlast hc ha now
      obtain ⟨related, hkept, -⟩ := pending_kept (sendings_expirePings now x (e.expirePing now r))
        hfresh (hbacked.recorded m p hp) hp
      exact ⟨m, _, hkept, haddress⟩
    · -- The challenge still rests on its expired PING when it is the turn of this PING.
      have hne : r.id ≠ q.id := by
        intro hid
        exact (List.nodup_cons.1 h.ids).1 (hid ▸ List.mem_map_of_mem hr)
      exact ih hbacked (orderly_of_moves (moves_expirePing now q e) horderly)
        (faithful_expirePing hfaithful now q) hfresh hr (by rwa [config_expirePing])
        (challenge_kept_by_expirePing h horderly hone hne hc)

theorem pinged_purge (h : e.Backed drawn []) (horderly : e.requests.Orderly)
    (hlocated : e.Located) (hfresh : (e.purge now ties).Fresh drawn) {m : MessageId} {r : Request}
    (hr : e.requests.pings.get? m = some r) (hexpired : r.hasExpired now = true)
    (hlast : e.config.maxPingAttempts ≤ r.attempt) {c : Challenge}
    (hc : e.challenges.get? m = some c) :
    ∃ ip m' p, c.challenger.endpoint.host = IpAddress.text ip ∧
      (e.purge now ties).requests.pings.get? m' = some p ∧
      p.address = .ofIp ip c.challenger.endpoint.port := by
  obtain ⟨a, ha⟩ := hlocated.observed _ (.challenger hc rfl)
  have hid : r.id = m := horderly.keyed m r hr
  subst hid
  obtain ⟨m', p, hp, haddress⟩ := pinged_expirePings (backed_drainPings h horderly now ties)
    (orderly_drainPings horderly now ties) hlocated.faithful hfresh
    (horderly.mem_expired.2 ⟨hr, hexpired⟩) hlast hc ha
  refine ⟨a.ip, m', p, ?_, hp, ?_⟩
  · rw [ha]; rfl
  · rw [haddress, ha]; rfl

/-! ### Runs -/

/-- **A round of expiring gives up those whose last PING has expired, and nobody else.**  In a run
that draws no identifier twice, a round of a running explorer takes them, and nothing but them, from
the established peers, from the known hosts and from the table, where all other nodes keep their
order and the time at which they were seen.  A challenge whose last PING has expired is over, and a
PING to its challenger is under way.  Of the FIND_NODEs just those are waited for that have not
expired. -/
theorem clean_gives_up (config : Config) (system : SystemLookup) (random : RandomSource)
    (occasions : List Occasion)
    (hfresh : (drawnIds occasions (create config system random)).Nodup) {i : Nat} {bans : Bans}
    {now : Timestamp} (ho : occasions[i]? = some ⟨bans, now, .clean ties⟩)
    (hrun : (stateAt occasions (create config system random) i).phase = .running) :
    let e := stateAt occasions (create config system random) i
    let e' := stateAt occasions (create config system random) (i + 1)
    e'.established = e.established.filter (fun id _ => decide (id ∉ e.lost now)) ∧
    e'.knownHosts = e.knownHosts.filter (fun _ id => decide (id ∉ e.lost now)) ∧
    (∀ k, (e'.table.buckets.get k).entries
      = (e.table.buckets.get k).entries.filter fun x => decide (x.node.id ∉ e.lost now)) ∧
    (∀ m c r, e.challenges.get? m = some c → e.requests.pings.get? m = some r →
      r.hasExpired now = true → e.config.maxPingAttempts ≤ r.attempt →
      Challenges.isChallenged c.incumbent.id e'.challenges = false ∧
      ∃ ip m' p, c.challenger.endpoint.host = IpAddress.text ip ∧
        e'.requests.pings.get? m' = some p ∧
        p.address = .ofIp ip c.challenger.endpoint.port) ∧
    e'.requests.finds = e.requests.finds.filter fun _ r => !r.hasExpired now := by
  intro e e'
  have hi : i < occasions.length := (List.getElem?_eq_some_iff.1 ho).1
  have hfreshly := freshlyReachable_stateAt hfresh (Nat.le_of_lt hi)
  have hreachable : Reachable e := hfreshly.reachable
  have hafter : e' = (e.perform bans now (.clean ties)).explorer := stateAt_succ ho
  have hround : e' = { e.purge now ties with outbox := [] } := by
    rw [hafter, perform_clean hrun]
    rfl
  have hsent : (e.purge now ties).Fresh
      (drawnIds (occasions.take i) (create config system random)) := by
    have hnext := nodup_drawnIds_take hfresh (i + 1)
    rw [drawnIds_take_succ hi, sentAt_eq ho, perform_clean hrun] at hnext
    exact hnext
  have hregistry : e'.registry = e.registry.without (e.lost now) := by
    rw [hround]
    exact registry_purge hreachable.coherent now
  refine ⟨congrArg Registry.established hregistry, congrArg Registry.knownHosts hregistry, ?_, ?_,
    ?_⟩
  · intro k
    have htable : e'.table = e.table.without (e.lost now) := congrArg Registry.table hregistry
    rw [htable, DistanceTable.get_without]
    rfl
  · intro m c r hc hr hexpired hlast
    refine ⟨?_, ?_⟩
    · rw [hafter]
      exact hfreshly.backed.isChallenged_of_expired hreachable.orderly hrun hc hr hexpired hlast
        bans
    · rw [hround]
      exact pinged_purge hfreshly.backed hreachable.orderly hreachable.located hsent hr hexpired
        hlast hc
  · rw [hround]
    exact finds_purge now e

open Sample in
/-- The incumbent of a full bucket does not answer three PINGs: the third round gives it up, and its
challenger is sent a PING. -/
theorem clean_gives_incumbent_up :
    let occasions := [starts, pinged 0x80 1, ponged 0x80 1 (messageId 0 0), pinged 0x81 2,
      ponged 0x81 2 (messageId 0 1), cleans 3000, cleans 6000, cleans 9000]
    let e := stateAt occasions (explorer 0 3) 7
    let e' := stateAt occasions (explorer 0 3) 8
    (drawnIds occasions (explorer 0 3)).Nodup ∧ e.phase = .running ∧
    e.lost (.ofMillis 9000) = [nodeId 0x80] ∧
    e.established.keys = [nodeId 0x80] ∧ e'.established.keys = [] ∧
    Challenges.isChallenged (nodeId 0x80) e.challenges = true ∧
    Challenges.isChallenged (nodeId 0x80) e'.challenges = false ∧
    ∃ m p, e'.requests.pings.get? m = some p ∧ p.address = address 2 := by
  intro occasions e e'
  have hfresh : (drawnIds occasions (explorer 0 3)).Nodup := by decide +kernel
  have hrun : e.phase = .running := by decide +kernel
  have hlost : e.lost (.ofMillis 9000) = [nodeId 0x80] := by decide +kernel
  have hc : e.challenges.get? (messageId 0 4) = some ⟨⟨nodeId 0x80, .ofAddress (address 1)⟩,
      ⟨nodeId 0x81, .ofAddress (address 2)⟩, .ofMillis 0⟩ := by decide +kernel
  have hlast : (e.requests.pings.get? (messageId 0 4)).map
      (fun r => (r.hasExpired (.ofMillis 9000), r.attempt)) = some (true, 3) := by decide +kernel
  obtain ⟨r, hr, hover⟩ := Option.map_eq_some_iff.1 hlast
  obtain ⟨hexpired, hattempt⟩ := Prod.mk.inj hover
  obtain ⟨hestablished, -, -, hchallenges, -⟩ := clean_gives_up (Sample.config 0 3)
    (fun _ => none) (source 0) occasions hfresh (i := 7) rfl hrun
  obtain ⟨hsettled, ip, m, p, hhost, hp, haddress⟩ :=
    hchallenges _ _ r hc hr hexpired (hattempt ▸ by decide +kernel)
  refine ⟨hfresh, hrun, hlost, by decide +kernel, ?_, by decide +kernel, hsettled, m, p, hp, ?_⟩
  · calc e'.established.keys
        = (e.established.filter fun id _ => decide (id ∉ e.lost (.ofMillis 9000))).keys :=
          congrArg Dict.keys hestablished
      _ = [] := by decide +kernel
  · -- The text of an IP address determines it.
    have hip : some (address 2).ip = some ip := by
      rw [← IpAddress.parse?_text, ← IpAddress.parse?_text ip]
      exact congrArg IpAddress.parse? hhost
    rw [haddress, ← Option.some.inj hip]
    rfl

end Explorer
end NodeDiscovery
