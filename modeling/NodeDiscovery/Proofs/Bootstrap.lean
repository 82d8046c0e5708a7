import NodeDiscovery.Proofs.Contacting
import NodeDiscovery.Proofs.Transparency

/-!
# Whom an explorer contacts first

The endpoints to contact first are looked up one after the other, each through the cache that the
earlier ones have left, and the addresses that are found are kept as a set.  The cache has no say in
what is found, and neither the order of a set nor how often something is put into it can be seen.
So an explorer that starts contacts the addresses that the texts have one by one, each once and in
ascending order, whatever the order of the texts and however small the cache.

## Main definitions

* `Explorer.BootAddress` — one of the texts has an address on its own.
* `Explorer.retold` — an explorer that was told of other endpoints and has another cache.

## Main results

* `Explorer.mem_bootNodes_create` — the addresses that an explorer is created with.
* `Explorer.create_retold` — texts with the same addresses make the same explorer but for its cache.
* `Explorer.contactQueued_retold` — whom an explorer contacts does not depend on its cache.
* `Explorer.start_contacts` — what the start sends and waits for, for every list of texts.
-/

namespace NodeDiscovery

/-- A text is looked up through a truthful cache as if there were none, and leaves it truthful. -/
theorem AddressCache.Truthful.of_lookupText {system : SystemLookup} {c cache : AddressCache}
    {text : String} {a : SocketAddress} (h : c.Truthful system)
    (hlookup : c.lookupText system text = (.ok a, cache)) :
    plainLookupText system text = .ok a ∧ cache.Truthful system := by
  refine ⟨by rw [← h.lookupText_eq, hlookup], ?_⟩
  cases hparse : Endpoint.parse text with
  | error err =>
    simp only [lookupText, hparse] at hlookup
    cases hlookup
  | ok e =>
    simp only [lookupText, hparse] at hlookup
    obtain ⟨hplain, rfl⟩ := h.lookup_eq_ok_iff.1 hlookup
    exact h.record hplain

namespace Explorer

variable {system : SystemLookup} {texts texts' : List String} {a : SocketAddress}

/-! ### The addresses of the texts -/

/-- One of the texts has this address, looked up on its own. -/
def BootAddress (system : SystemLookup) (texts : List String) (a : SocketAddress) : Prop :=
  ∃ text ∈ texts, AddressCache.plainLookupText system text = .ok a

theorem bootAddress_cons {text : String} :
    BootAddress system (text :: texts) a ↔
      AddressCache.plainLookupText system text = .ok a ∨ BootAddress system texts a :=
  List.exists_mem_cons_iff _ _ _

/-- Neither the order of the texts nor how often each stands there matters. -/
theorem bootAddress_congr (h : ∀ text, text ∈ texts ↔ text ∈ texts') :
    BootAddress system texts a ↔ BootAddress system texts' a :=
  exists_congr fun text => and_congr_left' (h text)

/-- Looking up texts adds their addresses to those found before, whatever a truthful cache holds. -/
theorem mem_lookupAll {c : AddressCache} (h : c.Truthful system) {found : AddressSet} :
    a ∈ (lookupAll system texts c found).2.toList ↔
      a ∈ found.toList ∨ BootAddress system texts a := by
  induction texts generalizing c found with
  | nil => simp [lookupAll, BootAddress]
  | cons text texts ih =>
    unfold lookupAll
    rw [bootAddress_cons]
    rcases hlookup : c.lookupText system text with ⟨err | b, cache⟩
    · -- Without a cache the text would not be found either.
      obtain rfl := AddressCache.cache_of_lookupText_error hlookup
      have hplain : AddressCache.plainLookupText system text = .error err := by
        rw [← h.lookupText_eq, hlookup]
      rw [ih h, hplain]
      simp
    · obtain ⟨hplain, htruthful⟩ := h.of_lookupText hlookup
      rw [ih htruthful, AddressSet.mem_insert, hplain, Except.ok.injEq, @eq_comm _ b, or_assoc,
        or_left_comm]

/-- The addresses that an explorer is created with. -/
theorem mem_bootNodes_create {config : Config} {random : RandomSource} :
    a ∈ (create config system random).bootNodes.toList ↔
      BootAddress system config.bootstrapNodes a := by
  refine (mem_lookupAll (AddressCache.truthful_ofCapacity system _)).trans ?_
  simp [AddressSet.empty]

/-! ### Another cache -/

/-- An explorer that was told of other endpoints to contact first, and has another cache. -/
def retold (texts : List String) (cacheSize : Nat) (cache : AddressCache) (e : Explorer) :
    Explorer :=
  { e with
    config := { e.config with bootstrapNodes := texts, addressCacheSize := cacheSize }
    addresses := cache }

variable {cacheSize : Nat} {cache : AddressCache} {now : Timestamp}

/-- Texts with the same addresses make the same explorer but for its cache. -/
theorem create_retold {config : Config} (random : RandomSource)
    (h : ∀ a, BootAddress system texts a ↔ BootAddress system config.bootstrapNodes a)
    (cacheSize : Nat) :
    ∃ cache, create { config with bootstrapNodes := texts, addressCacheSize := cacheSize } system
      random = (create config system random).retold texts cacheSize cache := by
  have hboot : (create { config with bootstrapNodes := texts, addressCacheSize := cacheSize } system
      random).bootNodes = (create config system random).bootNodes := by
    -- Both are sets with the same members, and of these there is only one.
    refine AddressSet.ext_mem fun a => ?_
    rw [mem_bootNodes_create, mem_bootNodes_create]
    exact h a
  refine ⟨(lookupAll system texts (.ofCapacity cacheSize) .empty).1, ?_⟩
  rw [retold, ← hboot]
  rfl

theorem sendPing_retold (a : SocketAddress) (attempt : UInt32) (related : Option Node)
    (e : Explorer) :
    ((e.retold texts cacheSize cache).sendPing now a attempt related).2
      = (e.sendPing now a attempt related).2.retold texts cacheSize cache := by
  -- The PINGs under way are the same.
  cases hpending : e.requests.pingTo? a with
  | some r =>
    have hretold : (e.retold texts cacheSize cache).requests.pingTo? a = some r := hpending
    rw [sendPing_of_pending hpending, sendPing_of_pending hretold]
  | none =>
    have hretold : (e.retold texts cacheSize cache).requests.pingTo? a = none := hpending
    rw [sendPing_of_free hpending, sendPing_of_free hretold]
    rfl

/-- Whom an explorer contacts does not depend on its cache. -/
theorem contactQueued_retold (e : Explorer) :
    (e.retold texts cacheSize cache).contactQueued now
      = (e.contactQueued now).retold texts cacheSize cache := by
  have hall : ∀ (targets : List SocketAddress) (e : Explorer),
      (e.retold texts cacheSize cache).contactAll now targets
        = (e.contactAll now targets).retold texts cacheSize cache := by
    intro targets
    induction targets with
    | nil => exact fun _ => rfl
    | cons a targets ih =>
      intro e
      show ((e.retold texts cacheSize cache).sendPing now a 1 none).2.contactAll now targets = _
      rw [sendPing_retold, ih]
      rfl
  show ((e.retold texts cacheSize cache).contactAll now e.bootNodes.toList).dequeueContacted = _
  rw [hall]
  rfl

/-! ### The start -/

theorem perform_start_of_created {e : Explorer} (h : e.phase = .created) (bans : Bans)
    (now : Timestamp) :
    e.perform bans now (.start true)
      = ({ e with phase := .running }.contactQueued now).finish true :=
  if_pos h

/-- An explorer that has not started starts alike whatever its cache. -/
theorem start_retold {e : Explorer} (h : e.phase = .created) (bans : Bans) (now : Timestamp) :
    (e.retold texts cacheSize cache).perform bans now (.start true)
      = ⟨(e.perform bans now (.start true)).explorer.retold texts cacheSize cache,
        (e.perform bans now (.start true)).sent, true⟩ := by
  have hretold : (e.retold texts cacheSize cache).phase = .created := h
  rw [perform_start_of_created hretold, perform_start_of_created h]
  show (({ e with phase := .running }.retold texts cacheSize cache).contactQueued now).finish _ = _
  rw [contactQueued_retold]
  rfl

theorem finds_contactQueued (now : Timestamp) (e : Explorer) :
    (e.contactQueued now).requests.finds = e.requests.finds := by
  refine foldl_same (fun e => e.requests.finds) (fun e a => ?_) _ e
  unfold sendPing
  split <;> rfl

/-- **Whom an explorer contacts first depends on nothing but the addresses of the texts.**  For
every list of texts and every configuration, if the start draws no identifier twice, it sends a PING
to each address that one of the texts has on its own, in ascending order, and nothing else.  These
PINGs are waited for, each as a first attempt that whoever is at the address may answer, and nothing
else is; no address stays queued.  Any other list of texts with the same addresses, such as the same
texts in another order, some of them repeated or without those that have none, and any other size of
the cache make no difference: all that is sent and the whole state afterwards are the same but for
these settings and for what the cache holds. -/
theorem start_contacts (config : Config) (system : SystemLookup) (random : RandomSource)
    (bans : Bans) (now : Timestamp) :
    let turn := (create config system random).perform bans now (.start true)
    (requestIds turn.sent).Nodup →
    turn.accepted = true ∧
      (∃ (targets : AddressSet) (pings : List Request),
        (∀ a, a ∈ targets.toList ↔ BootAddress system config.bootstrapNodes a) ∧
        pings.map Request.address = targets.toList ∧
        turn.sent = pings.map Request.datagram ∧
        (∀ p ∈ pings,
          p.message = ⟨p.id, config.localId, some config.networkId,
            .ping config.localNode.endpoint⟩ ∧
          p.expects = .pong ∧ p.createdAt = now ∧ p.attempt = 1 ∧ p.related = none) ∧
        ∀ m p, turn.explorer.requests.pings.get? m = some p ↔ m = p.id ∧ p ∈ pings) ∧
      turn.explorer.requests.finds = .empty ∧
      turn.explorer.bootNodes = .empty ∧
      ∀ texts cacheSize,
        (∀ a, BootAddress system texts a ↔ BootAddress system config.bootstrapNodes a) →
        let config' := { config with bootstrapNodes := texts, addressCacheSize := cacheSize }
        let turn' := (create config' system random).perform bans now (.start true)
        turn'.accepted = turn.accepted ∧ turn'.sent = turn.sent ∧
          turn'.explorer
            = { turn.explorer with config := config', addresses := turn'.explorer.addresses } := by
  intro turn hnew
  let e := { create config system random with phase := .running }
  have hfresh : (e.contactQueued now).Fresh [] := hnew
  obtain ⟨⟨pings, hcontacted⟩, hempty⟩ :=
    contacted_contactQueued (fun _ _ h => by cases h) hfresh
  have hpending : ∀ m p, turn.explorer.requests.pings.get? m = some p ↔ m = p.id ∧ p ∈ pings :=
    fun m p => (hcontacted.pending m p).trans (or_iff_right fun h => by cases h)
  refine ⟨rfl, ⟨(create config system random).bootNodes, pings, fun a => mem_bootNodes_create, ?_,
    hcontacted.outbox, ?_, hpending⟩, finds_contactQueued now _, hempty, ?_⟩
  · -- At the start no PING is under way to any of the addresses.
    rw [hcontacted.addresses]
    exact List.filter_eq_self.2 fun a _ => decide_eq_true List.not_mem_nil
  · intro p hp
    have hgenuine := ((Reachable.create config system random).perform bans now
      (.start true)).genuine.ping p.id p ((hpending _ p).2 ⟨rfl, hp⟩)
    obtain ⟨-, hcreated, hattempt, hrelated⟩ := hcontacted.first p hp
    rw [compose, localId, config_perform] at hgenuine
    exact ⟨hgenuine.1, hgenuine.2, hcreated, hattempt, hrelated⟩
  · intro texts cacheSize hsame config' turn'
    obtain ⟨cache, hcreate⟩ := create_retold random hsame cacheSize
    have hturn : turn' = ⟨turn.explorer.retold texts cacheSize cache, turn.sent, true⟩ := by
      show (create config' system random).perform bans now (.start true) = _
      rw [hcreate, start_retold rfl]
    have hconfig : turn.explorer.config = config := config_perform bans now (.start true) _
    rw [hturn]
    refine ⟨rfl, rfl, ?_⟩
    rw [retold, hconfig]

open Sample in
/-- One of two addresses is named twice, once by a name that the system knows, and another text has
no address.  The same texts in another order, one of them repeated, come to the same, also with the
smallest cache. -/
theorem two_are_contacted :
    let system : SystemLookup := fun e => if e.host = "peer" then some (address 9) else none
    let texts := ["10.0.0.9:30303", "nowhere", "10.0.0.3:30303", "peer:1"]
    let texts' := ["peer:1", "10.0.0.3:30303", "nowhere", "10.0.0.9:30303", "10.0.0.3:30303"]
    let config := { Sample.config 0 1 with bootstrapNodes := texts, addressCacheSize := 2 }
    let config' := { config with bootstrapNodes := texts', addressCacheSize := 0 }
    let turn := (create config system (source 0)).perform .none (.ofMillis 0) (.start true)
    let turn' := (create config' system (source 0)).perform .none (.ofMillis 0) (.start true)
    (requestIds turn.sent).Nodup ∧ (∀ text, text ∈ texts' ↔ text ∈ texts) ∧
      turn.sent.map Datagram.address = [address 3, address 9] ∧
      turn.explorer.bootNodes = .empty ∧ turn'.sent = turn.sent := by
  intro system texts texts' config config' turn turn'
  have hnew : (requestIds turn.sent).Nodup := by decide +kernel
  have htexts : ∀ text, text ∈ texts' ↔ text ∈ texts := by
    have hsub : texts' ⊆ texts := by decide
    have hsub' : texts ⊆ texts' := by decide
    exact fun _ => ⟨fun h => hsub h, fun h => hsub' h⟩
  obtain ⟨-, -, -, hempty, hsame⟩ :=
    start_contacts config system (source 0) .none (.ofMillis 0) hnew
  have hagain := hsame texts' 0 fun _ => bootAddress_congr htexts
  exact ⟨hnew, htexts, by decide +kernel, hempty, hagain.2.1⟩

end Explorer
end NodeDiscovery
