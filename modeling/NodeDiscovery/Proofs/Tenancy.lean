import NodeDiscovery.Proofs.Coherence
import NodeDiscovery.Proofs.Traffic

/-!
# One peer to an endpoint

Where only one peer may be established at an endpoint, the known hosts are just the endpoints of
the established peers.  That every known host names a peer that is established there holds in any
case; here it is the other way round.  A peer that moves to an endpoint finds it vacated, so it
takes the place of nobody, and the endpoint that it leaves is no longer known.

## Main definitions

* `Registry.Listed` — every established peer is known at its endpoint.

## Main results

* `Explorer.Reachable.listed` — every peer is, in every reachable state.
* `Explorer.known_hosts_exact` — the known hosts are the endpoints of the peers, and no two peers
  share one.
-/

namespace NodeDiscovery

/-- Every established peer is known at its endpoint. -/
def Registry.Listed (r : Registry) : Prop :=
  ∀ id n, r.established.get? id = some n → r.knownHosts.get? n.endpoint.key = some id

namespace Explorer

variable {e : Explorer}

/-! ### The elementary changes -/

theorem listed_forget (h : e.registry.Listed) (id : NodeId) : (e.forget id).registry.Listed := by
  intro i n hn
  obtain ⟨hi, hn⟩ := Dict.get?_erase_eq_some.1 hn
  exact Dict.get?_filter_eq_some.2 ⟨h i n hn, decide_eq_true hi⟩

theorem listed_forgetAll (ids : List NodeId) (h : e.registry.Listed) :
    (ids.foldl (fun e id => e.forget id) e).registry.Listed := by
  induction ids generalizing e with
  | nil => exact h
  | cons id ids ih => exact ih (listed_forget h id)

theorem listed_refreshPeer (h : e.registry.Listed) (id : NodeId) (now : Timestamp) :
    (e.refreshPeer id now).registry.Listed := by
  unfold refreshPeer
  split <;> exact h

theorem listed_vacate (h : e.registry.Listed) (node : Node) :
    (e.vacate node).registry.Listed := by
  rcases vacate_cases node e with hv | ⟨prior, -, -, -, hv⟩
  · rw [hv]; exact h
  · rw [hv]; exact listed_forget h prior

/-- Nobody else is known at an endpoint that has been vacated. -/
theorem known_of_vacate (hexclusive : e.config.allowMultiple = false) {node : Node} {id : NodeId}
    (hknown : (e.vacate node).knownHosts.get? node.endpoint.key = some id) : id = node.id := by
  unfold vacate at hknown
  rw [hexclusive] at hknown
  cases hk : e.knownHosts.get? node.endpoint.key with
  | none => simp [hk] at hknown
  | some prior =>
    simp only [hk, Bool.false_eq_true, if_false] at hknown
    split at hknown
    · next hprior => rw [← hprior, ← Option.some.inj (hk.symm.trans hknown)]
    · -- The prior peer was the only one known there, and it has been given up.
      obtain ⟨hbefore, hne⟩ := Dict.get?_filter_eq_some.1 hknown
      rw [hk] at hbefore
      exact absurd (Option.some.inj hbefore).symm (of_decide_eq_true hne)

/-- The known host that is dropped when a peer moves is its own. -/
theorem get?_hostsWithoutEarlier_of_other {node : Node} {key : String} {id : NodeId}
    (hk : e.knownHosts.get? key = some id) (hother : id ≠ node.id) :
    (e.hostsWithoutEarlier node).get? key = some id := by
  unfold hostsWithoutEarlier
  split
  · split
    · next hmoved =>
      refine Dict.get?_erase_eq_some.2 ⟨?_, hk⟩
      rintro rfl
      exact hother (Option.some.inj (hk.symm.trans hmoved.2))
    · exact hk
  · exact hk

/-- A peer that is established where nobody else is known takes the place of nobody. -/
theorem listed_establish (h : e.registry.Listed) {node : Node} (table : DistanceTable)
    (hfree : ∀ id, e.knownHosts.get? node.endpoint.key = some id → id = node.id) :
    (e.establish node table).registry.Listed := by
  intro id n hn
  have hn : (e.established.insert node.id node).get? id = some n := hn
  show ((e.hostsWithoutEarlier node).insert node.endpoint.key node.id).get? _ = some id
  rw [Dict.get?_insert] at hn ⊢
  by_cases hid : id = node.id
  · rw [if_pos hid] at hn
    cases hn
    rw [if_pos rfl, hid]
  · rw [if_neg hid] at hn
    have hknown : e.knownHosts.get? n.endpoint.key = some id := h id n hn
    have hkey : n.endpoint.key ≠ node.endpoint.key := fun hkey =>
      hid (hfree id (hkey ▸ hknown))
    rw [if_neg hkey]
    exact get?_hostsWithoutEarlier_of_other hknown hid

theorem listed_enroll (h : e.registry.Listed) (hexclusive : e.config.allowMultiple = false)
    (now : Timestamp) (id : NodeId) (a : SocketAddress) :
    (e.enroll now id a).registry.Listed := by
  have hv := listed_vacate h ⟨id, .ofAddress a⟩
  rcases enroll_cases now id a e with ⟨-, he⟩ | ⟨-, he⟩ | ⟨-, o, table, -, -, he⟩
  · rw [he]; exact h
  · rw [he]; exact hv
  · rw [he]
    exact listed_establish hv table fun _ hknown => known_of_vacate hexclusive hknown

/-! ### Calls and runs -/

theorem Effect.listed {now : Timestamp} {call : Call} {r : Registry}
    (heffect : e.Effect now call r) (hexclusive : e.config.allowMultiple = false)
    (h : e.registry.Listed) : r.Listed := by
  cases heffect with
  | none => exact h
  | seen d => exact listed_refreshPeer h d.message.sender now
  | defended d c _ => exact h
  | admitted d _ => exact listed_enroll h hexclusive now d.message.sender d.address
  | gaveUp _ ids => exact listed_forgetAll ids h

/-- Where only one peer may be established at an endpoint, every peer is known at its own. -/
theorem Reachable.listed (h : Reachable e) (hexclusive : e.config.allowMultiple = false) :
    e.registry.Listed := by
  induction h with
  | create config system random => intro id n hn; cases hn
  | perform bans now call _ ih =>
    rw [config_perform] at hexclusive
    exact (perform_effect bans now call _).listed hexclusive (ih hexclusive)

/-- **Where only one peer may be established at an endpoint, the known hosts are just the endpoints
of the established peers**: a host names a peer if and only if that peer is established there.  So
no two peers share a host and a port, whatever has led to them. -/
theorem known_hosts_exact (config : Config) (system : SystemLookup) (random : RandomSource)
    (occasions : List Occasion) (hexclusive : config.allowMultiple = false) :
    let e := (run occasions (create config system random)).1
    (∀ key id, (key, id) ∈ e.knownHosts.entries ↔
      ∃ node, (id, node) ∈ e.established.entries ∧ node.endpoint.key = key) ∧
    ∀ id id' node node', (id, node) ∈ e.established.entries →
      (id', node') ∈ e.established.entries → node.endpoint.key = node'.endpoint.key → id = id' := by
  intro e
  have hreachable := (Reachable.create config system random).run occasions
  have hcoherent := hreachable.coherent
  have hlisted : e.registry.Listed := by
    refine hreachable.listed ?_
    rw [config_run]
    exact hexclusive
  refine ⟨fun key id => ⟨fun hknown => ?_, ?_⟩, ?_⟩
  · obtain ⟨node, hnode, hkey⟩ := hcoherent.known key id (Dict.mem_entries.1 hknown)
    exact ⟨node, Dict.mem_entries.2 hnode, hkey⟩
  · rintro ⟨node, hnode, rfl⟩
    exact Dict.mem_entries.2 (hlisted id node (Dict.mem_entries.1 hnode))
  · intro id id' node node' hnode hnode' hkey
    have hknown := hlisted id node (Dict.mem_entries.1 hnode)
    rw [hkey] at hknown
    exact Option.some.inj (hknown.symm.trans (hlisted id' node' (Dict.mem_entries.1 hnode')))

open Sample in
/-- A new identity answers from the endpoint of a peer: the endpoint is known as that of the new
one. -/
theorem newcomer_is_known :
    let config := { Sample.config 0 3 with allowMultiple := false }
    let e := (run [starts, pinged 0x80 1, ponged 0x80 1 (messageId 0 0), pinged 0x40 1,
      ponged 0x40 1 (messageId 0 1)] (create config (fun _ => none) (source 0))).1
    let here := (Endpoint.ofAddress (address 1)).key
    config.allowMultiple = false ∧ e.established.keys = [nodeId 0x40] ∧
    (here, nodeId 0x40) ∈ e.knownHosts.entries ∧ (here, nodeId 0x80) ∉ e.knownHosts.entries := by
  intro config
  have hexact := known_hosts_exact config (fun _ => none) (source 0)
    [starts, pinged 0x80 1, ponged 0x80 1 (messageId 0 0), pinged 0x40 1,
      ponged 0x40 1 (messageId 0 1)] rfl
  have hpeers : (run [starts, pinged 0x80 1, ponged 0x80 1 (messageId 0 0), pinged 0x40 1,
      ponged 0x40 1 (messageId 0 1)]
      (create config (fun _ => none) (source 0))).1.established.entries
      = [(nodeId 0x40, ⟨nodeId 0x40, .ofAddress (address 1)⟩)] := by decide +kernel
  -- The run need not be evaluated again.
  generalize (run _ _).1 = e at hexact hpeers ⊢
  intro _ here
  have hentry : ∀ id node, (id, node) ∈ e.established.entries ↔
      id = nodeId 0x40 ∧ node = ⟨nodeId 0x40, .ofAddress (address 1)⟩ := by
    intro id node
    rw [hpeers, List.mem_singleton, Prod.mk.injEq]
  refine ⟨rfl, congrArg (List.map Prod.fst) hpeers, ?_, ?_⟩
  · exact (hexact.1 here _).2 ⟨_, (hentry _ _).2 ⟨rfl, rfl⟩, rfl⟩
  · intro hknown
    obtain ⟨node, hnode, -⟩ := (hexact.1 here _).1 hknown
    exact absurd ((hentry _ _).1 hnode).1 (by decide +kernel)

end Explorer
end NodeDiscovery
