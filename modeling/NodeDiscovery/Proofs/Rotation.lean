import NodeDiscovery.Proofs.AddressText
import NodeDiscovery.Proofs.Coherence
import NodeDiscovery.Proofs.Traffic

/-!
# Whom a message costs its place

A message costs at most one peer its place.  Only the answer to a PING does, only where one peer at
most may be established at an endpoint, and only for a peer that is established at just the
endpoint that the answer comes from: a new identity there supplants the old one.  A peer that has
moved on is safe, since the known hosts are coherent.  A full bucket takes in a newcomer only when
one of its own nodes has been supplanted.

## Main definitions

* `Explorer.Supplants` — the sender of a message takes the place of a peer.

## Main results

* `Explorer.lost_iff` — the peers that lose their place are those that are supplanted.
* `Explorer.supplants_of_enters` — who enters a full bucket supplants one of its nodes.
* `Explorer.places_lost_to_messages` — what a message costs in any state that runs lead to.
* `Explorer.full_bucket_rotates` — a newcomer that enters a full bucket.
-/

namespace NodeDiscovery
namespace Explorer

/-- The sender of a message takes the place of a peer. -/
structure Supplants (e : Explorer) (d : Datagram) (id : NodeId) : Prop where
  /-- One peer at most may be established at an endpoint. -/
  exclusive : e.config.allowMultiple = false
  /-- The message answers a PING that no challenge depends on. -/
  answers : e.Admits d
  /-- It does not come from the explorer itself. -/
  foreign : d.message.sender ≠ e.localId
  /-- It comes from somebody else than the peer. -/
  other : id ≠ d.message.sender
  /-- The peer is established where the message comes from. -/
  here : e.established.get? id = some ⟨id, .ofAddress d.address⟩
  /-- It was established there last. -/
  known : e.knownHosts.get? (Endpoint.ofAddress d.address).key = some id

variable {e : Explorer} {d : Datagram} {id : NodeId}

/-- A known host is where its peer is established. -/
theorem established_of_known (h : e.registry.Coherent) {endpoint : Endpoint}
    (hknown : e.knownHosts.get? endpoint.key = some id) :
    e.established.get? id = some ⟨id, endpoint⟩ := by
  obtain ⟨n, hn, hkey⟩ := h.known endpoint.key id hknown
  have hid : n.id = id := h.own_id id n hn
  have hendpoint : n.endpoint = endpoint := Endpoint.key_injective hkey
  have hn : e.established.get? id = some n := hn
  rw [hn, ← hid, ← hendpoint]

/-! ### Who loses a place -/

/-- Vacating an endpoint costs the known peer there its place, and nobody else. -/
theorem contains_vacate (node : Node) (e : Explorer) (id : NodeId) :
    (e.vacate node).established.contains id = true ↔
      e.established.contains id = true ∧
        ¬ (e.config.allowMultiple = false ∧ e.knownHosts.get? node.endpoint.key = some id ∧
          id ≠ node.id) := by
  unfold vacate
  cases hm : e.config.allowMultiple with
  | true => simp
  | false =>
    cases hk : e.knownHosts.get? node.endpoint.key with
    | none => simp
    | some prior =>
      by_cases hp : prior = node.id
      · have hsame : prior = id → id = node.id := fun h => h ▸ hp
        simpa [hp] using fun _ h => h.symm
      · have hother : prior = id → id ≠ node.id := fun h => h ▸ hp
        simp only [Bool.false_eq_true, if_false, hp, forget, Dict.contains_erase, Bool.and_eq_true,
          Bool.not_eq_true', decide_eq_false_iff_not, Option.some.injEq, true_and, not_and]
        constructor
        · rintro ⟨hne, hin⟩
          exact ⟨hin, fun h => absurd h.symm hne⟩
        · rintro ⟨hin, himp⟩
          exact ⟨fun h => himp h.symm (hother h.symm), hin⟩

/-- Only its endpoint being vacated costs anybody a place when a peer is admitted. -/
theorem lost_enroll_iff (h : e.registry.Coherent) {i : NodeId} (hself : i ≠ e.localId)
    (now : Timestamp) (a : SocketAddress) :
    (e.established.contains id = true ∧ (e.enroll now i a).established.contains id = false) ↔
      e.config.allowMultiple = false ∧
        e.knownHosts.get? (Endpoint.ofAddress a).key = some id ∧ id ≠ i := by
  -- Whoever has not been vacated keeps the place, and the others do not get it back.
  have hkept : (e.vacate ⟨i, .ofAddress a⟩).established.contains id = true →
      (e.enroll now i a).established.contains id = true := by
    intro hin
    rcases enroll_cases now i a e with ⟨hlocal, -⟩ | ⟨-, he⟩ | ⟨-, o, table, -, -, he⟩
    · exact absurd hlocal hself
    · rw [show (e.enroll now i a).established = _ from congrArg Registry.established he]
      exact hin
    · rw [he]
      show ((e.vacate _).established.insert i _).contains id = true
      rw [Dict.contains_insert, hin, Bool.or_true]
  have hgone : id ≠ i → (e.vacate ⟨i, .ofAddress a⟩).established.contains id = false →
      (e.enroll now i a).established.contains id = false := by
    intro hid hout
    rcases enroll_cases now i a e with ⟨hlocal, -⟩ | ⟨-, he⟩ | ⟨-, o, table, -, -, he⟩
    · exact absurd hlocal hself
    · rw [show (e.enroll now i a).established = _ from congrArg Registry.established he]
      exact hout
    · rw [he]
      show ((e.vacate _).established.insert i _).contains id = false
      rw [Dict.contains_insert, hout, decide_eq_false hid, Bool.or_false]
  have hvacate := contains_vacate ⟨i, .ofAddress a⟩ e id
  constructor
  · rintro ⟨hin, hout⟩
    by_contra hnot
    have hstays := hkept (hvacate.2 ⟨hin, hnot⟩)
    rw [hout] at hstays
    cases hstays
  · intro hvacated
    have hin : e.established.contains id = true := by
      rw [Dict.contains, established_of_known h hvacated.2.1]
      rfl
    refine ⟨hin, hgone hvacated.2.2 ?_⟩
    rw [Bool.eq_false_iff]
    intro hstays
    exact (hvacate.1 hstays).2 hvacated

theorem established_refreshPeer (id : NodeId) (now : Timestamp) (e : Explorer) :
    (e.refreshPeer id now).established = e.established := by
  unfold refreshPeer
  split <;> rfl

/-- A message that admits nobody leaves the established peers as they are. -/
theorem established_of_not_admits (hno : ¬ e.Admits d) (bans : Bans) (now : Timestamp) :
    (e.perform bans now (.receive d)).explorer.established = e.established := by
  have heffect := perform_effect bans now (.receive d) e
  generalize hr : (e.perform bans now (.receive d)).explorer.registry = r at heffect
  show (e.perform bans now (.receive d)).explorer.registry.established = e.established
  rw [hr]
  cases heffect with
  | none => rfl
  | seen _ => exact established_refreshPeer _ _ _
  | defended _ c _ => rfl
  | admitted _ hd => exact absurd hd hno

/-- A message that admits its sender does to the established peers what the admission does. -/
theorem Admits.registry_eq (h : e.Admits d) (bans : Bans) (now : Timestamp) :
    (e.perform bans now (.receive d)).explorer.registry
      = (e.enroll now d.message.sender d.address).registry := by
  rw [h.perform_eq]
  exact registry_enroll_congr (registry_withoutPing d.message.id e) now _ _

/-- The peers that lose their place to a message are those that its sender supplants. -/
theorem lost_iff (h : e.registry.Coherent) (bans : Bans) (now : Timestamp) :
    (e.established.contains id = true ∧
      (e.perform bans now (.receive d)).explorer.established.contains id = false) ↔
      e.Supplants d id := by
  by_cases hadmits : e.Admits d
  · have hsame := congrArg Registry.established (hadmits.registry_eq bans now)
    rw [show (e.perform bans now (.receive d)).explorer.established = _ from hsame]
    by_cases hself : d.message.sender = e.localId
    · have henroll : e.enroll now d.message.sender d.address = e := by
        rw [enroll, if_pos hself]
      rw [henroll]
      constructor
      · rintro ⟨hin, hout⟩
        exact absurd (hout.symm.trans hin) Bool.false_ne_true
      · intro hsupplants
        exact absurd hself hsupplants.foreign
    · have hlost := @lost_enroll_iff e id h d.message.sender hself now d.address
      constructor
      · intro hgone
        obtain ⟨hexclusive, hknown, hother⟩ := hlost.1 hgone
        exact ⟨hexclusive, hadmits, hself, hother, established_of_known h hknown, hknown⟩
      · intro hsupplants
        exact hlost.2 ⟨hsupplants.exclusive, hsupplants.known, hsupplants.other⟩
  · rw [established_of_not_admits hadmits]
    constructor
    · rintro ⟨hin, hout⟩
      exact absurd (hout.symm.trans hin) Bool.false_ne_true
    · intro hsupplants
      exact absurd hsupplants.answers hadmits

/-! ### Who enters a full bucket -/

/-- The table lists the peers that are established. -/
theorem mem_table_iff (h : e.registry.Coherent) (id : NodeId) :
    id ∈ e.table.nodes.map Node.id ↔ e.established.contains id = true := by
  have hsound : e.table.Sound := h.sound
  have hstored : (e.table.node? id).isSome = e.established.contains id := h.stored id
  rw [DistanceTable.mem_ids hsound, hstored]

/-- A bucket lists the established peers that belong to it. -/
theorem mem_bucket_iff (h : e.registry.Coherent) (i : Fin 256) (id : NodeId) :
    e.table.buckets[i].contains id = true ↔
      e.established.contains id = true ∧ e.localId.bucketIndex id = i := by
  have hsound : e.table.Sound := h.sound
  have hlocal : e.table.localId = e.localId := h.keeper
  have hstored : (e.table.node? id).isSome = e.established.contains id := h.stored id
  have hindex : e.localId.bucketIndex id = e.table.indexOf id := by
    rw [DistanceTable.indexOf, hlocal]
  rw [← hstored, DistanceTable.isSome_node?, hindex]
  constructor
  · intro hin
    obtain ⟨entry, hentry, rfl⟩ := Bucket.contains_iff.1 hin
    obtain rfl := (hsound i).placed entry hentry
    exact ⟨hin, rfl⟩
  · rintro ⟨hin, rfl⟩
    exact hin

/-- A node that is new to a full bucket finds a place there only once its endpoint has been vacated
by a node of this bucket. -/
theorem vacated_of_room (node : Node)
    (hfull : (e.table.bucketFor node.id).isFull e.table.bucketSize = true)
    (hroom : ((e.vacate node).table.bucketFor node.id).isFull (e.vacate node).table.bucketSize
      = false) :
    ∃ prior, e.config.allowMultiple = false ∧ e.knownHosts.get? node.endpoint.key = some prior ∧
      prior ≠ node.id ∧ e.table.indexOf prior = e.table.indexOf node.id := by
  rcases vacate_cases node e with hv | ⟨prior, hexclusive, hknown, hother, hv⟩
  · rw [hv, hfull] at hroom
    cases hroom
  · refine ⟨prior, hexclusive, hknown, hother, ?_⟩
    by_contra hne
    have hbucket : (e.vacate node).table.bucketFor node.id = e.table.bucketFor node.id := by
      rw [hv]
      show (e.table.setBucket prior _).bucketFor node.id = _
      rw [DistanceTable.bucketFor_setBucket, if_neg (Ne.symm hne)]
    have hsize : (e.vacate node).table.bucketSize = e.table.bucketSize := by
      rw [hv]
      rfl
    rw [hbucket, hsize, hfull] at hroom
    cases hroom

/-- A peer enters a full bucket only if a node of this bucket is supplanted. -/
theorem supplants_of_enters (h : e.registry.Coherent) (bans : Bans) (now : Timestamp)
    (hfull : (e.table.bucketFor id).isFull e.table.bucketSize = true)
    (hbefore : e.established.contains id = false)
    (hafter : (e.perform bans now (.receive d)).explorer.established.contains id = true) :
    ∃ prior, e.Supplants d prior ∧ e.localId.bucketIndex prior = e.localId.bucketIndex id := by
  have hlocal : e.table.localId = e.localId := h.keeper
  have hadmits : e.Admits d := by
    by_contra hno
    rw [established_of_not_admits hno, hbefore] at hafter
    cases hafter
  have hsame := congrArg Registry.established (hadmits.registry_eq bans now)
  rw [show (e.perform bans now (.receive d)).explorer.established = _ from hsame] at hafter
  have hvacated := coherent_vacate h ⟨d.message.sender, .ofAddress d.address⟩
  have habsent :
      (e.vacate ⟨d.message.sender, .ofAddress d.address⟩).established.contains id = false := by
    rw [Bool.eq_false_iff]
    intro hin
    rw [((contains_vacate _ e id).1 hin).1] at hbefore
    cases hbefore
  rcases enroll_cases now d.message.sender d.address e with
    ⟨-, he⟩ | ⟨-, he⟩ | ⟨hself, o, table, hadd, ho, he⟩
  · rw [he] at hafter
    exact absurd (hbefore.symm.trans hafter) Bool.false_ne_true
  · rw [show (registry _).established = _ from congrArg Registry.established he] at hafter
    exact absurd (habsent.symm.trans hafter) Bool.false_ne_true
  · -- Only the sender is established anew, and as it was not in its bucket there was room for it.
    have hid : id = d.message.sender := by
      by_contra hne
      rw [he] at hafter
      have hafter : ((e.vacate ⟨d.message.sender, .ofAddress d.address⟩).established.insert
        d.message.sender ⟨d.message.sender, .ofAddress d.address⟩).contains id = true := hafter
      rw [Dict.contains_insert, decide_eq_false hne, habsent] at hafter
      cases hafter
    subst hid
    rcases DistanceTable.add_cases (e.vacate ⟨d.message.sender, .ofAddress d.address⟩).table
        ⟨d.message.sender, .ofAddress d.address⟩ now with
      ⟨-, hno⟩ | ⟨-, hin, -⟩ | ⟨-, -, -, ⟨i, -, hno⟩ | hno⟩ | ⟨-, -, hroom, -⟩
    · rw [hno] at hadd
      cases hadd
    · rw [← DistanceTable.isSome_node?] at hin
      exact absurd (habsent.symm.trans ((hvacated.stored _).symm.trans hin)) Bool.false_ne_true
    · rw [hno] at hadd
      cases hadd
      cases ho
    · rw [hno] at hadd
      cases hadd
    · obtain ⟨prior, hexclusive, hknown, hother, hindex⟩ :=
        vacated_of_room ⟨d.message.sender, .ofAddress d.address⟩ hfull hroom
      rw [DistanceTable.indexOf, DistanceTable.indexOf, hlocal] at hindex
      exact ⟨prior, ⟨hexclusive, hadmits, hself, hother, established_of_known h hknown, hknown⟩,
        hindex⟩

/-- The nodes of a full bucket stay the same, unless one of them is supplanted. -/
theorem bucket_stays (h : e.registry.Coherent) (bans : Bans) (now : Timestamp) {i : Fin 256}
    (hfull : e.table.buckets[i].isFull e.table.bucketSize = true) :
    (∀ id, (e.perform bans now (.receive d)).explorer.table.buckets[i].contains id
      = e.table.buckets[i].contains id) ∨
    ∃ id, e.Supplants d id ∧ e.table.buckets[i].contains id = true := by
  have h' : (e.perform bans now (.receive d)).explorer.registry.Coherent :=
    (perform_effect bans now _ e).coherent h
  have hlocal : (e.perform bans now (.receive d)).explorer.localId = e.localId :=
    congrArg Config.localId (config_perform bans now (.receive d) e)
  by_contra hnot
  rw [not_or, not_exists] at hnot
  obtain ⟨hchanged, hnobody⟩ := hnot
  -- A node that leaves is supplanted itself, and one that enters has found the bucket full.
  refine hchanged fun id => Bool.eq_iff_iff.2 ?_
  rw [mem_bucket_iff h', mem_bucket_iff h, hlocal]
  refine and_congr_left fun hindex => ⟨fun hafter => ?_, fun hbefore => ?_⟩
  · by_contra hbefore
    rw [Bool.not_eq_true] at hbefore
    have hbucket : (e.table.bucketFor id).isFull e.table.bucketSize = true := by
      have hplace : e.table.indexOf id = i := by
        rw [← hindex, DistanceTable.indexOf, show e.table.localId = e.localId from h.keeper]
      subst hplace
      exact hfull
    obtain ⟨prior, hprior, hsame⟩ := supplants_of_enters h bans now hbucket hbefore hafter
    refine hnobody prior ⟨hprior, (mem_bucket_iff h i prior).2 ⟨?_, hsame.trans hindex⟩⟩
    exact ((lost_iff h bans now).2 hprior).1
  · by_contra hafter
    rw [Bool.not_eq_true] at hafter
    exact hnobody id
      ⟨(lost_iff h bans now).1 ⟨hbefore, hafter⟩, (mem_bucket_iff h i id).2 ⟨hbefore, hindex⟩⟩

/-- **A message costs exactly those peers their place whom its sender supplants.**  That is one peer
at most, and it loses its place among the established peers and in the table alike.  Whoever is
established elsewhere than where the message comes from stays.  The nodes of a full bucket stay the
same, unless one of them is supplanted. -/
theorem places_lost_to_messages (config : Config) (system : SystemLookup) (random : RandomSource)
    (occasions : List Occasion) (bans : Bans) (now : Timestamp) (d : Datagram) :
    let e := (run occasions (create config system random)).1
    let e' := (e.perform bans now (.receive d)).explorer
    (∀ id, id ∈ e.established.keys ∧ id ∉ e'.established.keys ↔ e.Supplants d id) ∧
    (∀ id, id ∈ e.table.nodes.map Node.id ∧ id ∉ e'.table.nodes.map Node.id ↔
      e.Supplants d id) ∧
    (∀ id id', e.Supplants d id → e.Supplants d id' → id = id') ∧
    (∀ id node, e.established.get? id = some node → node.endpoint ≠ .ofAddress d.address →
      id ∈ e'.established.keys) ∧
    ∀ i : Fin 256, e.table.buckets[i].isFull e.table.bucketSize = true →
      (∀ id, e'.table.buckets[i].contains id = e.table.buckets[i].contains id) ∨
        ∃ id, e.Supplants d id ∧ e.table.buckets[i].contains id = true := by
  intro e e'
  have hreachable := (Reachable.create config system random).run occasions
  have h : e.registry.Coherent := hreachable.coherent
  have h' : e'.registry.Coherent := (hreachable.perform bans now (.receive d)).coherent
  have hlost : ∀ id, (e.established.contains id = true ∧ e'.established.contains id = false) ↔
      e.Supplants d id := fun id => lost_iff h bans now
  refine ⟨?_, ?_, ?_, ?_, ?_⟩
  · intro id
    rw [← hlost, Dict.mem_keys, Dict.mem_keys, Bool.not_eq_true]
  · intro id
    rw [← hlost, mem_table_iff h, mem_table_iff h', Bool.not_eq_true]
  · intro id id' hid hid'
    exact Option.some.inj (hid.known.symm.trans hid'.known)
  · intro id node hnode helsewhere
    have hin : e.established.contains id = true := by
      rw [Dict.contains, hnode]
      rfl
    rw [Dict.mem_keys]
    by_contra hgone
    have hsupplants := (hlost id).1 ⟨hin, Bool.not_eq_true _ ▸ hgone⟩
    have hsame := hnode.symm.trans hsupplants.here
    rw [Option.some.inj hsame] at helsewhere
    exact helsewhere rfl
  · exact fun i hfull => bucket_stays h bans now hfull

open Sample in
/-- A newcomer answers from the endpoint of the only node of a full bucket and takes its place. -/
theorem full_bucket_rotates :
    let e := (run [starts, pinged 0x80 1, ponged 0x80 1 (messageId 0 0), pinged 0x81 1]
      (create { Sample.config 0 3 with allowMultiple := false } (fun _ => none) (source 0))).1
    let e' := (run [ponged 0x81 1 (messageId 0 1)] e).1
    (e.table.bucketFor (nodeId 0x80)).isFull e.table.bucketSize = true ∧
    e.established.contains (nodeId 0x81) = false ∧
    e.table.nodes.map Node.id = [nodeId 0x80] ∧ e'.table.nodes.map Node.id = [nodeId 0x81] := by
  decide +kernel

end Explorer
end NodeDiscovery
