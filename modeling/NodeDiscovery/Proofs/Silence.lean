import NodeDiscovery.Proofs.Bindings

/-!
# Peers that are given up

A round of expiring gives a peer up if a PING that is bound to it has expired and has been tried as
often as PINGs are.  It does so whether the peer is still established where the PING went or not:
the PINGs that follow an expired one keep its address, and nobody asks again where the peer is by
then.  So a peer that has moved is given up for its silence at a place where it was established
before.

## Main definitions

* `Explorer.Silenced` — the last PING to a node has expired.

## Main results

* `Explorer.contains_purge` — whom a round of expiring gives up.
* `Explorer.evicted_for_silence` — and where they were established.
* `Explorer.evicted_elsewhere` — a peer that is given up although it has answered elsewhere.
-/

namespace NodeDiscovery
namespace Explorer

/-- A PING that is bound to a node has expired and is not sent again. -/
structure Silenced (e : Explorer) (now : Timestamp) (n : Node) (r : Request) : Prop where
  /-- The explorer is running. -/
  running : e.phase = .running
  /-- The PING is waited for. -/
  pending : e.requests.pings.get? r.id = some r
  /-- It has expired. -/
  expired : r.hasExpired now = true
  /-- It has been tried as often as PINGs are. -/
  last : e.config.maxPingAttempts ≤ r.attempt
  /-- It is bound to the node. -/
  bound : r.related = some n

variable {e : Explorer} {now : Timestamp} {ties : List MessageId} {occasions : List Occasion}

/-! ### Whom a round of expiring gives up -/

/-- A PING that has expired for the last time costs the node that it is bound to its place. -/
theorem contains_expirePing (now : Timestamp) (r : Request) (e : Explorer) (id : NodeId) :
    (e.expirePing now r).established.contains id = true ↔
      e.established.contains id = true ∧
        ¬ (e.config.maxPingAttempts ≤ r.attempt ∧ ∃ n, r.related = some n ∧ n.id = id) := by
  rcases expirePing_cases now r e with ⟨hattempt, -, h⟩ | ⟨c, hattempt, -, h⟩ | ⟨hlast, h⟩
  · have hsame := congrArg Registry.established (registry_sendPing now r.address (r.attempt + 1)
      r.related (e.withoutChallenge r.id))
    rw [h, show (sendPing now _ _ _ _).2.established = e.established from hsame]
    simp [UInt32.not_le.2 hattempt]
  · have hsame := congrArg Registry.established (registry_pursue now r.address (r.attempt + 1) c
      (e.withoutChallenge r.id))
    rw [h, show (pursue now _ _ _ _).established = e.established from hsame]
    simp [UInt32.not_le.2 hattempt]
  · have hsame := congrArg Registry.established (registry_recheckChallenger now
      (e.challenges.get? r.id) ((e.withoutChallenge r.id).giveUp r))
    rw [h, show (recheckChallenger now _ _).established
      = ((e.withoutChallenge r.id).giveUp r).established from hsame]
    unfold giveUp
    cases hrelated : r.related with
    | none => simp [withoutChallenge]
    | some n =>
      simp only [forget, withoutChallenge, Dict.contains_erase, Bool.and_eq_true,
        Bool.not_eq_true', decide_eq_false_iff_not, hlast, true_and, Option.some.injEq]
      constructor
      · rintro ⟨hne, hin⟩
        refine ⟨hin, ?_⟩
        rintro ⟨n', rfl, hid⟩
        exact hne hid.symm
      · rintro ⟨hin, hnot⟩
        exact ⟨fun hid => hnot ⟨n, rfl, hid.symm⟩, hin⟩

theorem contains_expirePings (now : Timestamp) (x : List Request) (e : Explorer) (id : NodeId) :
    (e.expirePings now x).established.contains id = true ↔
      e.established.contains id = true ∧
        ¬ ∃ r ∈ x, e.config.maxPingAttempts ≤ r.attempt ∧ ∃ n, r.related = some n ∧ n.id = id := by
  induction x generalizing e with
  | nil => simp [expirePings]
  | cons r x ih =>
    have hlater := ih (e.expirePing now r)
    rw [config_expirePing, contains_expirePing] at hlater
    rw [List.exists_mem_cons_iff, not_or, ← and_assoc]
    exact hlater

theorem contains_purge (horderly : e.requests.Orderly) (hrun : e.phase = .running)
    (now : Timestamp) (id : NodeId) :
    (e.purge now ties).established.contains id = true ↔
      e.established.contains id = true ∧ ¬ ∃ n r, e.Silenced now n r ∧ n.id = id := by
  have hround : (e.purge now ties).established.contains id = true ↔ _ :=
    contains_expirePings now (e.requests.drainPings now ties).1
      { e with requests := (e.requests.drainPings now ties).2 } id
  rw [hround]
  refine and_congr_right fun _ => not_congr ⟨?_, ?_⟩
  · rintro ⟨r, hr, hlast, n, hrelated, hid⟩
    obtain ⟨hpending, hexpired⟩ := horderly.mem_expired.1 hr
    exact ⟨n, r, ⟨hrun, hpending, hexpired, hlast, hrelated⟩, hid⟩
  · rintro ⟨n, r, hsilenced, hid⟩
    exact ⟨r, horderly.mem_expired.2 ⟨hsilenced.pending, hsilenced.expired⟩, hsilenced.last, n,
      hsilenced.bound, hid⟩

/-- An established peer is given up by a round of expiring exactly if the last PING that is bound to
it has expired. -/
theorem lost_clean_iff (horderly : e.requests.Orderly) {id : NodeId}
    (hin : e.established.contains id = true) (bans : Bans) (now : Timestamp)
    (ties : List MessageId) :
    (e.perform bans now (.clean ties)).explorer.established.contains id = false ↔
      ∃ n r, e.Silenced now n r ∧ n.id = id := by
  by_cases hrun : e.phase = .running
  · rw [perform_clean hrun, ← Bool.not_eq_true]
    show ¬ (e.purge now ties).established.contains id = true ↔ _
    rw [contains_purge horderly hrun]
    simp [hin]
  · rw [perform_clean_of_not_running hrun]
    show e.established.contains id = false ↔ _
    rw [hin]
    simp only [Bool.true_eq_false, false_iff]
    rintro ⟨n, r, hsilenced, -⟩
    exact hrun hsilenced.running

/-! ### Where they were established -/

/-- A peer that is established otherwise than it was before has been established so by a call in
between. -/
theorem establishedBy_of_moved {id : NodeId} {n node : Node} {i j : Nat} (hij : j ≤ i)
    (hbefore : (stateAt occasions e j).established.get? id = some n)
    (hnow : (stateAt occasions e i).established.get? id = some node) (hne : node ≠ n) :
    ∃ k, j ≤ k ∧ k < i ∧ EstablishedBy occasions e k id node := by
  induction i, hij using Nat.le_induction with
  | base => exact absurd (Option.some.inj (hnow.symm.trans hbefore)) hne
  | succ i hij ih =>
    by_cases hsame : (stateAt occasions e i).established.get? id = some node
    · obtain ⟨k, hjk, hki, hk⟩ := ih hsame
      exact ⟨k, hjk, Nat.lt_succ_of_lt hki, hk⟩
    · exact ⟨i, hij, Nat.lt_succ_self i, hsame, hnow⟩

/-- **Peers are given up for their silence where they were established.**  A round of expiring gives
an established peer up exactly if a PING that is bound to it has expired and has been tried as often
as PINGs are, wherever the peer is established by then.  If no identifier is drawn twice in the run,
the peer had been established before at just the host and the port that the PING went to; and if it
is established otherwise by then, a call in between has established it so. -/
theorem evicted_for_silence (config : Config) (system : SystemLookup) (random : RandomSource)
    (occasions : List Occasion) :
    let e := create config system random
    (∀ i o ties id, occasions[i]? = some o → o.call = .clean ties →
      (stateAt occasions e i).established.contains id = true →
      ((stateAt occasions e (i + 1)).established.contains id = false ↔
        ∃ n r, (stateAt occasions e i).Silenced o.now n r ∧ n.id = id)) ∧
    ((drawnIds occasions e).Nodup →
      ∀ i now n r, i ≤ occasions.length → (stateAt occasions e i).Silenced now n r →
        n.endpoint = ⟨r.address.ip.text, r.address.port⟩ ∧
        ∃ j ≤ i, (stateAt occasions e j).established.get? n.id = some n ∧
          ∀ node, (stateAt occasions e i).established.get? n.id = some node → node ≠ n →
            ∃ k, j ≤ k ∧ k < i ∧ EstablishedBy occasions e k n.id node) := by
  intro e
  refine ⟨?_, ?_⟩
  · intro i o ties id ho hclean hin
    have horderly := ((Reachable.create config system random).stateAt occasions i).orderly
    rw [stateAt_succ ho, hclean]
    exact lost_clean_iff horderly hin o.bans o.now ties
  · intro hfresh i now n r hi hsilenced
    obtain ⟨⟨⟨j, hj, hn⟩, -⟩, hreached⟩ :=
      (keeps_stateAt hfresh hi).bound r.id r hsilenced.pending n hsilenced.bound
    exact ⟨hreached.1, j, hj, hn, fun node hnode => establishedBy_of_moved hj hn hnode⟩

open Sample in
/-- A peer answers at one address and is checked there, then answers at another.  It is given up for
its silence at the first one.  Where all identifiers are the same, a peer is even given up for the
silence of an address at which it never was. -/
theorem evicted_elsewhere :
    let peer : Node := ⟨nodeId 0x80, .ofAddress (address 1)⟩
    let last : MessageId → UInt8 → Request := fun id d =>
      ⟨⟨id, nodeId 0, some 0, .ping (.ofAddress (address 3))⟩, address d, .pong, .ofMillis 6000,
        3000, some peer, 3⟩
    (let occasions := [starts, pinged 0x80 1, pinged 0x80 9, ponged 0x80 1 (messageId 0 0),
        updates, ponged 0x80 9 (messageId 0 1), cleans 3000, cleans 6000]
      let e := (run occasions (explorer 0 3)).1
      (drawnIds occasions (explorer 0 3)).Nodup ∧
      e.Silenced (.ofMillis 9000) peer (last (messageId 0 5) 1) ∧
      e.established.get? peer.id = some ⟨nodeId 0x80, .ofAddress (address 9)⟩ ∧
      (run [cleans 9000] e).1.established.contains peer.id = false) ∧
    let same := (MessageId.draw monotonous).1
    let occasions := [starts, pinged 0x80 1, ponged 0x80 1 same, pinged 0x81 2, ponged 0x81 2 same,
      pinged 0x82 5, cleans 3000, cleans 6000]
    let e := (run occasions (create (Sample.config 0 3) (fun _ => none) monotonous)).1
    e.Silenced (.ofMillis 9000) peer (last same 5) ∧
    e.established.get? peer.id = some peer ∧
    (run [cleans 9000] e).1.established.contains peer.id = false := by
  intro peer last
  refine ⟨⟨?_, ⟨?_, ?_, ?_, ?_, ?_⟩, ?_, ?_⟩, ⟨?_, ?_, ?_, ?_, ?_⟩, ?_, ?_⟩ <;> decide +kernel

open Sample in
/-- A peer that has stayed where it was is checked and does not answer. -/
theorem evicted_where_established :
    let occasions := [starts, pinged 0x80 1, ponged 0x80 1 (messageId 0 0), updates, cleans 3000,
      cleans 6000, cleans 9000]
    let peer : Node := ⟨nodeId 0x80, .ofAddress (address 1)⟩
    let e := stateAt occasions (explorer 0 3) 6
    (drawnIds occasions (explorer 0 3)).Nodup ∧
    e.established.get? peer.id = some peer ∧
    (stateAt occasions (explorer 0 3) 7).established.contains peer.id = false ∧
    ∃ n r, e.Silenced (.ofMillis 9000) n r ∧ n.id = peer.id ∧
      n.endpoint = ⟨r.address.ip.text, r.address.port⟩ ∧
      ∃ j ≤ 6, (stateAt occasions (explorer 0 3) j).established.get? n.id = some n := by
  intro occasions peer e
  have hfresh : (drawnIds occasions (explorer 0 3)).Nodup := by decide +kernel
  have hin : e.established.get? peer.id = some peer := by decide +kernel
  have hout : (stateAt occasions (explorer 0 3) 7).established.contains peer.id = false := by
    decide +kernel
  refine ⟨hfresh, hin, hout, ?_⟩
  obtain ⟨hlost, hstood⟩ :=
    evicted_for_silence (Sample.config 0 3) (fun _ => none) (source 0) occasions
  obtain ⟨n, r, hsilenced, hid⟩ :=
    (hlost 6 (cleans 9000) [] peer.id rfl rfl (Dict.contains_iff.2 ⟨peer, hin⟩)).1 hout
  obtain ⟨hendpoint, j, hj, hn, -⟩ := hstood hfresh 6 _ n r (by decide) hsilenced
  exact ⟨n, r, hsilenced, hid, hendpoint, j, hj, hn⟩

end Explorer
end NodeDiscovery
