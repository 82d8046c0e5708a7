import NodeDiscovery.Proofs.Eviction

/-!
# A second round of expiring

A round of expiring takes out what has expired and sends PINGs of its own, and some that are under
way it binds to a node.  Whatever it sends is sent now, and has waited for no time at all; so if
requests may wait for any time, the round leaves nothing that has expired.  A second round at the
same moment has nothing to do, and does nothing.

## Main definitions

* `PendingRequests.Current` — no request has expired.

## Main results

* `PendingRequests.drain_of_current` — where nothing has expired, nothing is taken out.
* `Explorer.current_purge` — a round leaves nothing that has expired.
* `Explorer.purge_of_current` — a round with nothing to do does nothing.
* `Explorer.clean_twice` — so a second round at the same moment changes and sends nothing.
-/

namespace NodeDiscovery

namespace PendingRequests

/-- No request has expired. -/
def Current (now : Timestamp) (p : PendingRequests) : Prop :=
  ∀ m r, p.get? m = some r → r.hasExpired now = false

variable {now : Timestamp} {ties : List MessageId} {p : PendingRequests}

/-- What is left when the expired requests have been taken out has not expired. -/
theorem current_filter (now : Timestamp) (p : PendingRequests) :
    Current now (p.filter fun _ r => !r.hasExpired now) := by
  intro m r hr
  simpa using (Dict.get?_filter_eq_some.1 hr).2

/-- Where nothing has expired, nothing is taken out. -/
theorem drain_of_current (h : p.Current now) : drain now ties p = ([], p) := by
  have hwaits : ∀ m r, p.get? m = some r → (!r.hasExpired now) = true := by
    intro m r hr
    rw [h m r hr]
    rfl
  have hnone : p.values.filter (·.hasExpired now) = [] := by
    refine List.filter_eq_nil_iff.2 fun r hr => ?_
    obtain ⟨m, hm⟩ := Dict.mem_values.1 hr
    rw [h m r hm]
    exact Bool.false_ne_true
  rw [drain, hnone, Dict.filter_eq_self hwaits, Request.oldestFirst, List.mergeSort_nil,
    List.mergeSort_nil]

end PendingRequests

namespace Explorer

variable {e : Explorer} {now : Timestamp} {ties : List MessageId}

/-! ### What a round sends has not expired -/

/-- A request that is sent now has not expired, if it may wait at all. -/
theorem hasExpired_nextPing (htimeout : 0 < e.config.requestTimeout) (a : SocketAddress)
    (attempt : UInt32) (related : Option Node) :
    (e.nextPing now a attempt related).hasExpired now = false := by
  have hsince : now.since now = 0 := Nat.sub_self now.millis
  show decide (e.config.requestTimeout ≤ now.since now) = false
  rw [hsince]
  exact decide_eq_false (Nat.not_le.2 htimeout)

theorem current_sendPing (h : e.requests.pings.Current now)
    (htimeout : 0 < e.config.requestTimeout) (a : SocketAddress) (attempt : UInt32)
    (related : Option Node) :
    (e.sendPing now a attempt related).2.requests.pings.Current now := by
  cases hpending : e.requests.pingTo? a with
  | some r =>
    rw [sendPing_of_pending hpending]
    exact h
  | none =>
    rw [sendPing_of_free hpending]
    intro m r hr
    have hr : (e.requests.pings.insert _ _).get? m = some r := hr
    rw [Dict.get?_insert] at hr
    split at hr
    · cases hr
      exact hasExpired_nextPing htimeout a attempt related
    · exact h m r hr

/-- It does not matter to the time that a PING has waited which node it is bound to. -/
theorem current_bind {t : RequestTracker} (h : t.pings.Current now) (id : MessageId) (node : Node) :
    (t.bind id node).pings.Current now := by
  intro m r hr
  rw [RequestTracker.get?_bind] at hr
  split at hr
  · obtain ⟨r₀, hr₀, rfl⟩ := Option.map_eq_some_iff.1 hr
    exact h m r₀ hr₀
  · exact h m r hr

theorem current_pursue (h : e.requests.pings.Current now)
    (htimeout : 0 < e.config.requestTimeout) (a : SocketAddress) (attempt : UInt32)
    (c : Challenge) : (e.pursue now a attempt c).requests.pings.Current now :=
  current_bind (current_sendPing h htimeout a attempt (some c.incumbent)) _ c.incumbent

theorem current_recheckChallenger (h : e.requests.pings.Current now)
    (htimeout : 0 < e.config.requestTimeout) (c : Option Challenge) :
    (e.recheckChallenger now c).requests.pings.Current now := by
  unfold recheckChallenger
  split
  · exact h
  · split
    · next a cache _ =>
      exact current_sendPing (e := { e with addresses := cache }) h htimeout a 1 none
    · exact h

theorem config_giveUp (r : Request) (e : Explorer) : (e.giveUp r).config = e.config := by
  unfold giveUp
  split <;> rfl

/-- When an expired PING has been dealt with, no PING that is waited for has expired. -/
theorem current_expirePing (h : e.requests.pings.Current now)
    (htimeout : 0 < e.config.requestTimeout) (r : Request) :
    (e.expirePing now r).requests.pings.Current now := by
  rcases expirePing_cases now r e with ⟨-, -, he⟩ | ⟨c, -, -, he⟩ | ⟨-, he⟩ <;> rw [he]
  · exact current_sendPing (e := e.withoutChallenge r.id) h htimeout _ _ _
  · exact current_pursue (e := e.withoutChallenge r.id) h htimeout _ _ c
  · have hrequests := (giveUp_frame r (e.withoutChallenge r.id)).2.1
    have hconfig : ((e.withoutChallenge r.id).giveUp r).config = e.config := config_giveUp r _
    exact current_recheckChallenger (hrequests ▸ h) (hconfig ▸ htimeout) _

theorem current_expirePings (h : e.requests.pings.Current now)
    (htimeout : 0 < e.config.requestTimeout) (x : List Request) :
    (e.expirePings now x).requests.pings.Current now := by
  induction x generalizing e with
  | nil => exact h
  | cons r x ih =>
    have hconfig := config_expirePing now r e
    exact ih (current_expirePing h htimeout r) (hconfig ▸ htimeout)

/-! ### Rounds -/

/-- A round leaves nothing that has expired. -/
theorem current_purge (htimeout : 0 < e.config.requestTimeout) (now : Timestamp) :
    (e.purge now ties).requests.pings.Current now ∧
      (e.purge now ties).requests.finds.Current now := by
  constructor
  · exact current_expirePings (e := { e with requests := (e.requests.drainPings now ties).2 })
      (PendingRequests.current_filter now e.requests.pings) htimeout _
  · rw [finds_purge]
    exact PendingRequests.current_filter now e.requests.finds

/-- A round with nothing to do does nothing. -/
theorem purge_of_current (hpings : e.requests.pings.Current now)
    (hfinds : e.requests.finds.Current now) : e.purge now ties = e := by
  have hpings : e.requests.drainPings now ties = ([], e.requests) := by
    rw [RequestTracker.drainPings, PendingRequests.drain_of_current hpings]
  have hfinds : e.requests.drainFinds now ties = ([], e.requests) := by
    rw [RequestTracker.drainFinds, PendingRequests.drain_of_current hfinds]
  rw [purge, hpings]
  show { e with requests := (e.requests.drainFinds now ties).2 } = e
  rw [hfinds]

/-- **A round of expiring is complete, and a second one does nothing.**  If requests may wait for
any time, then in whatever running state a run leads to, and whatever the clock shows, a round
leaves no PING and no FIND_NODE that has expired.  Another round at the same moment sends nothing
and leaves the explorer exactly as it is, with all that it remembers and its source of random
words. -/
theorem clean_twice (config : Config) (htimeout : 0 < config.requestTimeout)
    (system : SystemLookup) (random : RandomSource) (occasions : List Occasion)
    (hrun : (run occasions (create config system random)).1.phase = .running) (bans bans' : Bans)
    (now : Timestamp) (ties ties' : List MessageId) :
    let e := (run occasions (create config system random)).1
    let e' := (e.perform bans now (.clean ties)).explorer
    (∀ m r, e'.requests.pings.get? m = some r → r.hasExpired now = false) ∧
    (∀ m r, e'.requests.finds.get? m = some r → r.hasExpired now = false) ∧
    e'.perform bans' now (.clean ties') = ⟨e', [], true⟩ := by
  intro e e'
  have hconfig : e.config = config := config_run occasions _
  have hround : e' = { e.purge now ties with outbox := [] } := by
    show (e.perform bans now (.clean ties)).explorer = _
    rw [perform_clean hrun]
    rfl
  obtain ⟨hpings, hfinds⟩ := current_purge (e := e) (hconfig ▸ htimeout) now
  have hphase : e'.phase = .running := by
    rw [hround]
    exact (phase_purge now e).trans hrun
  refine ⟨hround ▸ hpings, hround ▸ hfinds, ?_⟩
  rw [perform_clean hphase, purge_of_current (hround ▸ hpings) (hround ▸ hfinds), hround]
  rfl

open Sample in
/-- A peer is checked and asked, and answers neither: a round sends another PING and no longer waits
for the FIND_NODE, and a second round has nothing to do. -/
theorem clean_twice_after_update :
    let occasions := [starts, pinged 0x80 1, ponged 0x80 1 (messageId 0 0), updates]
    let e := (run occasions (explorer 0 3)).1
    let first := e.perform .none (.ofMillis 3000) (.clean [])
    0 < (Sample.config 0 3).requestTimeout ∧ e.phase = .running ∧
    e.requests.finds.size = 1 ∧ first.explorer.requests.finds.size = 0 ∧ first.sent.length = 1 ∧
    first.explorer.perform .none (.ofMillis 3000) (.clean []) = ⟨first.explorer, [], true⟩ := by
  intro occasions e first
  have htimeout : 0 < (Sample.config 0 3).requestTimeout := by decide
  have hrun : e.phase = .running := by decide +kernel
  obtain ⟨-, -, hsecond⟩ := clean_twice (Sample.config 0 3) htimeout (fun _ => none) (source 0)
    occasions hrun .none .none (.ofMillis 3000) [] []
  refine ⟨htimeout, hrun, ?_, ?_, ?_, hsecond⟩ <;> decide +kernel

end Explorer
end NodeDiscovery
