import NodeDiscovery.Proofs.Attempts
import NodeDiscovery.Proofs.Eviction
import NodeDiscovery.Proofs.Ranking

/-!
# What becomes of a PING that may be tried again

A round of expiring sends a PING in place of every one that has expired and may be tried once more.
It goes to the same address, and a challenge that rested on the old one rests on it.  As a rule it
counts one attempt more and is bound to the same node.  There is one exception.  When an incumbent
is given up, its challenger is sent a PING in the same round, and if the address of the challenger
is that of an expired PING which is dealt with later, this first attempt stands for the one that
should have been sent: the attempts are counted anew, and a node that the expired PING was bound to
is no longer checked.

## Main definitions

* `Explorer.Midway` — the state in the course of a round.
* `Explorer.Rechecks` — the end of a PING makes the explorer send one to the challenger.
* `Explorer.Preempted` — an expired PING finds that its address has just been sent one.

## Main results

* `Explorer.Midway.pending_kept` — PINGs to other addresses stay as they are.
* `Explorer.Midway.before_turn` — what an expired PING finds when it is dealt with.
* `Explorer.Midway.retried` — and what it leaves.
* `Explorer.expired_is_retried` — what becomes of it in every run that draws no identifier twice.
* `Explorer.attempts_begin_anew` — a run in which it is forgotten how often an address was tried.
-/

namespace NodeDiscovery
namespace Explorer

/-- The state in the course of a round of expiring, in which the PINGs `x` have been taken out and
are still to be dealt with. -/
structure Midway (drawn : List MessageId) (x : List Request) (e : Explorer) : Prop where
  /-- Challenges rest on PINGs under way or on those still to be dealt with. -/
  backed : e.Backed drawn x
  /-- The PINGs under way are in order. -/
  orderly : e.requests.Orderly
  /-- What is remembered for the text of an IP address is this address. -/
  faithful : e.addresses.Faithful
  /-- Challengers were observed. -/
  observed : ∀ m c, e.challenges.get? m = some c → c.challenger.Observed

/-- The end of a PING costs the incumbent of a challenge its place, and the challenger of this
challenge is at an address. -/
def Rechecks (e : Explorer) (q : Request) (a : SocketAddress) : Prop :=
  e.config.maxPingAttempts ≤ q.attempt ∧ ∃ c ip, e.challenges.get? q.id = some c ∧
    c.challenger.endpoint.host = IpAddress.text ip ∧ a = .ofIp ip c.challenger.endpoint.port

/-- The expired PINGs that a round deals with before another one. -/
def dealtBefore (now : Timestamp) (ties : List MessageId) (r : Request) (e : Explorer) :
    List Request :=
  (e.requests.drainPings now ties).1.takeWhile fun q => decide (q ≠ r)

/-- Before an expired PING is dealt with, a challenger at its address is sent a PING. -/
def Preempted (e : Explorer) (now : Timestamp) (ties : List MessageId) (r : Request) : Prop :=
  ∃ q ∈ e.dealtBefore now ties r, e.Rechecks q r.address

variable {drawn ties : List MessageId} {x y done rest : List Request} {e : Explorer}
  {now : Timestamp}
  {q r p : Request} {m : MessageId} {a b : SocketAddress}

/-! ### Sending a PING -/

/-- The PING under way to an address after one may have been sent there. -/
theorem pings_of_sendPing (horderly : e.requests.Orderly) (now : Timestamp) (a : SocketAddress)
    (attempt : UInt32) (related : Option Node) :
    let s := (e.requests.pingTo? a).getD (e.nextPing now a attempt related)
    (e.sendPing now a attempt related).1 = s.id ∧
      (e.sendPing now a attempt related).2.requests.pings.get? s.id = some s := by
  intro s
  cases hpending : e.requests.pingTo? a with
  | some p =>
    have hs : s = p := by simp [s, hpending]
    obtain ⟨⟨m, hm⟩, -⟩ := RequestTracker.mem_of_pingTo? hpending
    rw [sendPing_of_pending hpending, hs]
    exact ⟨rfl, horderly.keyed m p hm ▸ hm⟩
  | none =>
    have hs : s = e.nextPing now a attempt related := by simp [s, hpending]
    rw [sendPing_of_free hpending, hs]
    refine ⟨rfl, ?_⟩
    show (e.requests.pings.insert _ _).get? _ = _
    rw [Dict.get?_insert, if_pos rfl]

/-- A PING to another address leaves an address free. -/
theorem free_sendPing (hfree : e.requests.pingTo? a = none) (hne : b ≠ a) (now : Timestamp)
    (attempt : UInt32) (related : Option Node) :
    (e.sendPing now b attempt related).2.requests.pingTo? a = none := by
  cases hpending : e.requests.pingTo? b with
  | some p => rwa [sendPing_of_pending hpending]
  | none =>
    rw [sendPing_of_free hpending]
    refine RequestTracker.pingTo?_eq_none.2 fun m p hp => ?_
    have hp : (e.requests.pings.insert _ _).get? m = some p := hp
    rw [Dict.get?_insert] at hp
    split at hp
    · cases hp
      exact hne
    · exact RequestTracker.pingTo?_eq_none.1 hfree m p hp

theorem free_pursue (hfree : e.requests.pingTo? a = none) (hne : b ≠ a) (now : Timestamp)
    (attempt : UInt32) (c : Challenge) : (e.pursue now b attempt c).requests.pingTo? a = none := by
  have hsent := free_sendPing hfree hne now attempt (some c.incumbent)
  refine RequestTracker.pingTo?_eq_none.2 fun m p hp => ?_
  obtain ⟨p₀, hp₀, -, haddress, -⟩ := RequestTracker.get?_of_bind hp
  rw [← haddress]
  exact RequestTracker.pingTo?_eq_none.1 hsent m p₀ hp₀

/-- A challenger that was observed at an address is sent a PING there. -/
theorem recheckChallenger_eq (hfaithful : e.addresses.Faithful) {c : Challenge}
    (hc : c.challenger.endpoint = .ofAddress b) (now : Timestamp) :
    ∃ cache, e.recheckChallenger now (some c)
      = ({ e with addresses := cache }.sendPing now (.ofIp b.ip b.port) 1 none).2 := by
  refine ⟨e.addresses.record (Endpoint.ofAddress b).key (.ofIp b.ip b.port), ?_⟩
  simp only [recheckChallenger, hc, hfaithful.resolve_ofAddress b]

/-- Sending a challenger a PING leaves the PINGs issued before as they are. -/
theorem pings_recheckChallenger {c : Option Challenge}
    (hfresh : (e.recheckChallenger now c).Fresh drawn) (hm : m ∈ e.issued drawn) :
    (e.recheckChallenger now c).requests.pings.get? m = e.requests.pings.get? m := by
  rcases recheckChallenger_cases now c e with hnone | ⟨endpoint, a, cache, -, hsent⟩
  · rw [hnone]
  · rw [hsent] at hfresh ⊢
    exact pings_sendPing (e := { e with addresses := cache }) hfresh hm

/-! ### One turn -/

namespace Midway

theorem expirePing (h : e.Midway drawn (q :: x)) (hfresh : (e.expirePing now q).Fresh drawn) :
    (e.expirePing now q).Midway drawn x where
  backed := backed_expirePing h.backed h.orderly hfresh
  orderly := orderly_of_moves (moves_expirePing now q e) h.orderly
  faithful := faithful_expirePing h.faithful now q
  observed := by
    intro m c hc
    rcases challenge_of_expirePing hc with ⟨-, hc⟩ | ⟨-, hc⟩ <;> exact h.observed _ c hc

/-- PINGs to other addresses stay as they are, with the nodes that they are bound to. -/
theorem pending_kept (h : e.Midway drawn (q :: x)) (hfresh : (e.expirePing now q).Fresh drawn)
    (hp : e.requests.pings.get? m = some p) (hne : p.address ≠ q.address) :
    (e.expirePing now q).requests.pings.get? m = some p := by
  have hm : m ∈ e.issued drawn := h.backed.recorded m p hp
  rcases expirePing_cases now q e with ⟨-, -, he⟩ | ⟨c, -, -, he⟩ | ⟨-, he⟩ <;>
    rw [he] at hfresh ⊢
  · exact (pings_sendPing (e := e.withoutChallenge q.id) hfresh hm).trans hp
  · have hsent : ((e.withoutChallenge q.id).sendPing now q.address (q.attempt + 1)
        (some c.incumbent)).2.Fresh drawn := hfresh
    obtain ⟨_, -, -, hpings⟩ := pings_pursue (e := e.withoutChallenge q.id) h.orderly now q.address
      (q.attempt + 1) c
    rw [hpings, if_neg]
    · exact (pings_sendPing hsent hm).trans hp
    · intro hfst
      obtain ⟨p', hp', haddress⟩ :=
        (sendPing_fst_eq_iff (e := e.withoutChallenge q.id) h.orderly hsent hm).1 hfst.symm
      obtain rfl := Option.some.inj (hp.symm.trans hp')
      exact hne haddress
  · obtain ⟨houtbox, hrequests, -⟩ := giveUp_frame q (e.withoutChallenge q.id)
    have hissued : m ∈ ((e.withoutChallenge q.id).giveUp q).issued drawn := by
      rw [issued, houtbox]
      exact hm
    rw [pings_recheckChallenger hfresh hissued, hrequests]
    exact hp

/-- So do the challenges that rest on PINGs which are still to be dealt with. -/
theorem challenge_eq (h : e.Midway drawn (q :: x)) (hfresh : (e.expirePing now q).Fresh drawn)
    (hr : r ∈ x) : (e.expirePing now q).challenges.get? r.id = e.challenges.get? r.id := by
  have hne : r.id ≠ q.id := fun hid =>
    (List.nodup_cons.1 h.backed.ids).1 (hid ▸ List.mem_map_of_mem hr)
  apply Option.ext
  intro c
  refine ⟨fun hc => ?_, challenge_kept_by_expirePing h.backed h.orderly hfresh hne⟩
  rcases challenge_of_expirePing hc with ⟨-, hc⟩ | ⟨hattempt, hq⟩
  · exact hc
  · -- The challenge of the PING that is dealt with moves to one that is under way.
    obtain ⟨k, hk, hmoved⟩ := challenge_moved_by_expirePing h.backed h.orderly hfresh hattempt hq
    have hid := (h.expirePing hfresh).backed.alone k r.id c c hmoved hc rfl
    exact absurd (hid ▸ List.mem_map_of_mem hr) hk

theorem rechecks_iff (h : e.Midway drawn (q :: x)) (hfresh : (e.expirePing now q).Fresh drawn)
    (hr : r ∈ x) : (e.expirePing now q).Rechecks r a ↔ e.Rechecks r a := by
  rw [Rechecks, Rechecks, config_expirePing, h.challenge_eq hfresh hr]

/-- A challenger at an address that is free is sent a first attempt. -/
theorem sent_of_rechecks (h : e.Midway drawn (q :: x)) (hfree : e.requests.pingTo? a = none)
    (hrechecks : e.Rechecks q a) :
    ∃ p, (e.expirePing now q).requests.pings.get? p.id = some p ∧ p.address = a ∧
      p.createdAt = now ∧ p.attempt = 1 ∧ p.related = none := by
  obtain ⟨hlast, c, ip, hc, hhost, rfl⟩ := hrechecks
  obtain ⟨-, hrequests, haddresses⟩ := giveUp_frame q (e.withoutChallenge q.id)
  have hfaithful : ((e.withoutChallenge q.id).giveUp q).addresses.Faithful :=
    haddresses ▸ h.faithful
  have hendpoint : c.challenger.endpoint
      = .ofAddress (.ofIp ip c.challenger.endpoint.port) := by
    rw [Endpoint.ofAddress, SocketAddress.ip_ofIp, SocketAddress.port_ofIp, ← hhost]
  obtain ⟨cache, hrecheck⟩ := recheckChallenger_eq hfaithful hendpoint now
  rw [SocketAddress.ip_ofIp, SocketAddress.port_ofIp] at hrecheck
  rcases expirePing_cases now q e with ⟨hattempt, -⟩ | ⟨c', hattempt, -⟩ | ⟨-, he⟩
  · exact absurd hattempt (UInt32.not_lt.2 hlast)
  · exact absurd hattempt (UInt32.not_lt.2 hlast)
  · have hfree : ((e.withoutChallenge q.id).giveUp q).requests.pingTo?
        (.ofIp ip c.challenger.endpoint.port) = none := hrequests ▸ hfree
    have hsent := (pings_of_sendPing (e := { (e.withoutChallenge q.id).giveUp q with
      addresses := cache }) (hrequests ▸ h.orderly) now (.ofIp ip c.challenger.endpoint.port) 1
      none).2
    rw [he, hc, hrecheck]
    simp only [hfree, Option.getD_none] at hsent
    exact ⟨_, hsent, rfl, rfl, rfl, rfl⟩

/-- An address that is free stays free if it is neither that of the PING nor that of a
challenger. -/
theorem free_of_not_rechecks (h : e.Midway drawn (q :: x)) (hfree : e.requests.pingTo? a = none)
    (hne : q.address ≠ a) (hrechecks : ¬ e.Rechecks q a) (now : Timestamp) :
    (e.expirePing now q).requests.pingTo? a = none := by
  rcases expirePing_cases now q e with ⟨-, -, he⟩ | ⟨c, -, -, he⟩ | ⟨hlast, he⟩ <;> rw [he]
  · exact free_sendPing (e := e.withoutChallenge q.id) hfree hne now _ _
  · exact free_pursue (e := e.withoutChallenge q.id) hfree hne now _ c
  · obtain ⟨-, hrequests, haddresses⟩ := giveUp_frame q (e.withoutChallenge q.id)
    have hfree : ((e.withoutChallenge q.id).giveUp q).requests.pingTo? a = none := hrequests ▸ hfree
    cases hc : e.challenges.get? q.id with
    | none => exact hfree
    | some c =>
      obtain ⟨b, hb⟩ := h.observed q.id c hc
      obtain ⟨cache, hrecheck⟩ := recheckChallenger_eq (haddresses ▸ h.faithful) hb now
      rw [hrecheck]
      refine free_sendPing (e := { (e.withoutChallenge q.id).giveUp q with addresses := cache })
        hfree (fun ha => hrechecks ⟨hlast, c, b.ip, hc, ?_, ?_⟩) now 1 none
      · rw [hb]; rfl
      · rw [← ha, hb]; rfl

/-- When an expired PING is dealt with that may be tried again, one is sent in its place, unless one
is under way to its address.  Whichever it is, a challenge goes over to it. -/
theorem retried (h : e.Midway drawn (r :: x)) (hattempt : r.attempt < e.config.maxPingAttempts)
    (now : Timestamp) :
    let s := (e.requests.pingTo? r.address).getD
      (e.nextPing now r.address (r.attempt + 1) r.related)
    ∃ related, (e.expirePing now r).requests.pings.get? s.id = some { s with related } ∧
      (e.challenges.get? r.id = none → related = s.related) ∧
      ∀ c, e.challenges.get? r.id = some c →
        related = r.related ∧ (e.expirePing now r).challenges.get? s.id = some c := by
  intro s
  rcases expirePing_cases now r e with ⟨-, hnone, he⟩ | ⟨c, -, hc, he⟩ | ⟨hlast, -⟩
  · obtain ⟨-, hsent⟩ := pings_of_sendPing (e := e.withoutChallenge r.id) h.orderly now r.address
      (r.attempt + 1) r.related
    rw [he, hnone]
    exact ⟨s.related, hsent, fun _ => rfl, fun c hc => by cases hc⟩
  · have hrelated : r.related = some c.incumbent := by
      obtain ⟨r', hr' | ⟨hr', hid⟩, hrelated⟩ := h.backed.backed r.id c hc
      · rw [h.backed.gone r List.mem_cons_self] at hr'
        cases hr'
      · rwa [List.inj_on_of_nodup_map h.backed.ids List.mem_cons_self hr' hid.symm]
    obtain ⟨hid, hsent⟩ := pings_of_sendPing (e := e.withoutChallenge r.id) h.orderly now r.address
      (r.attempt + 1) r.related
    have hid : ((e.withoutChallenge r.id).sendPing now r.address (r.attempt + 1) r.related).1
      = s.id := hid
    refine ⟨some c.incumbent, ?_, fun hnone => ?_, fun c' hc' => ⟨hrelated.symm, ?_⟩⟩
    · rw [he, pursue, RequestTracker.get?_bind, ← hrelated, if_pos hid.symm]
      exact congrArg (Option.map _) hsent
    · rw [hnone] at hc
      cases hc
    · rw [he, challenges_pursue, ← hrelated, if_pos hid.symm]
      exact hc.symm.trans hc'
  · exact absurd hattempt (UInt32.not_lt.2 hlast)

/-! ### Turn after turn -/

theorem expirePings (h : e.Midway drawn (x ++ y)) (hfresh : (e.expirePings now x).Fresh drawn) :
    (e.expirePings now x).Midway drawn y := by
  induction x generalizing e with
  | nil => exact h
  | cons q x ih =>
    have hone : (e.expirePing now q).Fresh drawn := hfresh.first_turn
    exact ih (h.expirePing hone) hfresh

theorem kept_by_expirePings (h : e.Midway drawn (x ++ y))
    (hfresh : (e.expirePings now x).Fresh drawn) (hp : e.requests.pings.get? m = some p)
    (hne : ∀ q ∈ x, p.address ≠ q.address) :
    (e.expirePings now x).requests.pings.get? m = some p := by
  induction x generalizing e with
  | nil => exact hp
  | cons q x ih =>
    have hone : (e.expirePing now q).Fresh drawn := hfresh.first_turn
    exact ih (h.expirePing hone) hfresh (h.pending_kept hone hp (hne q List.mem_cons_self))
      fun q' hq' => hne q' (List.mem_cons_of_mem q hq')

theorem challenge_eq_of_expirePings (h : e.Midway drawn (x ++ y))
    (hfresh : (e.expirePings now x).Fresh drawn) (hr : r ∈ y) :
    (e.expirePings now x).challenges.get? r.id = e.challenges.get? r.id := by
  induction x generalizing e with
  | nil => rfl
  | cons q x ih =>
    have hone : (e.expirePing now q).Fresh drawn := hfresh.first_turn
    exact (ih (h.expirePing hone) hfresh).trans (h.challenge_eq hone (List.mem_append_right x hr))

/-- What an expired PING finds at its address when it is dealt with: nothing, or a first attempt to
a challenger. -/
theorem before_turn (h : e.Midway drawn (done ++ r :: rest))
    (hfresh : (e.expirePings now done).Fresh drawn)
    (hfree : e.requests.pingTo? r.address = none) :
    (¬ ∃ q ∈ done, e.Rechecks q r.address) ∧
        (e.expirePings now done).requests.pingTo? r.address = none ∨
    (∃ q ∈ done, e.Rechecks q r.address) ∧
      ∃ p, (e.expirePings now done).requests.pingTo? r.address = some p ∧
        p.createdAt = now ∧ p.attempt = 1 ∧ p.related = none := by
  induction done generalizing e with
  | nil => exact .inl ⟨by simp, hfree⟩
  | cons q done ih =>
    have hone : (e.expirePing now q).Fresh drawn := hfresh.first_turn
    have hnext := h.expirePing hone
    have hapart : ∀ q' ∈ q :: done, q'.address ≠ r.address := by
      intro q' hq' haddress
      have haddresses := h.backed.addresses
      rw [List.map_append, List.nodup_append] at haddresses
      exact haddresses.2.2 _ (List.mem_map_of_mem hq') _
        (List.mem_map_of_mem List.mem_cons_self) haddress
    have hlater : ∀ q' ∈ done,
        (e.expirePing now q).Rechecks q' r.address ↔ e.Rechecks q' r.address :=
      fun q' hq' => h.rechecks_iff hone (List.mem_append_left _ hq')
    by_cases hrechecks : e.Rechecks q r.address
    · -- The PING to the challenger is still under way when the others have been dealt with.
      obtain ⟨p, hp, haddress, hnow, hattempt, hrelated⟩ := h.sent_of_rechecks hfree hrechecks
      have hkept := hnext.kept_by_expirePings hfresh hp fun q' hq' => by
        rw [haddress]
        exact (hapart q' (List.mem_cons_of_mem q hq')).symm
      have hfound := (hnext.expirePings hfresh).orderly.pingTo?_eq hkept
      rw [haddress] at hfound
      exact .inr ⟨⟨q, List.mem_cons_self, hrechecks⟩, p, hfound, hnow, hattempt, hrelated⟩
    · have hne : q.address ≠ r.address := hapart q List.mem_cons_self
      have hfree' := h.free_of_not_rechecks hfree hne hrechecks now
      rcases ih hnext hfresh hfree' with ⟨hnone, hfree''⟩ | ⟨⟨q', hq', hq'r⟩, hsent⟩
      · refine .inl ⟨?_, hfree''⟩
        rintro ⟨q', hq', hq'r⟩
        rcases List.mem_cons.1 hq' with rfl | hq'
        · exact hrechecks hq'r
        · exact hnone ⟨q', hq', (hlater q' hq').2 hq'r⟩
      · exact .inr ⟨⟨q', List.mem_cons_of_mem q hq', (hlater q' hq').1 hq'r⟩, hsent⟩

/-- What a round does for an expired PING that may be tried again. -/
theorem retried_by_expirePings (h : e.Midway drawn (done ++ r :: rest))
    (hfresh : (e.expirePings now (done ++ r :: rest)).Fresh drawn)
    (hfree : e.requests.pingTo? r.address = none)
    (hattempt : r.attempt < e.config.maxPingAttempts) :
    ∃ p, (e.expirePings now (done ++ r :: rest)).requests.pings.get? p.id = some p ∧
      p.address = r.address ∧ p.createdAt = now ∧
      (∀ c, e.challenges.get? r.id = some c → p.related = r.related ∧
        (e.expirePings now (done ++ r :: rest)).challenges.get? p.id = some c) ∧
      ((¬ ∃ q ∈ done, e.Rechecks q r.address) →
        p.attempt = r.attempt + 1 ∧ p.related = r.related) ∧
      ((∃ q ∈ done, e.Rechecks q r.address) →
        p.attempt = 1 ∧ (e.challenges.get? r.id = none → p.related = none)) := by
  have hround : e.expirePings now (done ++ r :: rest)
      = ((e.expirePings now done).expirePing now r).expirePings now rest := by
    rw [Explorer.expirePings, List.foldl_append]
    rfl
  rw [hround] at hfresh ⊢
  have hturn : ((e.expirePings now done).expirePing now r).Fresh drawn :=
    hfresh.of_moves (moves_expirePings now rest _)
  have hbefore : (e.expirePings now done).Fresh drawn := hturn.of_moves (moves_expirePing now r _)
  have h₁ := h.expirePings hbefore
  have h₂ := h₁.expirePing hturn
  have hconfig : (e.expirePings now done).config = e.config :=
    config_of_moves (moves_expirePings now done e)
  have hchallenge := h.challenge_eq_of_expirePings hbefore List.mem_cons_self
  obtain ⟨related, hs, hsame, hmoved⟩ := h₁.retried (hconfig ▸ hattempt) now
  have hfound := h.before_turn hbefore hfree
  rw [hchallenge] at hsame hmoved
  generalize hs' : ((e.expirePings now done).requests.pingTo? r.address).getD
    (nextPing now r.address (r.attempt + 1) r.related (e.expirePings now done)) = s at *
  have hsent : s.address = r.address ∧ s.createdAt = now := by
    rcases hfound with ⟨-, hnone⟩ | ⟨-, p, hp, hnow, -⟩ <;> subst hs'
    · rw [hnone]
      exact ⟨rfl, rfl⟩
    · rw [hp]
      exact ⟨(RequestTracker.mem_of_pingTo? hp).2, hnow⟩
  have hkept := kept_by_expirePings (y := []) (by rwa [List.append_nil]) hfresh hs fun q hq => by
    rw [hsent.1]
    exact fun haddress => (List.nodup_cons.1 h₁.backed.addresses).1
      (haddress ▸ List.mem_map_of_mem hq)
  refine ⟨{ s with related }, hkept, hsent.1, hsent.2, fun c hc => ?_, fun hnot => ?_,
    fun hpre => ?_⟩
  · obtain ⟨hrelated, hactive⟩ := hmoved c hc
    refine ⟨hrelated, ?_⟩
    -- What the challenge rests on is under way, so it is not among those still to be dealt with.
    have hnew : s.id ∉ rest.map Request.id := by
      intro hin
      obtain ⟨q, hq, hid⟩ := List.mem_map.1 hin
      rw [← hid, h₂.backed.gone q hq] at hs
      cases hs
    obtain ⟨k, hk, hid⟩ := challenge_kept_by_expirePings h₂.backed h₂.orderly hfresh hactive
      fun q hq hid => absurd (hid ▸ List.mem_map_of_mem hq) hnew
    rw [hid hnew] at hk
    exact hk
  · obtain ⟨-, hnone⟩ := hfound.resolve_right fun hpre => hnot hpre.1
    rw [hnone, Option.getD_none] at hs'
    refine ⟨by rw [← hs']; rfl, ?_⟩
    cases hc : e.challenges.get? r.id with
    | none => exact (hsame hc).trans (by rw [← hs']; rfl)
    | some c => exact (hmoved c hc).1
  · obtain ⟨-, p, hp, -, hattempt, hrelated⟩ := hfound.resolve_left fun hnot => hnot.1 hpre
    rw [hp, Option.getD_some] at hs'
    subst hs'
    exact ⟨hattempt, fun hnone => (hsame hnone).trans hrelated⟩

end Midway

/-! ### A round -/

theorem midway_drainPings (h : e.Backed drawn []) (horderly : e.requests.Orderly)
    (hlocated : e.Located) (now : Timestamp) (ties : List MessageId) :
    Midway drawn (e.requests.drainPings now ties).1
      { e with requests := (e.requests.drainPings now ties).2 } where
  backed := backed_drainPings h horderly now ties
  orderly := orderly_drainPings horderly now ties
  faithful := hlocated.faithful
  observed := fun _ _ hc => hlocated.observed _ (.challenger hc rfl)

/-- When the expired PINGs have been taken out, none is under way to where one of them went. -/
theorem free_drainPings (horderly : e.requests.Orderly)
    (hr : e.requests.pings.get? r.id = some r) (hexpired : r.hasExpired now = true)
    (ties : List MessageId) : (e.requests.drainPings now ties).2.pingTo? r.address = none := by
  refine RequestTracker.pingTo?_eq_none.2 fun m p hp haddress => ?_
  rw [RequestTracker.get?_drainPings, Option.filter_eq_some_iff] at hp
  obtain rfl := horderly.eq_of_address hp.1 hr haddress
  simp [hexpired] at hp

/-- An expired PING stands behind those that are dealt with before it. -/
theorem drainPings_eq (hr : r ∈ (e.requests.drainPings now ties).1) :
    ∃ rest, (e.requests.drainPings now ties).1 = e.dealtBefore now ties r ++ r :: rest := by
  unfold dealtBefore
  generalize (e.requests.drainPings now ties).1 = x at hr
  induction x with
  | nil => cases hr
  | cons q x ih =>
    by_cases hq : q = r
    · subst hq
      exact ⟨x, by simp⟩
    · obtain ⟨rest, hx⟩ := ih ((List.mem_cons.1 hr).resolve_left (Ne.symm hq))
      refine ⟨rest, ?_⟩
      rw [List.takeWhile_cons_of_pos (by simpa using hq), List.cons_append, ← hx]

theorem retried_purge (h : e.Backed drawn []) (horderly : e.requests.Orderly)
    (hlocated : e.Located) (hfresh : (e.purge now ties).Fresh drawn)
    (hr : e.requests.pings.get? r.id = some r) (hexpired : r.hasExpired now = true)
    (hattempt : r.attempt < e.config.maxPingAttempts) :
    ∃ p, (e.purge now ties).requests.pings.get? p.id = some p ∧ p.address = r.address ∧
      p.createdAt = now ∧
      (∀ c, e.challenges.get? r.id = some c → p.related = r.related ∧
        (e.purge now ties).challenges.get? p.id = some c) ∧
      (¬ e.Preempted now ties r → p.attempt = r.attempt + 1 ∧ p.related = r.related) ∧
      (e.Preempted now ties r →
        p.attempt = 1 ∧ (e.challenges.get? r.id = none → p.related = none)) := by
  obtain ⟨rest, hx⟩ := drainPings_eq (horderly.mem_expired.2 ⟨hr, hexpired⟩)
  have hstart := midway_drainPings h horderly hlocated now ties
  rw [hx] at hstart
  have hround : (expirePings now (e.dealtBefore now ties r ++ r :: rest)
      { e with requests := (e.requests.drainPings now ties).2 }).Fresh drawn := by
    rw [← hx]
    exact hfresh
  have hretried := hstart.retried_by_expirePings hround
    (free_drainPings horderly hr hexpired ties) hattempt
  rw [← hx] at hretried
  exact hretried

/-- A PING that has not expired stays as it is. -/
theorem kept_by_purge (h : e.Backed drawn []) (horderly : e.requests.Orderly)
    (hlocated : e.Located) (hfresh : (e.purge now ties).Fresh drawn)
    (hp : e.requests.pings.get? p.id = some p) (hwaits : p.hasExpired now = false) :
    (e.purge now ties).requests.pings.get? p.id = some p := by
  have hstart : Midway drawn ((e.requests.drainPings now ties).1 ++ [])
      { e with requests := (e.requests.drainPings now ties).2 } := by
    rw [List.append_nil]
    exact midway_drainPings h horderly hlocated now ties
  refine hstart.kept_by_expirePings hfresh ?_ fun q hq haddress => ?_
  · rw [RequestTracker.get?_drainPings, hp, Option.filter_some, hwaits]
    rfl
  · -- What expires at the same address would be the same PING.
    obtain ⟨hq, hexpired⟩ := horderly.mem_expired.1 hq
    rw [horderly.eq_of_address hp hq haddress, hexpired] at hwaits
    cases hwaits

/-! ### Runs -/

/-- **What becomes of an expired PING that may be tried again.**  In a run that draws no identifier
twice, a round of a running explorer leaves exactly one PING under way to the address of every
expired PING that may be tried once more.  The round has sent it now, with an identifier that was
not drawn before, and if a challenge rested on the expired PING it rests on this one, which is bound
to the same node.  It counts one attempt more and is bound to the same node in any case, except if
the round has just given up an incumbent whose challenger is at the same address: then the PING to
the challenger stands for it, which is a first attempt, and bound to nobody unless a challenge rests
on it.

The round deals with the expired PINGs in some order in which none comes after a younger one, and it
may be any such order. -/
theorem expired_is_retried (config : Config) (system : SystemLookup) (random : RandomSource)
    (occasions : List Occasion)
    (hfresh : (drawnIds occasions (create config system random)).Nodup) {i : Nat} {bans : Bans}
    {now : Timestamp} (ho : occasions[i]? = some ⟨bans, now, .clean ties⟩)
    (hrun : (stateAt occasions (create config system random) i).phase = .running) {r : Request}
    (hr : (stateAt occasions (create config system random) i).requests.pings.get? r.id = some r)
    (hexpired : r.hasExpired now = true) (hattempt : r.attempt < config.maxPingAttempts) :
    let e := stateAt occasions (create config system random) i
    let e' := stateAt occasions (create config system random) (i + 1)
    ∃ p, e'.requests.pings.get? p.id = some p ∧ p.address = r.address ∧
      (∀ m p', e'.requests.pings.get? m = some p' → p'.address = r.address → p' = p) ∧
      p.datagram ∈ sentAt occasions (create config system random) i ∧ p.createdAt = now ∧
      p.id ∉ drawnIds (occasions.take i) (create config system random) ∧
      (∀ c, e.challenges.get? r.id = some c →
        p.related = r.related ∧ e'.challenges.get? p.id = some c) ∧
      (p.attempt = r.attempt + 1 ∧ p.related = r.related ↔ ¬ e.Preempted now ties r) ∧
      (e.Preempted now ties r →
        p.attempt = 1 ∧ (e.challenges.get? r.id = none → p.related = none)) ∧
      ∀ batch : List Request, batch.Perm (e.requests.pings.values.filter (·.hasExpired now)) ∧
          batch.Pairwise (fun a b => a.createdAt ≤ b.createdAt) ↔
        ∃ ties', (e.requests.drainPings now ties').1 = batch := by
  intro e e'
  have hi : i < occasions.length := (List.getElem?_eq_some_iff.1 ho).1
  have hfreshly := freshlyReachable_stateAt hfresh (Nat.le_of_lt hi)
  have hreachable : Reachable e := hfreshly.reachable
  have hconfig : e.config = config := config_run _ _
  have hround : e' = { e.purge now ties with outbox := [] } := by
    rw [show e' = _ from stateAt_succ ho, perform_clean hrun]
    rfl
  have hsent : (e.purge now ties).Fresh
      (drawnIds (occasions.take i) (create config system random)) := by
    have hnext := nodup_drawnIds_take hfresh (i + 1)
    rw [drawnIds_take_succ hi, sentAt_eq ho, perform_clean hrun] at hnext
    exact hnext
  obtain ⟨p, hp, haddress, hnow, hchallenge, hnext, hfirst⟩ := retried_purge hfreshly.backed
    hreachable.orderly hreachable.located hsent hr hexpired (by rw [hconfig]; exact hattempt)
  have hp' : e'.requests.pings.get? p.id = some p := hround ▸ hp
  have horderly : e'.requests.Orderly :=
    ((Reachable.create config system random).stateAt occasions (i + 1)).orderly
  -- The expired PING is lost, and no other one was under way to its address.
  have hlost : LostAt occasions (create config system random) i r :=
    ⟨_, ho, ⟨ties, rfl⟩, hrun, hr, hexpired⟩
  have horigin : p.id ∉ drawnIds (occasions.take i) (create config system random) ∧
      p.datagram ∈ sentAt occasions (create config system random) i := by
    obtain ⟨p₀, heq, ⟨hbefore, hkept⟩ | ⟨hnew, hdatagram, -⟩⟩ :=
      pending_origin_stateAt hfresh hi hp'
    · have hsame : p₀.address = r.address := by
        rw [← haddress, heq]
      obtain rfl := hreachable.orderly.eq_of_address hbefore hr hsame
      exact absurd hlost hkept
    · rw [heq]
      exact ⟨heq ▸ hnew, hdatagram⟩
  have honce : 1 ≤ r.attempt.toNat := (hreachable.tried r.id r hr).1
  have hlarger : r.attempt + 1 ≠ 1 := by
    intro hone
    have htoNat := Request.toNat_next hattempt
    rw [hone, show (1 : UInt32).toNat = 1 from rfl] at htoNat
    omega
  refine ⟨p, hp', haddress, ?_, horigin.2, hnow, horigin.1, ?_, ⟨?_, hnext⟩, hfirst, ?_⟩
  · intro m p' hpending hsame
    exact horderly.eq_of_address hpending hp' (hsame.trans haddress.symm)
  · intro c hc
    rw [hround]
    exact hchallenge c hc
  · rintro ⟨hsame, -⟩ hpre
    exact hlarger (hsame.symm.trans (hfirst hpre).1)
  · intro batch
    constructor
    · rintro ⟨hperm, holdest⟩
      exact hreachable.orderly.exists_drainPings_eq hperm holdest
    · rintro ⟨ties', rfl⟩
      exact ⟨Request.perm_oldestFirst ties' _, Request.pairwise_oldestFirst ties' _⟩

open Sample in
/-- A peer is checked and does not answer: the next round sends it a second attempt. -/
theorem checked_peer_is_retried :
    let occasions := [starts, pinged 0x80 1, ponged 0x80 1 (messageId 0 0), updates, cleans 3000]
    let peer : Node := ⟨nodeId 0x80, .ofAddress (address 1)⟩
    let r : Request := ⟨⟨messageId 0 2, nodeId 0, some 0, .ping (.ofAddress (address 3))⟩,
      address 1, .pong, .ofMillis 0, 3000, some peer, 1⟩
    let e := stateAt occasions (explorer 0 3) 4
    let e' := stateAt occasions (explorer 0 3) 5
    (drawnIds occasions (explorer 0 3)).Nodup ∧ e.phase = .running ∧
    e.requests.pings.get? r.id = some r ∧ r.hasExpired (.ofMillis 3000) = true ∧
    r.attempt < (Sample.config 0 3).maxPingAttempts ∧ ¬ e.Preempted (.ofMillis 3000) [] r ∧
    ∃ p, e'.requests.pings.get? p.id = some p ∧ p.address = address 1 ∧ p.attempt = 2 ∧
      p.related = some peer := by
  intro occasions peer r e e'
  have hfresh : (drawnIds occasions (explorer 0 3)).Nodup := by decide +kernel
  have hrun : e.phase = .running := by decide +kernel
  have hr : e.requests.pings.get? r.id = some r := by decide +kernel
  have hexpired : r.hasExpired (.ofMillis 3000) = true := by decide +kernel
  have hattempt : r.attempt < (Sample.config 0 3).maxPingAttempts := by decide +kernel
  have hnot : ¬ e.Preempted (.ofMillis 3000) [] r := by
    have hnone : e.dealtBefore (.ofMillis 3000) [] r = [] := by decide +kernel
    rintro ⟨q, hq, -⟩
    rw [hnone] at hq
    cases hq
  obtain ⟨p, hp, haddress, -, -, -, -, -, hnext, -⟩ := expired_is_retried (Sample.config 0 3)
    (fun _ => none) (source 0) occasions hfresh (i := 4) rfl hrun hr hexpired hattempt
  obtain ⟨hsecond, hrelated⟩ := hnext.2 hnot
  exact ⟨hfresh, hrun, hr, hexpired, hattempt, hnot, p, hp, haddress, hsecond, hrelated⟩

open Sample in
/-- Three peers at two addresses: 80 is challenged by 81 and stays silent, and 40, which is at the
address of 81, is checked when the last PING to 80 is under way. -/
def crowdedAddress : List Occasion :=
  [starts, pinged 0x80 1, ponged 0x80 1 (messageId 0 0), pinged 0x40 2,
    ponged 0x40 2 (messageId 0 1), pinged 0x81 2, ponged 0x81 2 (messageId 0 2), cleans 3000,
    cleans 6000, ⟨.none, .ofMillis 6001, .update⟩, cleans 9001]

open Sample in
/-- The first round after which the PING to a checked peer has expired is also the one that gives an
incumbent up, whose challenger is at the same address.  So the address is sent a first attempt once
more, which is bound to nobody; and however long the checked peer stays silent, it is not given up
for this check. -/
theorem attempts_begin_anew :
    let peer : Node := ⟨nodeId 0x40, .ofAddress (address 2)⟩
    let r : Request := ⟨⟨messageId 0 8, nodeId 0, some 0, .ping (.ofAddress (address 3))⟩,
      address 2, .pong, .ofMillis 6001, 3000, some peer, 1⟩
    (drawnIds crowdedAddress (explorer 0 3)).Nodup ∧
    crowdedAddress[10]? = some ⟨.none, .ofMillis 9001, .clean []⟩ ∧
    (stateAt crowdedAddress (explorer 0 3) 10).phase = .running ∧
    (stateAt crowdedAddress (explorer 0 3) 10).requests.pings.get? r.id = some r ∧
    r.hasExpired (.ofMillis 9001) = true ∧ r.attempt < (Sample.config 0 3).maxPingAttempts ∧
    (stateAt crowdedAddress (explorer 0 3) 11).requests.pings.values.map
        (fun p => (p.address, p.attempt, p.related)) = [(r.address, 1, none)] ∧
    (run [cleans 12001, cleans 15001, cleans 18001]
      (stateAt crowdedAddress (explorer 0 3) 11)).1.requests.pings.size = 0 ∧
    (run [cleans 12001, cleans 15001, cleans 18001]
      (stateAt crowdedAddress (explorer 0 3) 11)).1.established.get? peer.id = some peer := by
  intro peer r
  let before := stateAt crowdedAddress (explorer 0 3) 9
  let ranked : List Node := [peer, ⟨nodeId 0x80, .ofAddress (address 1)⟩]
  let asked := checkAll (.ofMillis 6001) ranked (askAll (.ofMillis 6001) ranked before)
  let after : Explorer := { asked with outbox := [] }
  -- Sorting does not evaluate, so the order of the peers and of the expired PINGs is proved.
  have hbefore : before.phase = .running := by decide +kernel
  have hranked : before.table.closest before.localId = ranked :=
    Node.closestFirst_eq (by decide +kernel) (by decide +kernel)
  have hasked : before.explore (.ofMillis 6001) = asked :=
    (explore_of_few hranked (by decide +kernel) (by decide +kernel) _).2
  have hafter : after.phase = .running := by decide +kernel
  have hage : (after.requests.pings.values.filter (·.hasExpired (.ofMillis 9001))).Pairwise
      fun a b => a.createdAt ≤ b.createdAt := by decide +kernel
  have hten : stateAt crowdedAddress (explorer 0 3) 10 = after := by
    rw [stateAt_succ (o := ⟨.none, .ofMillis 6001, .update⟩) rfl, perform_update hbefore, hasked]
    rfl
  have heleven : stateAt crowdedAddress (explorer 0 3) 11 = _ :=
    stateAt_succ (o := ⟨.none, .ofMillis 9001, .clean []⟩) rfl
  rw [hten, perform_clean hafter, purge_of_pairwise hage] at heleven
  have hdrawn : drawnIds (crowdedAddress.take 11) (explorer 0 3) = _ :=
    drawnIds_take_succ (i := 10) (by decide)
  rw [drawnIds_take_succ (i := 9) (by decide),
    sentAt_eq (o := ⟨.none, .ofMillis 6001, .update⟩) rfl, perform_update hbefore, hasked,
    sentAt_eq (o := ⟨.none, .ofMillis 9001, .clean []⟩) rfl, hten, perform_clean hafter,
    purge_of_pairwise hage] at hdrawn
  refine ⟨?_, rfl, ?_, ?_, by decide +kernel, by decide +kernel, ?_, ?_, ?_⟩
  · show (drawnIds (crowdedAddress.take 11) (explorer 0 3)).Nodup
    rw [hdrawn]
    decide +kernel
  · rw [hten]
    decide +kernel
  · rw [hten]
    decide +kernel
  · rw [heleven]
    decide +kernel
  · rw [heleven]
    decide +kernel
  · rw [heleven]
    decide +kernel

end Explorer
end NodeDiscovery
