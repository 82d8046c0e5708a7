import NodeDiscovery.Proofs.Retries
import NodeDiscovery.Proofs.Silence

/-!
# What checking a peer comes to

A round chooses some of the peers of the table and checks each of them with a PING.  But there is at
most one PING under way to an address.  If one is under way to a peer that has been chosen, it
stands for the check, whomever it is bound to; and if several have been chosen at one endpoint, the
PING to the first stands for all of them.  A PING that is bound to a peer counts the rounds of
expiring that find it unanswered, attempt after attempt, and in the end the peer is given up.

## Main definitions

* `Node.SilentIn` — nothing is heard from a node in a call.
* `Node.LeavesAlone` — a node is not at the endpoint of another one.
* `Explorer.lapses` — how many rounds of expiring find a PING expired.
* `Explorer.Checks` — a PING that a node will be given up for.

## Main results

* `Explorer.pings_checkAll`, `Explorer.checked_of_free` — what a list of checks leaves under way.
* `Explorer.Checks.update`, `Explorer.Checks.receive`, `Explorer.Checks.clean` — what a call makes
  of a check.
* `Explorer.Checks.given_up` — a check that no answer comes to ends with the node.
* `Explorer.chosen_are_checked` — what stands for the check of every peer that is chosen.
* `Explorer.chosen_without_check` — runs in which no PING is bound to a peer that is chosen.
-/

namespace NodeDiscovery

/-- In the call nothing is heard from the node, nor from its endpoint. -/
def Node.SilentIn (n : Node) (call : Call) : Prop :=
  ∀ d, call = .receive d → d.message.sender ≠ n.id ∧ .ofAddress d.address ≠ n.endpoint

/-- The node `n'` is observed, and it is at the endpoint of `n` only if it is `n`. -/
def Node.LeavesAlone (n n' : Node) : Prop :=
  n'.Observed ∧ (n'.endpoint = n.endpoint → n' = n)

theorem Node.Observed.reachedAt {n : Node} (h : n.Observed) : ∃ a, n.ReachedAt a := by
  obtain ⟨b, hb⟩ := h
  exact ⟨_, Node.reachedAt_ofIp hb⟩

/-- What a faithful memory finds for a node is where it is reached. -/
theorem Node.ReachedAt.resolve {n : Node} {a : SocketAddress} (h : n.ReachedAt a)
    {c : AddressCache} (hc : c.Faithful) : ∃ cache, c.resolve n.endpoint = (.ok a, cache) := by
  obtain ⟨hendpoint, ha⟩ := h
  refine ⟨c.record (Endpoint.ofAddress a).key a, ?_⟩
  have hfound := hc.resolve_ofAddress a
  rw [← ha] at hfound
  rw [hendpoint, hfound]

namespace Explorer

/-- How many of the rounds of expiring to come find expired what was sent at some moment, if a new
attempt is made each time. -/
def lapses (timeout : Nat) : Timestamp → List Occasion → Nat
  | _, [] => 0
  | since, ⟨_, now, .clean _⟩ :: later =>
    if timeout ≤ now.since since then lapses timeout now later + 1 else lapses timeout since later
  | since, _ :: later => lapses timeout since later

theorem lapses_of_other {bans : Bans} {now : Timestamp} {call : Call}
    (hcall : ∀ ties, call ≠ .clean ties) (timeout : Nat) (since : Timestamp)
    (later : List Occasion) :
    lapses timeout since (⟨bans, now, call⟩ :: later) = lapses timeout since later := by
  cases call with
  | clean ties => exact absurd rfl (hcall ties)
  | start | dispose | receive | update => rfl

/-- A PING under way that a node will be given up for: it is bound to the node and goes to where
the node is reached, where no challenger is that might be sent one in its place. -/
structure Checks (e : Explorer) (n : Node) (p : Request) : Prop where
  /-- The explorer is running. -/
  running : e.phase = .running
  /-- The PING is waited for. -/
  pending : e.requests.pings.get? p.id = some p
  /-- It is bound to the node. -/
  bound : p.related = some n
  /-- It has gone to where the node is reached. -/
  reached : n.ReachedAt p.address
  /-- No challenger is there. -/
  unrivalled : ∀ m c, e.challenges.get? m = some c → c.challenger.endpoint ≠ n.endpoint

variable {drawn ties : List MessageId} {e : Explorer} {now : Timestamp} {m : MessageId}
  {p : Request} {a : SocketAddress} {n : Node} {nodes : List Node}

/-! ### Checking one node after the other -/

theorem check_eq (hfaithful : e.addresses.Faithful) (ha : n.ReachedAt a) (now : Timestamp) :
    ∃ cache, cache.Faithful ∧
      e.check now n = ({ e with addresses := cache }.sendPing now a 1 (some n)).2 := by
  obtain ⟨cache, hresolve⟩ := ha.resolve hfaithful
  refine ⟨cache, hfaithful.resolve hresolve, ?_⟩
  rw [check, hresolve]

theorem moves_checkAll (now : Timestamp) (nodes : List Node) (e : Explorer) :
    e.Moves (e.checkAll now nodes) :=
  moves_of_sendings (sendings_checkAll now nodes e)

theorem pings_check (hfresh : (e.check now n).Fresh drawn) (hm : m ∈ e.issued drawn) :
    (e.check now n).requests.pings.get? m = e.requests.pings.get? m := by
  unfold check at hfresh ⊢
  split at hfresh
  · next cache _ => exact pings_sendPing (e := { e with addresses := cache }) hfresh hm
  · rfl

/-- Checking nodes leaves the PINGs issued before as they are. -/
theorem pings_checkAll (hfresh : (e.checkAll now nodes).Fresh drawn) (hm : m ∈ e.issued drawn) :
    (e.checkAll now nodes).requests.pings.get? m = e.requests.pings.get? m := by
  induction nodes generalizing e with
  | nil => rfl
  | cons n nodes ih =>
    have hone : (e.check now n).Fresh drawn := hfresh.of_moves (moves_checkAll now nodes _)
    have hissued : m ∈ (e.check now n).issued drawn :=
      mem_issued_of_moves (moves_checkAll now [n] e) hm
    exact (ih hfresh hissued).trans (pings_check hone hm)

/-- An address that no PING was under way to is sent a first attempt, which is bound to the first
of the nodes that are reached there. -/
theorem checked_of_free (hfaithful : e.addresses.Faithful) (hrecorded : e.Recorded drawn)
    (hfresh : (e.checkAll now nodes).Fresh drawn) (hfree : e.requests.pingTo? a = none)
    (hobserved : ∀ n ∈ nodes, n.Observed) (hn : n ∈ nodes) (ha : n.ReachedAt a) :
    ∃ p, (e.checkAll now nodes).requests.pings.get? p.id = some p ∧ p.address = a ∧
      p.createdAt = now ∧ p.attempt = 1 ∧
      p.related = nodes.find? fun n' => decide (n'.endpoint = n.endpoint) := by
  induction nodes generalizing e with
  | nil => cases hn
  | cons n₀ nodes ih =>
    have hone : (e.check now n₀).Fresh drawn := hfresh.of_moves (moves_checkAll now nodes _)
    have hrecorded' : (e.check now n₀).Recorded drawn :=
      recorded_of_moves (moves_checkAll now [n₀] e) hrecorded
    obtain ⟨a₀, ha₀⟩ := (hobserved n₀ List.mem_cons_self).reachedAt
    obtain ⟨cache, hcache, hcheck⟩ := check_eq hfaithful ha₀ now
    by_cases hsame : a₀ = a
    · -- The first node that is reached there: its PING stays when the others are checked.
      subst hsame
      have hlater : ((e.check now n₀).checkAll now nodes).Fresh drawn := hfresh
      have hsent : (e.check now n₀).requests.pings.get? (e.nextPing now a₀ 1 (some n₀)).id
          = some (e.nextPing now a₀ 1 (some n₀)) := by
        rw [hcheck, sendPing_of_free (e := { e with addresses := cache }) hfree]
        show (e.requests.pings.insert _ _).get? _ = _
        rw [Dict.get?_insert]
        exact if_pos rfl
      refine ⟨e.nextPing now a₀ 1 (some n₀), ?_, rfl, rfl, rfl, ?_⟩
      · exact (pings_checkAll hlater (hrecorded' _ _ hsent)).trans hsent
      · refine (List.find?_cons_of_pos ?_).symm
        exact decide_eq_true (ha₀.1.trans ha.1.symm)
    · have hne : n₀.endpoint ≠ n.endpoint := fun h => hsame (ha₀.address_eq ha h)
      have hfree' : (e.check now n₀).requests.pingTo? a = none := by
        rw [hcheck]
        exact free_sendPing (e := { e with addresses := cache }) hfree hsame now 1 (some n₀)
      have hfaithful' : (e.check now n₀).addresses.Faithful := by
        rw [hcheck, addresses_sendPing]
        exact hcache
      rw [List.find?_cons_of_neg (by simpa using hne)]
      refine ih hfaithful' hrecorded' hfresh hfree'
        (fun n' hn' => hobserved n' (List.mem_cons_of_mem n₀ hn')) ?_
      exact (List.mem_cons.1 hn).resolve_left fun h => hne (by rw [h])

/-! ### A round of asking and checking -/

/-- The state in which a round has asked and begins to check. -/
def checking (now : Timestamp) (e : Explorer) : Explorer :=
  { e.asked now with random := (e.toCheck now).2 }

theorem explore_eq_checkAll (now : Timestamp) (e : Explorer) :
    e.explore now = (e.checking now).checkAll now (e.toCheck now).1 := rfl

theorem pings_checking (now : Timestamp) (e : Explorer) :
    (e.checking now).requests.pings = e.requests.pings := by
  refine foldl_same (fun e => e.requests.pings) (fun e node => ?_) e.toAsk.1 _
  unfold ask
  split <;> rfl

theorem moves_checking (now : Timestamp) (e : Explorer) : e.Moves (e.checking now) :=
  moves_of_sendings (P := Request.First) <|
    ((sendings_random e.toAsk.2 e).trans (sendings_askAll now e.toAsk.1 _)).trans
      (sendings_random (e.toCheck now).2 _)

theorem faithful_checking (h : e.addresses.Faithful) (now : Timestamp) :
    (e.checking now).addresses.Faithful := by
  have hasked : (e.asked now).addresses.Faithful :=
    faithful_of_deeds (deeds_askAll now (fun _ => True) e.toAsk.1 { e with random := e.toAsk.2 }) h
  exact hasked

/-- A round of asking and checking leaves the PINGs under way as they are. -/
theorem pings_explore (hrecorded : e.Recorded drawn) (hfresh : (e.explore now).Fresh drawn)
    (hp : e.requests.pings.get? m = some p) : (e.explore now).requests.pings.get? m = some p := by
  rw [explore_eq_checkAll] at hfresh ⊢
  have hissued := mem_issued_of_moves (moves_checking now e) (hrecorded m p hp)
  rw [pings_checkAll hfresh hissued, pings_checking]
  exact hp

/-- What stands for the check of a peer that is chosen: the PING under way to it, or a new one that
is bound to the first of the peers chosen at its endpoint. -/
theorem checked_by_explore (hlocated : e.Located) (hcoherent : e.registry.Coherent)
    (horderly : e.requests.Orderly) (hrecorded : e.Recorded drawn)
    (hfresh : (e.explore now).Fresh drawn) (hn : n ∈ (e.toCheck now).1) :
    ∃ p, (e.explore now).requests.pings.get? p.id = some p ∧ n.ReachedAt p.address ∧
      (e.requests.pings.get? p.id = some p ∨
        e.requests.pingTo? p.address = none ∧ p.createdAt = now ∧ p.attempt = 1 ∧
          p.related = (e.toCheck now).1.find? fun n' => decide (n'.endpoint = n.endpoint)) := by
  have hobserved : ∀ n ∈ (e.toCheck now).1, n.Observed := fun n hn =>
    hlocated.observed n (.of_mem hcoherent (mem_nodes_of_toCheck hn))
  obtain ⟨a, ha⟩ := (hobserved n hn).reachedAt
  cases hpending : e.requests.pingTo? a with
  | some p =>
    obtain ⟨⟨m, hm⟩, rfl⟩ := RequestTracker.mem_of_pingTo? hpending
    obtain rfl := horderly.keyed m p hm
    exact ⟨p, pings_explore hrecorded hfresh hm, ha, .inl hm⟩
  | none =>
    have hfree : (e.checking now).requests.pingTo? a = none := by
      rw [RequestTracker.pingTo?, pings_checking]
      exact hpending
    obtain ⟨p, hp, rfl, hnew⟩ := checked_of_free (faithful_checking hlocated.faithful now)
      (recorded_of_moves (moves_checking now e) hrecorded) hfresh hfree hobserved hn ha
    exact ⟨p, hp, ha, .inr ⟨hpending, hnew⟩⟩

/-- If it is new, the round has sent it. -/
theorem sent_of_explore (hp : (e.explore now).requests.pings.get? m = some p)
    (hfree : e.requests.pingTo? p.address = none) : p.datagram ∈ (e.explore now).outbox := by
  obtain ⟨p₀, heq, hbefore | ⟨-, hqueued, -⟩⟩ := pending_of_sendings (sendings_explore now e) hp
  · have hsame : p₀.address = p.address := by rw [heq]
    exact absurd hsame (RequestTracker.pingTo?_eq_none.1 hfree m p₀ hbefore)
  · rw [heq]
    exact hqueued

theorem phase_explore (now : Timestamp) (e : Explorer) : (e.explore now).phase = e.phase :=
  phase_of_moves (moves_of_sendings (sendings_explore now e))

/-! ### Peers at one endpoint -/

/-- PINGs go to where the nodes that they are bound to were observed. -/
theorem FreshlyReachable.keeps (h : FreshlyReachable drawn e) : e.Keeps Node.Observed [] := by
  induction h with
  | create config system random => exact keeps_create config system random
  | perform bans now call h hfresh ih =>
    have hlocated := (h.reachable.perform bans now call).located
    exact keeps_perform ih h.backed h.reachable.orderly h.reachable.coherent (fun n hn => hn) bans
      now call (fun n hn => hlocated.observed n (.established hn)) hfresh

/-- If no peer but one is at some endpoint and no PING is bound to it but that which checks it, then
nothing that the explorer keeps is at the endpoint but this peer. -/
theorem Checks.keeps (h : e.Checks n p) (hfreshly : FreshlyReachable drawn e)
    (halone : ∀ n', e.Peer n' → n'.endpoint = n.endpoint → n' = n) :
    e.Keeps n.LeavesAlone [] := by
  have hreachable := hfreshly.reachable
  have hkeeps := hfreshly.keeps
  have hpeer : ∀ n', e.Peer n' → n.LeavesAlone n' := fun n' hn' =>
    ⟨hreachable.located.observed n' hn', halone n' hn'⟩
  refine ⟨hkeeps.faithful, ?_, ?_, ?_, ?_, nofun⟩
  · intro id n' hn'
    exact hpeer n' (.of_established hreachable.coherent hn')
  · intro id n' hn'
    obtain rfl := DistanceTable.id_of_node? hn'
    exact hpeer n' (.stored hn')
  · intro m c hc
    exact hpeer c.incumbent (.incumbent hc rfl)
  · intro m r hr n' hn'
    have hreached := (hkeeps.bound m r hr n' hn').2
    refine ⟨⟨⟨r.address, hreached.1⟩, fun hsame => ?_⟩, hreached⟩
    -- There is only one PING under way to the endpoint.
    have haddress := hreached.address_eq h.reached hsame
    obtain rfl := hreachable.orderly.eq_of_address hr h.pending haddress
    exact Option.some.inj (hn'.symm.trans h.bound)

/-- It stays so as long as nothing is heard from there. -/
theorem leavesAlone_perform (h : e.Keeps n.LeavesAlone []) (hfreshly : FreshlyReachable drawn e)
    {bans : Bans} {call : Call} (hsilent : n.SilentIn call)
    (hfresh : (drawn ++ requestIds (e.perform bans now call).sent).Nodup) :
    (e.perform bans now call).explorer.Keeps n.LeavesAlone [] := by
  refine keeps_perform h hfreshly.backed hfreshly.reachable.orderly hfreshly.reachable.coherent
    (fun n' hn' => hn'.1) bans now call ?_ hfresh
  intro n' hn'
  by_cases hbefore : e.established.get? n'.id = some n'
  · exact h.established n'.id n' hbefore
  · obtain ⟨d, hcall, -, -, -, hnode⟩ := (perform_effect bans now call e).established hbefore hn'
    have hendpoint : n'.endpoint = .ofAddress d.address := congrArg Node.endpoint hnode
    refine ⟨⟨d.address, hendpoint⟩, fun hsame => ?_⟩
    exact absurd (hendpoint.symm.trans hsame) (hsilent d hcall).2

/-! ### Calls that follow -/

namespace Checks

theorem not_preempted (h : e.Checks n p) (now : Timestamp) : ¬ e.Preempted now ties p := by
  rintro ⟨q, -, -, c, ip, hc, hhost, haddress⟩
  apply h.unrivalled q.id c hc
  have hreached := h.reached.1
  rw [haddress, Endpoint.ofAddress, SocketAddress.ip_ofIp, SocketAddress.port_ofIp, ← hhost]
    at hreached
  exact hreached.symm

theorem start (h : e.Checks n p) (bans : Bans) (now : Timestamp) (contact : Bool) :
    (e.perform bans now (.start contact)).explorer.Checks n p := by
  have hstarted : e.perform bans now (.start contact) = e.finish false :=
    if_neg (by rw [h.running]; exact nofun)
  rw [hstarted]
  exact ⟨h.running, h.pending, h.bound, h.reached, h.unrivalled⟩

theorem update (h : e.Checks n p) (hrecorded : e.Recorded drawn) {bans : Bans}
    (hfresh : (drawn ++ requestIds (e.perform bans now .update).sent).Nodup) :
    (e.perform bans now .update).explorer.Checks n p := by
  rw [perform_update h.running] at hfresh ⊢
  refine ⟨?_, pings_explore hrecorded hfresh h.pending, h.bound, h.reached, ?_⟩
  · exact (phase_explore now e).trans h.running
  · intro m c hc
    have hc : (e.explore now).challenges.get? m = some c := hc
    rw [challenges_explore] at hc
    exact h.unrivalled m c hc

/-- Whatever is heard from elsewhere, a check goes on if no other peer is at the endpoint of the
node. -/
theorem receive (h : e.Checks n p) (hkeeps : e.Keeps n.LeavesAlone [])
    (hfreshly : FreshlyReachable drawn e) {bans : Bans} {d : Datagram}
    (hsilent : n.SilentIn (.receive d))
    (hfresh : (drawn ++ requestIds (e.perform bans now (.receive d)).sent).Nodup) :
    (e.perform bans now (.receive d)).explorer.Checks n p := by
  have hreachable := hfreshly.reachable
  have hfar : Endpoint.ofAddress d.address ≠ n.endpoint := (hsilent d rfl).2
  -- The message does not settle the PING, since it has not come from where the PING went.
  have hwaits : ∀ d' r, Call.receive d = .receive d' → e.Settles d' r → p.id ≠ d'.message.id := by
    rintro d' r hd hsettles hid
    cases hd
    have hsame : r = p := Option.some.inj (hsettles.pending.symm.trans (hid ▸ h.pending))
    rw [← hsettles.address_eq, hsame] at hfar
    exact hfar h.reached.1.symm
  have hcall : ∀ ties, Call.receive d ≠ .clean ties := fun _ => nofun
  obtain ⟨related, hpending, hbound⟩ := kept_by_perform hfreshly hcall hfresh h.pending hwaits
  cases hrelated : related with
  | none =>
    rw [h.bound] at hbound
    cases hbound hrelated
  | some n' =>
    rw [hrelated] at hpending
    -- Whoever it is bound to now is at the endpoint of the node.
    obtain ⟨hleaves, hreached⟩ := (leavesAlone_perform hkeeps hfreshly hsilent hfresh).bound p.id _
      hpending n' rfl
    have hreached : n'.ReachedAt p.address := hreached
    obtain rfl := hleaves.2 (hreached.1.trans h.reached.1.symm)
    rw [← h.bound] at hpending
    refine ⟨(phase_receive bans now d e).trans h.running, hpending, h.bound, h.reached, ?_⟩
    intro m c hc
    rcases rivals_of_perform hreachable.coherent hreachable.orderly bans hc with
      ⟨m', hm'⟩ | ⟨-, d', hd, -, hc⟩
    · exact h.unrivalled m' c hm'
    · cases hd
      rw [hc]
      exact hfar

/-- A round of expiring keeps a check that has not expired, makes another attempt, or gives the node
up. -/
theorem clean (h : e.Checks n p) (hfreshly : FreshlyReachable drawn e) {bans : Bans}
    (hfresh : (drawn ++ requestIds (e.perform bans now (.clean ties)).sent).Nodup) :
    p.hasExpired now = false ∧ (e.perform bans now (.clean ties)).explorer.Checks n p ∨
    p.hasExpired now = true ∧
      ((∃ p', (e.perform bans now (.clean ties)).explorer.Checks n p' ∧ p'.createdAt = now ∧
          p'.attempt.toNat = p.attempt.toNat + 1) ∨
        (e.perform bans now (.clean ties)).explorer.established.contains n.id = false) := by
  have horderly := hfreshly.reachable.orderly
  have hlocated := hfreshly.reachable.located
  rw [perform_clean h.running] at hfresh ⊢
  have hphase : (e.purge now ties).phase = .running := (phase_purge now e).trans h.running
  have hunrivalled : ∀ m c, (e.purge now ties).challenges.get? m = some c →
      c.challenger.endpoint ≠ n.endpoint := by
    intro m c hc
    obtain ⟨m', hm', -⟩ := challenge_of_purge horderly hc
    exact h.unrivalled m' c hm'
  cases hexpired : p.hasExpired now with
  | false =>
    have hkept := kept_by_purge hfreshly.backed horderly hlocated hfresh h.pending hexpired
    exact .inl ⟨rfl, hphase, hkept, h.bound, h.reached, hunrivalled⟩
  | true =>
    refine .inr ⟨rfl, ?_⟩
    by_cases hattempt : p.attempt < e.config.maxPingAttempts
    · obtain ⟨p', hp', haddress, hnow, -, hnext, -⟩ :=
        retried_purge hfreshly.backed horderly hlocated hfresh h.pending hexpired hattempt
      obtain ⟨hsecond, hrelated⟩ := hnext (h.not_preempted now)
      refine .inl ⟨p', ⟨hphase, hp', hrelated.trans h.bound, ?_, hunrivalled⟩, hnow, ?_⟩
      · rw [haddress]
        exact h.reached
      · rw [hsecond, Request.toNat_next hattempt]
    · refine .inr (Bool.eq_false_iff.2 fun hin => ?_)
      refine ((contains_purge horderly h.running now n.id).1 hin).2 ⟨n, p, ?_, rfl⟩
      exact ⟨h.running, h.pending, hexpired, UInt32.not_lt.1 hattempt, h.bound⟩

end Checks

/-- Nobody is established who is silent. -/
theorem absent_of_silence {later : List Occasion} (hsilent : ∀ o ∈ later, n.SilentIn o.call)
    (habsent : e.established.contains n.id = false) :
    (run later e).1.established.contains n.id = false := by
  induction later generalizing e with
  | nil => exact habsent
  | cons o later ih =>
    refine ih (fun o' ho' => hsilent o' (List.mem_cons_of_mem o ho')) ?_
    rw [Dict.contains_eq_false] at habsent ⊢
    refine Option.eq_none_iff_forall_ne_some.2 fun node hafter => ?_
    obtain ⟨d, hcall, -, hsender, -⟩ := (perform_effect o.bans o.now o.call e).established
      (by rw [habsent]; exact nofun) hafter
    exact (hsilent o List.mem_cons_self d hcall).1 hsender

/-- A check that no answer comes to ends with the node, once it has been found expired as often as
there are attempts left; unless the node is not alone at its endpoint and something is heard. -/
theorem Checks.given_up (h : e.Checks n p) (hfreshly : FreshlyReachable drawn e)
    {later : List Occasion} (hsilent : ∀ o ∈ later, n.SilentIn o.call)
    (hgoes : ∀ o ∈ later, o.call ≠ .dispose)
    (halone : e.Keeps n.LeavesAlone [] ∨ ∀ o ∈ later, ∀ d, o.call ≠ .receive d)
    (hfresh : (drawn ++ drawnIds later e).Nodup)
    (hlapses : max 1 e.config.maxPingAttempts.toNat
      < p.attempt.toNat + lapses e.config.requestTimeout p.createdAt later) :
    (run later e).1.established.contains n.id = false := by
  induction later generalizing drawn e p with
  | nil =>
    have htried := (hfreshly.reachable.tried p.id p h.pending).2
    exact absurd hlapses (Nat.not_lt.2 htried)
  | cons o later ih =>
    obtain ⟨bans, now, call⟩ := o
    rw [drawnIds_cons, ← List.append_assoc] at hfresh
    have hone := (List.nodup_append.1 hfresh).1
    have hnext := hfreshly.perform bans now call hone
    rw [List.forall_mem_cons] at hsilent hgoes
    have halone' : (e.perform bans now call).explorer.Keeps n.LeavesAlone [] ∨
        ∀ o ∈ later, ∀ d, o.call ≠ .receive d :=
      halone.imp (fun hkeeps => leavesAlone_perform hkeeps hfreshly hsilent.1 hone)
        fun hnothing => (List.forall_mem_cons.1 hnothing).2
    have hconfig := config_perform bans now call e
    have hkept : (∀ ties, call ≠ .clean ties) → (e.perform bans now call).explorer.Checks n p →
        (run later (e.perform bans now call).explorer).1.established.contains n.id = false := by
      intro hother hchecks
      refine ih hchecks hnext hsilent.2 hgoes.2 halone' hfresh ?_
      rw [lapses_of_other hother] at hlapses
      rw [hconfig]
      exact hlapses
    cases call with
    | start contact => exact hkept (fun _ => nofun) (h.start bans now contact)
    | dispose => exact absurd rfl hgoes.1
    | update => exact hkept (fun _ => nofun) (h.update hfreshly.recorded hone)
    | receive d =>
      have hkeeps := halone.resolve_right fun hnothing =>
        hnothing _ List.mem_cons_self d rfl
      exact hkept (fun _ => nofun) (h.receive hkeeps hfreshly hsilent.1 hone)
    | clean ties =>
      have htimeout := hfreshly.reachable.timeouts p.id p h.pending
      rcases h.clean hfreshly hone with
        ⟨hwaits, hchecks⟩ | ⟨hexpired, ⟨p', hp', hnow, hattempt⟩ | hgone⟩
      · refine ih hchecks hnext hsilent.2 hgoes.2 halone' hfresh ?_
        rw [Request.hasExpired, decide_eq_false_iff_not, htimeout] at hwaits
        rw [lapses, if_neg hwaits] at hlapses
        rw [hconfig]
        exact hlapses
      · refine ih hp' hnext hsilent.2 hgoes.2 halone' hfresh ?_
        rw [Request.hasExpired, decide_eq_true_iff, htimeout] at hexpired
        rw [lapses, if_pos hexpired] at hlapses
        rw [hconfig, hnow, hattempt]
        show _ < _ + lapses _ now later
        omega
      · have habsent := absent_of_silence hsilent.2 hgone
        exact habsent

/-! ### Runs -/

/-- **What stands for the check of a peer that is chosen.**  Whatever running state a run leads to,
if the next round of asking and checking draws no identifier twice and none of a PING under way,
then for every peer that it chooses to check exactly one PING is under way afterwards to where the
peer is reached.  Either this PING was under way before and stays as it is, with its attempts and
the node that it is bound to; or none was, and the round has sent a first attempt, which is bound to
the peer, or to the one chosen before it at the same endpoint if there is any.

If the PING is bound to the peer, no challenger is at its endpoint and no other peer either, then
silence costs the peer its place: whatever calls follow, with whatever is heard from others, unless
they end the explorer, if no identifier is drawn twice in the whole run and the rounds of expiring
find the PING expired as often as there are attempts left, then the peer is neither established nor
in the table any more.  If nothing is heard at all, other peers may be at the endpoint. -/
theorem chosen_are_checked (config : Config) (system : SystemLookup) (random : RandomSource)
    (occasions : List Occasion)
    (hrun : (run occasions (create config system random)).1.phase = .running) (bans : Bans)
    (now : Timestamp)
    (hnew : List.Nodup ((run occasions (create config system random)).1.requests.pings.keys ++
      requestIds ((run occasions (create config system random)).1.perform bans now .update).sent)) :
    let e := (run occasions (create config system random)).1
    let turn := e.perform bans now .update
    ∀ n ∈ (e.toCheck now).1, ∃ p, turn.explorer.requests.pings.get? p.id = some p ∧
      n.ReachedAt p.address ∧
      (∀ m p', turn.explorer.requests.pings.get? m = some p' → p'.address = p.address → p' = p) ∧
      (e.requests.pings.get? p.id = some p ∨
        (∀ m r, e.requests.pings.get? m = some r → r.address ≠ p.address) ∧
          p.datagram ∈ turn.sent ∧ p.createdAt = now ∧ p.attempt = 1 ∧
          p.related = (e.toCheck now).1.find? fun n' => decide (n'.endpoint = n.endpoint)) ∧
      (p.related = some n →
        (∀ m c, e.challenges.get? m = some c → c.challenger.endpoint ≠ n.endpoint) →
        ∀ later : List Occasion, (∀ o ∈ later, o.call ≠ .dispose ∧ n.SilentIn o.call) →
          ((∀ n', e.Peer n' → n'.endpoint = n.endpoint → n' = n) ∨
            ∀ o ∈ later, ∀ d, o.call ≠ .receive d) →
          (drawnIds (occasions ++ ⟨bans, now, .update⟩ :: later)
            (create config system random)).Nodup →
          max 1 config.maxPingAttempts.toNat
            < p.attempt.toNat + lapses config.requestTimeout p.createdAt later →
          (run later turn.explorer).1.established.contains n.id = false ∧
            (run later turn.explorer).1.table.node? n.id = none) := by
  intro e turn n hn
  have hreachable : Reachable e := (Reachable.create config system random).run occasions
  have hafter : Reachable turn.explorer := hreachable.perform bans now .update
  have hconfig : e.config = config := config_run occasions _
  have hturn : turn = (e.explore now).finish true := perform_update hrun bans now
  have hrecorded : e.Recorded e.requests.pings.keys := fun m p hp =>
    List.mem_append_left _ (Dict.mem_keys.2 (Dict.contains_iff.2 ⟨p, hp⟩))
  have hfresh : (e.explore now).Fresh e.requests.pings.keys := by
    have hnew : (e.requests.pings.keys ++ requestIds turn.sent).Nodup := hnew
    rwa [hturn] at hnew
  obtain ⟨p, hp, hreached, horigin⟩ := checked_by_explore hreachable.located hreachable.coherent
    hreachable.orderly hrecorded hfresh hn
  have hp' : turn.explorer.requests.pings.get? p.id = some p := by
    rw [hturn]
    exact hp
  refine ⟨p, hp', hreached, fun m p' hm haddress => ?_, horigin.imp_right ?_, ?_⟩
  · exact hafter.orderly.eq_of_address hm hp' haddress
  · rintro ⟨hfree, hcreated⟩
    refine ⟨RequestTracker.pingTo?_eq_none.1 hfree, ?_, hcreated⟩
    rw [hturn]
    exact sent_of_explore hp hfree
  · intro hbound hunrivalled later hsilent halone hdrawn hlapses
    rw [drawnIds_append, drawnIds_cons, ← List.append_assoc] at hdrawn
    have hone := (List.nodup_append.1 hdrawn).1
    have hfreshly :=
      (freshlyReachable_run (List.nodup_append.1 hone).1).perform bans now .update hone
    have hchecks : turn.explorer.Checks n p := by
      refine ⟨?_, hp', hbound, hreached, ?_⟩
      · rw [hturn]
        exact (phase_explore now e).trans hrun
      · intro m c hc
        have hc : (e.explore now).challenges.get? m = some c := by rwa [hturn] at hc
        rw [challenges_explore] at hc
        exact hunrivalled m c hc
    have hkeeps : turn.explorer.Keeps n.LeavesAlone [] ∨ ∀ o ∈ later, ∀ d, o.call ≠ .receive d := by
      refine halone.imp_left fun halone => hchecks.keeps hfreshly fun n' hn' => halone n' ?_
      refine (peer_of_perform hreachable.coherent hreachable.orderly bans hn').resolve_right ?_
      rintro ⟨d, hd, -⟩
      cases hd
    have hgone : (run later turn.explorer).1.established.contains n.id = false :=
      hchecks.given_up hfreshly (fun o ho => (hsilent o ho).2) (fun o ho => (hsilent o ho).1) hkeeps
        hdrawn (by rwa [config_perform, hconfig])
    have hstored := (hafter.run later).coherent.stored n.id
    rw [show (run later turn.explorer).1.registry.established.contains n.id = false from hgone,
      Option.isSome_eq_false_iff, Option.isNone_iff_eq_none] at hstored
    exact ⟨hgone, hstored⟩

open Sample in
/-- A peer that is checked and then not heard of any more is given up by the third round of
expiring, although a stranger answers the check. -/
theorem checked_peer_is_given_up :
    let occasions := [starts, pinged 0x80 1, ponged 0x80 1 (messageId 0 0)]
    let later := [ponged 0x40 2 (messageId 0 2), cleans 3000, cleans 6000, cleans 9000]
    let peer : Node := ⟨nodeId 0x80, .ofAddress (address 1)⟩
    let e := (run occasions (explorer 0 3)).1
    let turn := e.perform .none (.ofMillis 0) .update
    e.phase = .running ∧ (e.requests.pings.keys ++ requestIds turn.sent).Nodup ∧
    (e.toCheck (.ofMillis 0)).1 = [peer] ∧
    (∀ o ∈ later, o.call ≠ .dispose ∧ peer.SilentIn o.call) ∧
    (∀ n', e.Peer n' → n'.endpoint = peer.endpoint → n' = peer) ∧
    (drawnIds (occasions ++ updates :: later) (explorer 0 3)).Nodup ∧
    (∃ p, turn.explorer.requests.pings.get? p.id = some p ∧ peer.ReachedAt p.address ∧
      p.related = some peer) ∧
    turn.explorer.established.contains peer.id = true ∧
    (run later turn.explorer).1.established.contains peer.id = false := by
  intro occasions later peer e turn
  have hrun : e.phase = .running := by decide +kernel
  have hnew : (e.requests.pings.keys ++ requestIds turn.sent).Nodup := by decide +kernel
  have hchosen : (e.toCheck (.ofMillis 0)).1 = [peer] := by decide +kernel
  have hsilent : ∀ o ∈ later, o.call ≠ .dispose ∧ peer.SilentIn o.call := by
    intro o ho
    simp only [later, List.mem_cons, List.not_mem_nil, or_false] at ho
    rcases ho with rfl | rfl | rfl | rfl
    · refine ⟨nofun, fun d hd => ?_⟩
      cases hd
      decide +kernel
    all_goals exact ⟨nofun, fun d => nofun⟩
  have hdrawn : (drawnIds (occasions ++ updates :: later) (explorer 0 3)).Nodup := by decide +kernel
  have hnone : e.requests.pings.values = [] := by decide +kernel
  have hpeer : peer ∈ (e.toCheck (.ofMillis 0)).1 := by
    rw [hchosen]
    exact List.mem_singleton_self peer
  obtain ⟨p, hp, hreached, -, horigin, hsilence⟩ := chosen_are_checked (Sample.config 0 3)
    (fun _ => none) (source 0) occasions hrun .none (.ofMillis 0) hnew peer hpeer
  obtain ⟨-, -, hnow, hfirst, hrelated⟩ := horigin.resolve_left fun h => by
    have hin : p ∈ e.requests.pings.values := Dict.mem_values.2 ⟨p.id, h⟩
    rw [hnone] at hin
    cases hin
  have hbound : p.related = some peer := by
    rw [hrelated]
    show (e.toCheck (.ofMillis 0)).1.find? _ = _
    rw [hchosen]
    decide +kernel
  have hunchallenged : e.challenges.values = [] := by decide +kernel
  have hunrivalled : ∀ m c, e.challenges.get? m = some c →
      c.challenger.endpoint ≠ peer.endpoint := by
    intro m c hc
    have hin := Dict.mem_values.2 ⟨m, hc⟩
    rw [hunchallenged] at hin
    cases hin
  have halone : ∀ n', e.Peer n' → n'.endpoint = peer.endpoint → n' = peer := by
    intro n' hn' _
    have hestablished : e.established.values = [peer] := by decide +kernel
    have hstored : e.table.nodes = [peer] := by decide +kernel
    have hreachable : Reachable e :=
      (Reachable.create (Sample.config 0 3) (fun _ => none) (source 0)).run occasions
    cases hn' with
    | established h =>
      have hin := Dict.mem_values.2 ⟨n'.id, h⟩
      rwa [hestablished, List.mem_singleton] at hin
    | stored h =>
      have hin : n' ∈ e.table.nodes := (DistanceTable.mem_nodes hreachable.coherent.sound).2 h
      rwa [hstored, List.mem_singleton] at hin
    | incumbent h | challenger h =>
      have hin := Dict.mem_values.2 ⟨_, h⟩
      rw [hunchallenged] at hin
      cases hin
  have hgone := (hsilence hbound hunrivalled later hsilent (.inl halone) hdrawn (by
    rw [hnow, hfirst]
    decide +kernel)).1
  exact ⟨hrun, hnew, hchosen, hsilent, halone, hdrawn, ⟨p, hp, hreached, hbound⟩, by decide +kernel,
    hgone⟩

open Sample in
/-- A stranger has sent a PING from the address of a peer, and has not answered the one it was sent
in turn. -/
def strangerAtPeer : List Occasion :=
  [starts, pinged 0x80 1, ponged 0x80 1 (messageId 0 0), pinged 0x81 1]

open Sample in
/-- The state after a run that ends with a round of asking and checking. -/
theorem run_updates {occasions : List Occasion} (hrun : (run occasions e).1.phase = .running) :
    (run (occasions ++ [updates]) e).1
      = { (run occasions e).1.explore (.ofMillis 0) with outbox := [] } := by
  rw [run_append]
  exact congrArg Turn.explorer (perform_update hrun _ _)

open Sample in
/-- Two peers are established at one endpoint. -/
def peersTogether : List Occasion :=
  [starts, pinged 0x80 1, ponged 0x80 1 (messageId 0 0), pinged 0x40 1,
    ponged 0x40 1 (messageId 0 1)]

open Sample in
/-- Two peers are established while every PING has the same identifier. -/
def peersUnderOneId : List Occasion :=
  [starts, pinged 0x80 1, ponged 0x80 1 (MessageId.draw monotonous).1, pinged 0x40 2,
    ponged 0x40 2 (MessageId.draw monotonous).1]

open Sample in
/-- A peer is chosen, and no PING that is bound to it is under way after the round.  In the first
run the PING to a stranger at its address stands for the check, and when this PING is given up, the
peer is not.  In the second run two peers are chosen at one endpoint, and the PING is bound to the
first of them.  In the third run the PING to the second peer has the identifier of that to the first
one, and is waited for instead of it. -/
theorem chosen_without_check :
    let peer : Node := ⟨nodeId 0x80, .ofAddress (address 1)⟩
    let neighbour : Node := ⟨nodeId 0x40, .ofAddress (address 1)⟩
    let other : Node := ⟨nodeId 0x40, .ofAddress (address 2)⟩
    ((run strangerAtPeer (explorer 0 3)).1.phase = .running ∧
      ((run strangerAtPeer (explorer 0 3)).1.toCheck (.ofMillis 0)).1 = [peer] ∧
      (run (strangerAtPeer ++ [updates]) (explorer 0 3)).1.requests.pings.values.map
        (fun p => (p.address, p.related)) = [(address 1, none)] ∧
      (run (strangerAtPeer ++ [updates, cleans 3000, cleans 6000, cleans 9000])
        (explorer 0 3)).1.requests.pings.size = 0 ∧
      (run (strangerAtPeer ++ [updates, cleans 3000, cleans 6000, cleans 9000])
        (explorer 0 3)).1.established.get? peer.id = some peer) ∧
    ((run peersTogether (explorer 0 3)).1.phase = .running ∧
      ((run peersTogether (explorer 0 3)).1.toCheck (.ofMillis 0)).1 = [neighbour, peer] ∧
      (run (peersTogether ++ [updates]) (explorer 0 3)).1.requests.pings.values.map
        (fun p => (p.address, p.related)) = [(address 1, some neighbour)]) ∧
    (run peersUnderOneId (create (Sample.config 0 3) (fun _ => none) monotonous)).1.phase
      = .running ∧
    ((run peersUnderOneId (create (Sample.config 0 3) (fun _ => none) monotonous)).1.toCheck
      (.ofMillis 0)).1 = [other, peer] ∧
    (run (peersUnderOneId ++ [updates])
      (create (Sample.config 0 3) (fun _ => none) monotonous)).1.requests.pings.values.map
        (fun p => (p.address, p.related)) = [(address 1, some peer)] := by
  intro peer neighbour other
  let together := (run peersTogether (explorer 0 3)).1
  let sameId := (run peersUnderOneId (create (Sample.config 0 3) (fun _ => none) monotonous)).1
  -- Sorting does not evaluate, so the order of the two peers of a run is proved.
  have htogether : together.phase = .running := by decide +kernel
  have hsameId : sameId.phase = .running := by decide +kernel
  have hfirst : together.table.closest together.localId = [neighbour, peer] :=
    Node.closestFirst_eq (by decide +kernel) (by decide +kernel)
  have hsecond : sameId.table.closest sameId.localId = [other, peer] :=
    Node.closestFirst_eq (by decide +kernel) (by decide +kernel)
  obtain ⟨hchosen, hexplored⟩ :=
    explore_of_few hfirst (by decide +kernel) (by decide +kernel) (.ofMillis 0)
  obtain ⟨hchosen', hexplored'⟩ :=
    explore_of_few hsecond (by decide +kernel) (by decide +kernel) (.ofMillis 0)
  refine ⟨⟨by decide +kernel, by decide +kernel, by decide +kernel, by decide +kernel,
    by decide +kernel⟩, ⟨htogether, hchosen, ?_⟩, hsameId, hchosen', ?_⟩
  · rw [run_updates htogether, hexplored]
    decide +kernel
  · rw [run_updates hsameId, hexplored']
    decide +kernel

end Explorer
end NodeDiscovery
