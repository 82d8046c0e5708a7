import NodeDiscovery.Proofs.AddressSets
import NodeDiscovery.Proofs.Ledger

/-!
# What contacting addresses comes to

To contact some addresses is to send each of them a PING, one after the other, and to leave out
those that one is under way to.  As long as all identifiers are fresh, no PING takes the place of
another: the ones under way stay as they are, and in the end there is one under way to every
address.  So nothing is left of a queue of addresses once they have been contacted.

## Main definitions

* `Explorer.Contacted` — what has been sent to some addresses, and what is waited for then.

## Main results

* `Explorer.pending_sendPing` — what is waited for after one PING.
* `Explorer.contacted_contactAll` — and after a number of them.
* `Explorer.contacted_contactQueued` — contacting what is queued leaves nothing in the queue.
-/

namespace NodeDiscovery

theorem RequestTracker.mem_pingAddresses {t : RequestTracker} {a : SocketAddress} :
    a ∈ t.pingAddresses ↔ ∃ m p, t.pings.get? m = some p ∧ p.address = a := by
  simp only [pingAddresses, List.mem_map, Dict.mem_values]
  constructor
  · rintro ⟨p, ⟨m, hp⟩, ha⟩
    exact ⟨m, p, hp, ha⟩
  · rintro ⟨m, p, hp, ha⟩
    exact ⟨p, ⟨m, hp⟩, ha⟩

theorem RequestTracker.pingTo?_eq_none_iff_notMem {t : RequestTracker} {a : SocketAddress} :
    t.pingTo? a = none ↔ a ∉ t.pingAddresses := by
  rw [pingTo?_eq_none, mem_pingAddresses]
  push Not
  rfl

namespace Explorer

/-- Some addresses have been contacted with the given PINGs. -/
structure Contacted (now : Timestamp) (targets : List SocketAddress) (pings : List Request)
    (e e' : Explorer) : Prop where
  /-- The PINGs are queued in their order. -/
  outbox : e'.outbox = e.outbox ++ pings.map Request.datagram
  /-- They go to the addresses that none was under way to, in the order of these. -/
  addresses : pings.map Request.address
    = targets.filter fun a => decide (a ∉ e.requests.pingAddresses)
  /-- They are first attempts, made now, which whoever is at the address may answer. -/
  first : ∀ p ∈ pings, p.message.kind = .ping ∧ p.createdAt = now ∧ p.attempt = 1 ∧
    p.related = none
  /-- They are waited for besides the PINGs that were under way before. -/
  pending : ∀ m p, e'.requests.pings.get? m = some p ↔
    e.requests.pings.get? m = some p ∨ m = p.id ∧ p ∈ pings

variable {drawn : List MessageId} {e e' : Explorer} {now : Timestamp} {a : SocketAddress}
  {targets : List SocketAddress} {pings : List Request} {m : MessageId} {p : Request}

/-- What is waited for after a PING to an address that none was under way to. -/
theorem pending_sendPing {attempt : UInt32} {related : Option Node}
    (hfree : e.requests.pingTo? a = none) (hrecorded : e.Recorded drawn)
    (hfresh : (e.sendPing now a attempt related).2.Fresh drawn) :
    (e.sendPing now a attempt related).2.requests.pings.get? m = some p ↔
      e.requests.pings.get? m = some p ∨ m = p.id ∧ p = e.nextPing now a attempt related := by
  have hnew := Fresh.notMem_issued hfree hfresh
  rw [sendPing_of_free hfree]
  show (e.requests.pings.insert _ _).get? m = some p ↔ _
  rw [Dict.get?_insert]
  split
  · -- The identifier of the PING was not waited for, or it would have been issued before.
    next hm =>
    constructor
    · intro h
      obtain rfl := Option.some.inj h
      exact .inr ⟨hm, rfl⟩
    · rintro (h | ⟨-, rfl⟩)
      · exact absurd (hrecorded m p h) (hm ▸ hnew)
      · rfl
  · next hm =>
    refine ⟨.inl, fun h => h.resolve_right ?_⟩
    rintro ⟨hid, rfl⟩
    exact hm hid

/-! ### One address after the other -/

/-- An address that a PING is under way to is left out. -/
theorem Contacted.cons_of_pending (h : Contacted now targets pings e e')
    (ha : a ∈ e.requests.pingAddresses) : Contacted now (a :: targets) pings e e' := by
  refine ⟨h.outbox, ?_, h.first, h.pending⟩
  rw [List.filter_cons_of_neg (by simpa using ha)]
  exact h.addresses

/-- Any other is sent the first PING. -/
theorem Contacted.cons_of_free (hfree : e.requests.pingTo? a = none) (hrecorded : e.Recorded drawn)
    (hfresh : (e.sendPing now a 1 none).2.Fresh drawn) (ha : a ∉ targets)
    (h : Contacted now targets pings (e.sendPing now a 1 none).2 e') :
    Contacted now (a :: targets) (e.nextPing now a 1 none :: pings) e e' := by
  have hafter := fun m p => @pending_sendPing drawn e now a m p 1 none hfree hrecorded hfresh
  -- The PING to this address is none to the others.
  have hsame : ∀ b ∈ targets, b ∈ (e.sendPing now a 1 none).2.requests.pingAddresses ↔
      b ∈ e.requests.pingAddresses := by
    intro b hb
    simp only [RequestTracker.mem_pingAddresses, hafter]
    constructor
    · rintro ⟨m, p, hp | ⟨-, rfl⟩, rfl⟩
      · exact ⟨m, p, hp, rfl⟩
      · exact absurd hb ha
    · rintro ⟨m, p, hp, hb⟩
      exact ⟨m, p, .inl hp, hb⟩
  refine ⟨?_, ?_, ?_, ?_⟩
  · have hqueued : (e.sendPing now a 1 none).2.outbox
        = e.outbox ++ [(e.nextPing now a 1 none).datagram] := by
      rw [sendPing_of_free hfree]
      rfl
    rw [h.outbox, hqueued, List.append_assoc]
    rfl
  · have hnone := RequestTracker.pingTo?_eq_none_iff_notMem.1 hfree
    rw [List.map_cons, h.addresses, List.filter_cons_of_pos (by simpa using hnone)]
    refine congrArg (List.cons a) (List.filter_congr fun b hb => ?_)
    exact decide_eq_decide.2 (not_congr (hsame b hb))
  · intro p hp
    rcases List.mem_cons.1 hp with rfl | hp
    · exact ⟨rfl, rfl, rfl, rfl⟩
    · exact h.first p hp
  · intro m p
    rw [h.pending, hafter, List.mem_cons, and_or_left, or_assoc]

/-- Contacting addresses sends PINGs to those of them that none was under way to. -/
theorem contacted_contactAll (hnodup : targets.Nodup) (hrecorded : e.Recorded drawn)
    (hfresh : (e.contactAll now targets).Fresh drawn) :
    ∃ pings, Contacted now targets pings e (e.contactAll now targets) := by
  induction targets generalizing e with
  | nil => exact ⟨[], by simp [contactAll], rfl, by simp, by simp [contactAll]⟩
  | cons a targets ih =>
    obtain ⟨ha, hnodup⟩ := List.nodup_cons.1 hnodup
    have hmoves : (e.sendPing now a 1 none).2.Moves (e.contactAll now (a :: targets)) :=
      moves_of_sendings (reflTransGen_foldl (fun _ _ => sendings_sendPing (P := Request.First) rfl)
        targets _)
    have hone : (e.sendPing now a 1 none).2.Fresh drawn := hfresh.of_moves hmoves
    obtain ⟨pings, h⟩ := ih hnodup (recorded_of_moves (moves_sendPing now a 1 none e) hrecorded)
      hfresh
    -- The first PING changes what the others find, but only at its own address.
    cases hpending : e.requests.pingTo? a with
    | some r =>
      obtain ⟨⟨m, hm⟩, haddress⟩ := RequestTracker.mem_of_pingTo? hpending
      have hin := RequestTracker.mem_pingAddresses.2 ⟨m, r, hm, haddress⟩
      rw [contactAll, List.foldl_cons]
      rw [sendPing_of_pending hpending] at h ⊢
      exact ⟨pings, h.cons_of_pending hin⟩
    | none => exact ⟨_, h.cons_of_free hpending hrecorded hone ha⟩

namespace Contacted

/-- A PING is under way to every address that has been contacted. -/
theorem mem_pingAddresses (h : Contacted now targets pings e e') (ha : a ∈ targets) :
    a ∈ e'.requests.pingAddresses := by
  rw [RequestTracker.mem_pingAddresses]
  by_cases hbefore : a ∈ e.requests.pingAddresses
  · obtain ⟨m, p, hp, haddress⟩ := RequestTracker.mem_pingAddresses.1 hbefore
    exact ⟨m, p, (h.pending m p).2 (.inl hp), haddress⟩
  · have hsent : a ∈ pings.map Request.address := by
      rw [h.addresses]
      exact List.mem_filter.2 ⟨ha, decide_eq_true hbefore⟩
    obtain ⟨p, hp, haddress⟩ := List.mem_map.1 hsent
    exact ⟨p.id, p, (h.pending p.id p).2 (.inr ⟨rfl, hp⟩), haddress⟩

/-- No address is sent more than one PING. -/
theorem nodup_addresses (h : Contacted now targets pings e e') (hnodup : targets.Nodup) :
    (pings.map Request.address).Nodup := by
  rw [h.addresses]
  exact hnodup.filter _

/-- Who is sent a PING is one of those contacted, and none was under way to it. -/
theorem address_of_mem (h : Contacted now targets pings e e') (hp : p ∈ pings) :
    p.address ∈ targets ∧ p.address ∉ e.requests.pingAddresses := by
  have hin : p.address ∈ pings.map Request.address := List.mem_map_of_mem hp
  rw [h.addresses, List.mem_filter, decide_eq_true_eq] at hin
  exact hin

theorem length_le (h : Contacted now targets pings e e') : pings.length ≤ targets.length := by
  rw [← List.length_map Request.address, h.addresses]
  exact List.length_filter_le _ _

end Contacted

/-! ### The queue -/

theorem bootNodes_contactAll (now : Timestamp) (targets : List SocketAddress) (e : Explorer) :
    (e.contactAll now targets).bootNodes = e.bootNodes := by
  refine foldl_same bootNodes (fun e a => ?_) targets e
  unfold sendPing
  split <;> rfl

/-- Contacting what is queued leaves nothing in the queue. -/
theorem contacted_contactQueued (hrecorded : e.Recorded drawn)
    (hfresh : (e.contactQueued now).Fresh drawn) :
    (∃ pings, Contacted now e.bootNodes.toList pings e (e.contactQueued now)) ∧
      (e.contactQueued now).bootNodes = .empty := by
  obtain ⟨pings, h⟩ := contacted_contactAll e.bootNodes.nodup_toList hrecorded hfresh
  refine ⟨⟨pings, h.outbox, h.addresses, h.first, h.pending⟩, AddressSet.ext_toList ?_⟩
  show (e.contactAll now e.bootNodes.toList).bootNodes.toList.filter _ = []
  rw [bootNodes_contactAll, List.filter_eq_nil_iff]
  intro a ha
  simpa using h.mem_pingAddresses ha

end Explorer
end NodeDiscovery
