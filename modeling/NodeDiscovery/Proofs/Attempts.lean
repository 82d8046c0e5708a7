import Mathlib.Data.Nat.Init
import NodeDiscovery.Proofs.Ledger

/-!
# How often a PING is tried

A PING that has expired is found so by a round of expiring, which sends another one to the same
address unless it has been tried as often as PINGs are.  The attempt number of a PING is only
counted on in this way.  So a PING with attempt number `n` stands in place of `n - 1` others that
were lost before it, one after the other, and all of them went to the same address.

## Main definitions

* `Explorer.Loses`, `Explorer.LostAt` — a call finds that a PING has expired.
* `Explorer.Replaces` — the lost PINGs in whose place a PING was sent.

## Main results

* `Explorer.pending_origin` — where a PING that is waited for after a call comes from.
* `Explorer.LostAt.gone` — the identifier of a lost PING is not waited for again.
* `Explorer.replaces_of_pending` — every PING stands in place of as many as its attempt number says.
-/

namespace NodeDiscovery
namespace Explorer

/-- A call finds that a PING which is waited for has expired. -/
structure Loses (e : Explorer) (now : Timestamp) (call : Call) (r : Request) : Prop where
  /-- It is a round of expiring. -/
  cleans : ∃ ties, call = .clean ties
  /-- The explorer is running. -/
  running : e.phase = .running
  /-- The PING is waited for. -/
  pending : e.requests.pings.get? r.id = some r
  /-- It has expired. -/
  expired : r.hasExpired now = true

/-- Call number `i` of a run finds that a PING has expired. -/
def LostAt (occasions : List Occasion) (e : Explorer) (i : Nat) (r : Request) : Prop :=
  ∃ o, occasions[i]? = some o ∧ (stateAt occasions e i).Loses o.now o.call r

/-- A PING that is waited for before call number `i` stands in place of others, which are listed
with the calls that found them expired, the latest first.  Each of these calls has sent the next
PING, to the same address and with the next attempt number. -/
inductive Replaces (occasions : List Occasion) (e : Explorer) :
    Nat → Request → List (Nat × Request) → Prop where
  /-- A first attempt stands in place of none. -/
  | first {i : Nat} {r : Request} (hfirst : r.First) : Replaces occasions e i r []
  /-- A later one was sent when the one before it was found expired. -/
  | next {i j : Nat} {r q : Request} {past : List (Nat × Request)}
      (hpast : Replaces occasions e j q past) (hji : j < i) (hlost : LostAt occasions e j q)
      (hsent : r.datagram ∈ sentAt occasions e j)
      (haddress : r.address = q.address) (hattempt : r.attempt.toNat = q.attempt.toNat + 1) :
      Replaces occasions e i r ((j, q) :: past)

variable {drawn : List MessageId} {e : Explorer} {occasions : List Occasion} {i j : Nat}
  {m : MessageId} {r : Request} {past : List (Nat × Request)}

/-! ### One call -/

/-- What is waited for between two calls was drawn. -/
theorem FreshlyReachable.mem_drawn (h : FreshlyReachable drawn e)
    (hr : e.requests.pings.get? m = some r) : m ∈ drawn :=
  h.issued_eq ▸ h.recorded m r hr

/-- A PING that is waited for after a call was waited for before it and has not been lost, or the
call has sent it: as a first attempt, or in place of one that it has found expired.  It may have
been bound to a node since. -/
theorem pending_origin (h : FreshlyReachable drawn e) {bans : Bans} {now : Timestamp} {call : Call}
    (hfresh : (drawn ++ requestIds (e.perform bans now call).sent).Nodup)
    (hr : (e.perform bans now call).explorer.requests.pings.get? m = some r) :
    ∃ r₀, r = { r₀ with related := r.related } ∧
      (e.requests.pings.get? m = some r₀ ∧ ¬ e.Loses now call r₀ ∨
        m ∉ drawn ∧ r₀.datagram ∈ (e.perform bans now call).sent ∧
          (r₀.First ∨ ∃ q, e.Loses now call q ∧ q.attempt < e.config.maxPingAttempts ∧
            r₀.address = q.address ∧ r₀.attempt = q.attempt + 1)) := by
  by_cases hcall : ∃ ties, call = .clean ties
  · obtain ⟨ties, rfl⟩ := hcall
    by_cases hrun : e.phase = .running
    · rw [perform_clean hrun] at hfresh hr ⊢
      obtain ⟨r₀, heq, hbefore | ⟨hrenews, hsent, hnew⟩⟩ :=
        pending_of_sendings (sendings_purge now ties e) hr
      · obtain ⟨hpending, hwaits⟩ := Dict.get?_filter_eq_some.1 hbefore
        refine ⟨r₀, heq, .inl ⟨hpending, fun hlost => ?_⟩⟩
        rw [hlost.expired] at hwaits
        cases hwaits
      · refine ⟨r₀, heq, .inr ⟨fun hm => hnew drawn hfresh (List.mem_append_left _ hm), hsent, ?_⟩⟩
        refine hrenews.imp_right ?_
        rintro ⟨q, hq, hrest⟩
        obtain ⟨hpending, hexpired⟩ := h.reachable.orderly.mem_expired.1 hq
        exact ⟨q, ⟨⟨ties, rfl⟩, hrun, hpending, hexpired⟩, hrest⟩
    · rw [perform_clean_of_not_running hrun] at hr
      exact ⟨r, rfl, .inl ⟨hr, fun hlost => hrun hlost.running⟩⟩
  · obtain ⟨phase, p, q, e', accepted, hsendings, hperform, -⟩ :=
      perform_first bans now (not_exists.1 hcall) e
    rw [hperform] at hfresh hr ⊢
    obtain ⟨r₀, heq, hbefore | ⟨hfirst, hsent, hnew⟩⟩ := pending_of_sendings hsendings hr
    · have hpending := (Dict.get?_filter_eq_some.1 hbefore).1
      exact ⟨r₀, heq, .inl ⟨hpending, fun hlost => hcall hlost.cleans⟩⟩
    · exact ⟨r₀, heq, .inr ⟨fun hm => hnew drawn hfresh (List.mem_append_left _ hm), hsent,
        .inl hfirst⟩⟩

/-! ### Runs -/

section Runs

variable {config : Config} {system : SystemLookup} {random : RandomSource}
  (hfresh : (drawnIds occasions (create config system random)).Nodup)

include hfresh

theorem pending_origin_stateAt (hi : i < occasions.length)
    (hr : (stateAt occasions (create config system random) (i + 1)).requests.pings.get? m
      = some r) :
    ∃ r₀, r = { r₀ with related := r.related } ∧
      ((stateAt occasions (create config system random) i).requests.pings.get? m = some r₀ ∧
          ¬ LostAt occasions (create config system random) i r₀ ∨
        m ∉ drawnIds (occasions.take i) (create config system random) ∧
          r₀.datagram ∈ sentAt occasions (create config system random) i ∧
          (r₀.First ∨ ∃ q, LostAt occasions (create config system random) i q ∧
            q.attempt < config.maxPingAttempts ∧ r₀.address = q.address ∧
            r₀.attempt = q.attempt + 1)) := by
  have ho : occasions[i]? = some occasions[i] := List.getElem?_eq_getElem hi
  have hconfig : (stateAt occasions (create config system random) i).config = config :=
    config_run _ _
  have hnext := nodup_drawnIds_take hfresh (i + 1)
  rw [drawnIds_take_succ hi, sentAt_eq ho] at hnext
  rw [stateAt_succ ho] at hr
  obtain ⟨r₀, heq, horigin⟩ :=
    pending_origin (freshlyReachable_stateAt hfresh (Nat.le_of_lt hi)) hnext hr
  rw [hconfig] at horigin
  rw [sentAt_eq ho]
  refine ⟨r₀, heq, horigin.imp ?_ ?_⟩
  · rintro ⟨hbefore, hkept⟩
    refine ⟨hbefore, ?_⟩
    rintro ⟨o, ho', hlost⟩
    obtain rfl := Option.some.inj (ho'.symm.trans ho)
    exact hkept hlost
  · rintro ⟨hnew, hsent, hrenews⟩
    exact ⟨hnew, hsent, hrenews.imp_right fun ⟨q, hlost, hrest⟩ => ⟨q, ⟨_, ho, hlost⟩, hrest⟩⟩

/-- The identifier of a PING that was lost is not waited for again. -/
theorem LostAt.gone (hlost : LostAt occasions (create config system random) i r) (hij : i < j)
    (hj : j ≤ occasions.length) :
    (stateAt occasions (create config system random) j).requests.pings.get? r.id = none := by
  have ⟨o, ho, hloses⟩ := hlost
  have hi : i < occasions.length := (List.getElem?_eq_some_iff.1 ho).1
  have hreachable := freshlyReachable_stateAt hfresh (Nat.le_of_lt hi)
  have hdrawn : r.id ∈ drawnIds (occasions.take i) (create config system random) :=
    hreachable.mem_drawn hloses.pending
  -- Along with it, that its identifier stays drawn.
  suffices hboth : r.id ∈ drawnIds (occasions.take j) (create config system random) ∧
      (stateAt occasions (create config system random) j).requests.pings.get? r.id = none from
    hboth.2
  induction j, hij using Nat.le_induction with
  | base =>
    refine ⟨?_, Option.eq_none_iff_forall_ne_some.2 fun r' hr' => ?_⟩
    · rw [drawnIds_take_succ hi]
      exact List.mem_append_left _ hdrawn
    · obtain ⟨r₀, -, ⟨hbefore, hkept⟩ | ⟨hnew, -⟩⟩ := pending_origin_stateAt hfresh hi hr'
      · obtain rfl := Option.some.inj (hbefore.symm.trans hloses.pending)
        exact hkept hlost
      · exact hnew hdrawn
  | succ j _ ih =>
    obtain ⟨hdrawn, hnone⟩ := ih (Nat.le_of_succ_le hj)
    refine ⟨?_, Option.eq_none_iff_forall_ne_some.2 fun r' hr' => ?_⟩
    · rw [drawnIds_take_succ hj]
      exact List.mem_append_left _ hdrawn
    · obtain ⟨r₀, -, ⟨hbefore, -⟩ | ⟨hnew, -⟩⟩ := pending_origin_stateAt hfresh hj hr'
      · rw [hnone] at hbefore
        cases hbefore
      · exact hnew hdrawn

end Runs

/-! ### What PINGs stand in place of -/

theorem Replaces.mono (h : Replaces occasions e i r past) (hij : i ≤ j) :
    Replaces occasions e j r past := by
  cases h with
  | first hfirst => exact .first hfirst
  | next hpast hki hlost hsent haddress hattempt =>
    exact .next hpast (Nat.lt_of_lt_of_le hki hij) hlost hsent haddress hattempt

/-- It does not matter what node a PING is bound to. -/
theorem Replaces.bind (h : Replaces occasions e i r past) (related : Option Node) :
    Replaces occasions e i { r with related } past := by
  cases h with
  | first hfirst => exact .first hfirst
  | next hpast hki hlost hsent haddress hattempt =>
    exact .next hpast hki hlost hsent haddress hattempt

/-- The attempt number counts the PINGs that were lost. -/
theorem Replaces.length_eq (h : Replaces occasions e i r past) :
    past.length + 1 = r.attempt.toNat := by
  induction h with
  | first hfirst => rw [hfirst]; rfl
  | next _ _ _ _ _ hattempt ih => rw [hattempt, ← ih, List.length_cons]

/-- In a run that draws no identifier twice every PING stands in place of those that were lost
before it. -/
theorem replaces_of_pending {config : Config} {system : SystemLookup} {random : RandomSource}
    (hfresh : (drawnIds occasions (create config system random)).Nodup) (hi : i ≤ occasions.length)
    (hr : (stateAt occasions (create config system random) i).requests.pings.get? m = some r) :
    ∃ past, Replaces occasions (create config system random) i r past := by
  induction i generalizing m r with
  | zero => cases hr
  | succ i ih =>
    obtain ⟨r₀, heq, horigin⟩ := pending_origin_stateAt hfresh hi hr
    suffices hpast : ∃ past, Replaces occasions (create config system random) (i + 1) r₀ past by
      obtain ⟨past, hpast⟩ := hpast
      rw [heq]
      exact ⟨past, hpast.bind r.related⟩
    rcases horigin with ⟨hbefore, -⟩ | ⟨-, hsent, hfirst | ⟨q, hlost, hattempt, haddress, hnext⟩⟩
    · obtain ⟨past, hpast⟩ := ih (Nat.le_of_succ_le hi) hbefore
      exact ⟨past, hpast.mono (Nat.le_succ i)⟩
    · exact ⟨[], .first hfirst⟩
    · have ⟨_, _, hloses⟩ := hlost
      obtain ⟨past, hpast⟩ := ih (Nat.le_of_succ_le hi) hloses.pending
      refine ⟨(i, q) :: past, .next hpast (Nat.lt_succ_self i) hlost hsent haddress ?_⟩
      rw [hnext, Request.toNat_next hattempt]

end Explorer
end NodeDiscovery
