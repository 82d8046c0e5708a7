import NodeDiscovery.Proofs.Attempts
import NodeDiscovery.Proofs.Settlement
import NodeDiscovery.Proofs.Silence

/-!
# What it takes to cost an incumbent its place

The incumbent of a full bucket is challenged by a PING and loses its place if it stays silent.  A
challenge follows the PINGs that are sent in place of lost ones, so that none of them costs the
incumbent its place before the last.  But a challenge need not begin with a first attempt: if a PING
is under way to the incumbent's address it is taken over, with the attempts that were made before
the challenge.  And a peer may be given up for another PING that is bound to it, while its challenge
goes on.

## Main definitions

* `Explorer.Rests` — the PING under way that a challenge rests on.
* `Explorer.Ordeal` — the PINGs that have been lost since a challenge began.

## Main results

* `Explorer.address_purge` — a challenge stays at its address.
* `Explorer.rests_origin` — what a challenge rests on after a call.
* `Explorer.ordeal_of_rests` — the attempts of a challenge are counted from its first PING on.
* `Explorer.evicted_after_attempts` — what an incumbent has left unanswered when it is evicted.
* `Explorer.evicted_for_earlier_attempts` — an incumbent that is evicted for what it had left
  unanswered before it was challenged, or elsewhere.
-/

namespace NodeDiscovery
namespace Explorer

/-- A challenge rests on a PING that is under way and bound to its incumbent. -/
structure Rests (e : Explorer) (c : Challenge) (r : Request) : Prop where
  /-- The challenge is known by the identifier of the PING. -/
  active : e.challenges.get? r.id = some c
  /-- The PING is waited for. -/
  pending : e.requests.pings.get? r.id = some r
  /-- Only the incumbent can answer it. -/
  bound : r.related = some c.incumbent

/-- In the course of a round a challenge rests on a PING under way, or on one of the expired PINGs
`x` that are still to be dealt with. -/
structure RestsAmid (x : List Request) (e : Explorer) (c : Challenge) (r : Request) : Prop where
  /-- The challenge is known by the identifier of the PING. -/
  active : e.challenges.get? r.id = some c
  /-- The PING is waited for or still to be dealt with. -/
  awaited : e.requests.pings.get? r.id = some r ∨ r ∈ x

variable {drawn ties : List MessageId} {x : List Request} {e : Explorer} {now : Timestamp}
  {c : Challenge} {q r r₁ first : Request} {m : MessageId} {occasions : List Occasion} {b i : Nat}
  {lost : List (Nat × Request)}

theorem Backed.exists_restsAmid (h : e.Backed drawn x) (horderly : e.requests.Orderly)
    (hc : e.challenges.get? m = some c) : ∃ r, r.id = m ∧ e.RestsAmid x c r := by
  obtain ⟨r, hr | ⟨hr, rfl⟩, -⟩ := h.backed m c hc
  · obtain rfl := horderly.keyed m r hr
    exact ⟨r, rfl, hc, .inl hr⟩
  · exact ⟨r, rfl, hc, .inr hr⟩

theorem Backed.exists_rests (h : e.Backed drawn []) (horderly : e.requests.Orderly)
    (hc : e.challenges.get? m = some c) : ∃ r, r.id = m ∧ e.Rests c r := by
  obtain ⟨r, hr | ⟨hr, -⟩, hrelated⟩ := h.backed m c hc
  · obtain rfl := horderly.keyed m r hr
    exact ⟨r, rfl, hc, hr, hrelated⟩
  · cases hr

/-! ### A challenge stays at its address -/

/-- An expired PING that is still to be dealt with is not under way. -/
theorem Backed.not_awaited (h : e.Backed drawn x) (hr : r ∈ x) :
    e.requests.pings.get? r.id ≠ some q := by
  rw [h.gone r hr]
  exact nofun

/-- While it is not the turn of its PING, a challenge rests on the same PING, which may only have
been bound to a node. -/
theorem address_of_other (h : e.Backed drawn (q :: x)) (horderly : e.requests.Orderly)
    (hfresh : (e.expirePing now q).Fresh drawn) (hr : e.RestsAmid (q :: x) c r)
    (hr₁ : (e.expirePing now q).RestsAmid x c r₁) (hid : r₁.id = r.id) (hne : r.id ≠ q.id) :
    r₁.address = r.address := by
  rcases hr.awaited with hpending | hin
  · rcases hr₁.awaited with hpending₁ | hin₁
    · obtain ⟨r₀, heq, hbefore | ⟨-, -, hnew⟩⟩ :=
        pending_of_sendings (sendings_expirePing now q e) hpending₁
      · rw [hid, hpending] at hbefore
        obtain rfl := Option.some.inj hbefore
        rw [heq]
      · exact absurd (h.mem_issued (hid ▸ hr.active)) (hnew drawn hfresh)
    · exact absurd (hid ▸ hpending) (h.not_awaited (List.mem_cons_of_mem q hin₁))
  · have hin : r ∈ x := by
      rcases List.mem_cons.1 hin with rfl | hin
      · exact absurd rfl hne
      · exact hin
    have hafter := backed_expirePing h horderly hfresh
    rcases hr₁.awaited with hpending₁ | hin₁
    · exact absurd (hid ▸ hpending₁) (hafter.not_awaited hin)
    · rw [List.inj_on_of_nodup_map hafter.ids hin₁ hin hid]

/-- When its PING is dealt with, one goes to the same address. -/
theorem address_of_retried (h : e.Backed drawn (q :: x)) (horderly : e.requests.Orderly)
    (hfresh : (e.expirePing now q).Fresh drawn) (hc : e.challenges.get? q.id = some c)
    (hattempt : q.attempt < e.config.maxPingAttempts)
    (hr₁ : (e.expirePing now q).RestsAmid x c r₁) : r₁.address = q.address := by
  have hretry := expirePing_of_challenge now hattempt hc
  obtain ⟨p, haddress, -, hpings⟩ := pings_pursue (e := e.withoutChallenge q.id) horderly now
    q.address (q.attempt + 1) c
  have hactive := hr₁.active
  rw [hretry, challenges_pursue] at hactive
  split at hactive
  · next hfst =>
    have hp : (e.expirePing now q).requests.pings.get? r₁.id = some p := by
      rw [hretry, hpings, if_pos hfst]
    rcases hr₁.awaited with hpending₁ | hin₁
    · rw [Option.some.inj (hpending₁.symm.trans hp), haddress]
    · exact absurd hp ((backed_expirePing h horderly hfresh).not_awaited hin₁)
  · obtain ⟨hne, hc₁⟩ := get?_withoutChallenge.1 hactive
    exact absurd (h.alone _ _ c c hc₁ hc rfl) hne

/-- When an expired PING is dealt with, a challenge that goes on rests on a PING to the same
address as before. -/
theorem address_expirePing (h : e.Backed drawn (q :: x)) (horderly : e.requests.Orderly)
    (hfresh : (e.expirePing now q).Fresh drawn) (hr : e.RestsAmid (q :: x) c r)
    (hr₁ : (e.expirePing now q).RestsAmid x c r₁) : r₁.address = r.address := by
  rcases challenge_of_expirePing hr₁.active with ⟨hne, hc⟩ | ⟨hattempt, hc⟩
  · have hid : r₁.id = r.id := h.alone _ _ c c hc hr.active rfl
    exact address_of_other h horderly hfresh hr hr₁ hid (hid ▸ hne)
  · have hid : q.id = r.id := h.alone _ _ c c hc hr.active rfl
    obtain rfl : q = r := by
      rcases hr.awaited with hpending | hin
      · exact absurd (hid ▸ hpending) (h.not_awaited List.mem_cons_self)
      · exact List.inj_on_of_nodup_map h.ids List.mem_cons_self hin hid
    exact address_of_retried h horderly hfresh hc hattempt hr₁

theorem address_expirePings (h : e.Backed drawn x) (horderly : e.requests.Orderly)
    (hfresh : (e.expirePings now x).Fresh drawn) (hr : e.RestsAmid x c r)
    (hr₁ : (e.expirePings now x).RestsAmid [] c r₁) : r₁.address = r.address := by
  induction x generalizing e r with
  | nil =>
    have hid : r₁.id = r.id := h.alone _ _ c c hr₁.active hr.active rfl
    rcases hr.awaited, hr₁.awaited with ⟨hpending | hin, hpending₁ | hin₁⟩
    · have hpending₁ : e.requests.pings.get? r₁.id = some r₁ := hpending₁
      rw [hid, hpending] at hpending₁
      rw [Option.some.inj hpending₁]
    · cases hin₁
    · cases hin
    · cases hin
  | cons q x ih =>
    have hone : (e.expirePing now q).Fresh drawn := hfresh.first_turn
    have hbacked := backed_expirePing h horderly hone
    have horderly' := orderly_of_moves (moves_expirePing now q e) horderly
    obtain ⟨m, hm, -⟩ := challenge_of_expirePings (e := e.expirePing now q) hr₁.active
    obtain ⟨q', -, hq'⟩ := hbacked.exists_restsAmid horderly' hm
    exact (ih hbacked horderly' hfresh hq' hr₁).trans (address_expirePing h horderly hone hr hq')

/-- A challenge that goes on after a round of expiring rests on a PING to the same address. -/
theorem address_purge (h : e.Backed drawn []) (horderly : e.requests.Orderly)
    (hfresh : (e.purge now ties).Fresh drawn) (hr : e.Rests c r)
    (hr₁ : (e.purge now ties).Rests c r₁) : r₁.address = r.address := by
  refine address_expirePings (backed_drainPings h horderly now ties)
    (orderly_drainPings horderly now ties) hfresh (r := r) ⟨hr.active, ?_⟩
    ⟨hr₁.active, .inl hr₁.pending⟩
  cases hexpired : r.hasExpired now with
  | true => exact .inr (horderly.mem_expired.2 ⟨hr.pending, hexpired⟩)
  | false =>
    left
    show (e.requests.drainPings now ties).2.pings.get? r.id = some r
    rw [RequestTracker.get?_drainPings, hr.pending]
    simp [hexpired]

/-! ### What a challenge rests on after a call -/

/-- A challenge whose PING is not lost by a call goes on by the same identifier. -/
theorem Rests.challenge_kept (hq : e.Rests c q) (h : FreshlyReachable drawn e) {bans : Bans}
    {call : Call} (hfresh : (drawn ++ requestIds (e.perform bans now call).sent).Nodup)
    (hkept : ¬ e.Loses now call q)
    (hc : (e.perform bans now call).explorer.challenges.get? m = some c) :
    e.challenges.get? m = some c := by
  by_cases hcall : ∃ ties, call = .clean ties
  · obtain ⟨ties, rfl⟩ := hcall
    by_cases hrun : e.phase = .running
    · have hafter := (h.perform bans now (.clean ties) hfresh).backed
      rw [perform_clean hrun] at hfresh hc hafter
      have hwaits : q.hasExpired now = false := by
        rw [← Bool.not_eq_true]
        exact fun hexpired => hkept ⟨⟨ties, rfl⟩, hrun, hq.pending, hexpired⟩
      obtain ⟨k, hk, hid⟩ := challenge_kept_by_purge h.backed h.reachable.orderly hfresh hq.active
        hq.pending fun hexpired => by rw [hwaits] at hexpired; cases hexpired
      obtain rfl : m = k := hafter.alone m k c c hc hk rfl
      rw [hid hwaits]
      exact hq.active
    · rwa [perform_clean_of_not_running hrun] at hc
  · rcases challenges_perform bans now (not_exists.1 hcall) e with
      hsame | ⟨d, c', -, -, hsame⟩ | ⟨d, -, -, hsame⟩
    · rwa [hsame] at hc
    · rw [hsame, Dict.get?_erase_eq_some] at hc
      exact hc.2
    · rw [hsame] at hc
      rcases challenge_of_enroll hc with hc | ⟨hfree, -⟩
      · exact hc
      · exact absurd rfl (Challenges.isChallenged_eq_false_iff.1 hfree q.id c hq.active)

/-- After a call a challenge rests on the PING that it rested on before, or on one in place of it
which goes to the same address and counts at most one attempt more, or the call has begun the
challenge: with a first attempt, or with a PING that was under way. -/
theorem rests_origin (h : FreshlyReachable drawn e) {bans : Bans} {call : Call}
    (hfresh : (drawn ++ requestIds (e.perform bans now call).sent).Nodup)
    (hr : (e.perform bans now call).explorer.Rests c r) :
    e.Rests c r ∨
    (∃ q, e.Rests c q ∧ e.Loses now call q ∧ r.address = q.address ∧
      r.attempt.toNat ≤ q.attempt.toNat + 1) ∨
    (∀ k, e.challenges.get? k ≠ some c) ∧
      (r.First ∨ ∃ q, e.requests.pings.get? r.id = some q ∧
        r = { q with related := some c.incumbent }) := by
  have hbacked := h.backed
  have horderly := h.reachable.orderly
  obtain ⟨r₀, heq, horigin⟩ := pending_origin h hfresh hr.pending
  have hattempt : r.attempt = r₀.attempt := by rw [heq]
  have haddress : r.address = r₀.address := by rw [heq]
  by_cases hactive : ∃ k, e.challenges.get? k = some c
  · obtain ⟨k, hk⟩ := hactive
    obtain ⟨q, -, hq⟩ := hbacked.exists_rests horderly hk
    by_cases hlost : e.Loses now call q
    · refine .inr (.inl ⟨q, hq, hlost, ?_⟩)
      have hsame : r.address = q.address := by
        obtain ⟨ties, rfl⟩ := hlost.cleans
        rw [perform_clean hlost.running] at hfresh hr
        exact address_purge hbacked horderly hfresh hq ⟨hr.active, hr.pending, hr.bound⟩
      refine ⟨hsame, ?_⟩
      rcases horigin with ⟨hbefore, hkept⟩ | ⟨-, -, hfirst | ⟨q', hlost', hmay, haddress', hnext⟩⟩
      · -- No other PING was under way to the address.
        obtain rfl := horderly.eq_of_address hbefore hq.pending (haddress.symm.trans hsame)
        exact absurd hlost hkept
      · rw [hattempt, hfirst]
        exact Nat.le_add_left 1 _
      · obtain rfl := horderly.eq_of_address hlost'.pending hq.pending
          (haddress'.symm.trans (haddress.symm.trans hsame))
        rw [hattempt, hnext, Request.toNat_next hmay]
    · left
      have hc := hq.challenge_kept h hfresh hlost hr.active
      obtain ⟨q', hid, hq'⟩ := hbacked.exists_rests horderly hc
      rcases horigin with ⟨hbefore, -⟩ | ⟨hnew, -⟩
      · rw [← hid, hq'.pending] at hbefore
        obtain rfl := Option.some.inj hbefore
        have hsame : r = q' := by rw [heq, hr.bound, ← hq'.bound]
        rwa [hsame]
      · exact absurd (h.mem_drawn (hid ▸ hq'.pending)) hnew
  · refine .inr (.inr ⟨not_exists.1 hactive, ?_⟩)
    rcases horigin with ⟨hbefore, -⟩ | ⟨-, -, hfirst | ⟨q', hlost, -⟩⟩
    · refine .inr ⟨r₀, hbefore, ?_⟩
      rw [← hr.bound]
      exact heq
    · exact .inl (hattempt.trans hfirst)
    · -- A round of expiring begins no challenge.
      obtain ⟨ties, rfl⟩ := hlost.cleans
      rw [perform_clean hlost.running] at hr
      obtain ⟨k, hk, -⟩ := challenge_of_purge horderly hr.active
      exact absurd ⟨k, hk⟩ hactive

/-! ### Since a challenge began -/

/-- A challenge that call number `b` of a run has begun has been active before each later one up to
call number `i`, and PINGs that it rested on have been lost. -/
structure Ordeal (occasions : List Occasion) (e : Explorer) (c : Challenge) (b : Nat)
    (first : Request) (i : Nat) (lost : List (Nat × Request)) : Prop where
  /-- The challenge was not active before it began. -/
  before : ∀ k, (stateAt occasions e b).challenges.get? k ≠ some c
  /-- It began with a PING. -/
  begun : (stateAt occasions e (b + 1)).Rests c first
  /-- This PING was a first attempt, or it was under way before. -/
  origin : first.First ∨ ∃ q, (stateAt occasions e b).requests.pings.get? first.id = some q ∧
    first = { q with related := some c.incumbent }
  /-- The challenge has been active since. -/
  active : ∀ j, b < j → j < i → ∃ r, (stateAt occasions e j).Rests c r
  /-- It rested on each PING that was lost, and all went to the same address. -/
  unanswered : ∀ p ∈ lost, b < p.1 ∧ p.1 < i ∧ LostAt occasions e p.1 p.2 ∧
    (stateAt occasions e p.1).Rests c p.2 ∧ p.2.address = first.address
  /-- No two of them have the same identifier. -/
  distinct : (lost.map fun p => p.2.id).Nodup

/-- A challenge that is still active goes on. -/
theorem Ordeal.goes_on (h : Ordeal occasions e c b first i lost)
    (hr : (stateAt occasions e i).Rests c r) : Ordeal occasions e c b first (i + 1) lost where
  before := h.before
  begun := h.begun
  origin := h.origin
  active := by
    intro j hbj hji
    rcases Nat.lt_or_eq_of_le (Nat.le_of_lt_succ hji) with hji | rfl
    · exact h.active j hbj hji
    · exact ⟨r, hr⟩
  unanswered := by
    intro p hp
    obtain ⟨hbp, hpi, hrest⟩ := h.unanswered p hp
    exact ⟨hbp, Nat.lt_succ_of_lt hpi, hrest⟩
  distinct := h.distinct

/-- One more PING that it rested on is lost. -/
theorem Ordeal.loses (h : Ordeal occasions e c b first i lost) (hbi : b < i)
    (hr : (stateAt occasions e i).Rests c r) (hlost : LostAt occasions e i r)
    (haddress : r.address = first.address) (hnew : r.id ∉ lost.map fun p => p.2.id) :
    Ordeal occasions e c b first (i + 1) ((i, r) :: lost) where
  before := h.before
  begun := h.begun
  origin := h.origin
  active := (h.goes_on hr).active
  unanswered := by
    intro p hp
    rcases List.mem_cons.1 hp with rfl | hp
    · exact ⟨hbi, Nat.lt_succ_self i, hlost, hr, haddress⟩
    · exact (h.goes_on hr).unanswered p hp
  distinct := List.nodup_cons.2 ⟨hnew, h.distinct⟩

section Runs

variable {config : Config} {system : SystemLookup} {random : RandomSource}
  (hfresh : (drawnIds occasions (create config system random)).Nodup)

include hfresh

/-- The PING that a challenge rests on is none of those that it has lost. -/
theorem Ordeal.new (h : Ordeal occasions (create config system random) c b first i lost)
    (hi : i ≤ occasions.length)
    (hr : (stateAt occasions (create config system random) i).requests.pings.get? m = some r) :
    m ∉ lost.map fun p => p.2.id := by
  intro hin
  obtain ⟨p, hp, rfl⟩ := List.mem_map.1 hin
  obtain ⟨-, hpi, hlost, -⟩ := h.unanswered p hp
  rw [hlost.gone hfresh hpi hi] at hr
  cases hr

/-- Behind a challenge that is active in a run lies its beginning and what it has lost since.  Its
PING goes to the same address as the first one, and counts at most as many attempts more as PINGs
were lost. -/
theorem ordeal_of_rests (hi : i ≤ occasions.length)
    (hr : (stateAt occasions (create config system random) i).Rests c r) :
    ∃ b first lost, b < i ∧ Ordeal occasions (create config system random) c b first i lost ∧
      r.address = first.address ∧ r.attempt.toNat ≤ first.attempt.toNat + lost.length := by
  induction i generalizing r with
  | zero => cases hr.active
  | succ i ih =>
    have ho : occasions[i]? = some occasions[i] := List.getElem?_eq_getElem hi
    have hnext := nodup_drawnIds_take hfresh (i + 1)
    rw [drawnIds_take_succ hi, sentAt_eq ho] at hnext
    have hr' := hr
    rw [stateAt_succ ho] at hr'
    rcases rests_origin (freshlyReachable_stateAt hfresh (Nat.le_of_lt hi)) hnext hr' with
      hsame | ⟨q, hq, hlost, haddress, hattempt⟩ | ⟨hbefore, horigin⟩
    · obtain ⟨b, first, lost, hbi, h, hrest⟩ := ih (Nat.le_of_succ_le hi) hsame
      exact ⟨b, first, lost, Nat.lt_succ_of_lt hbi, h.goes_on hsame, hrest⟩
    · obtain ⟨b, first, lost, hbi, h, hfirst, hcount⟩ := ih (Nat.le_of_succ_le hi) hq
      have hnew := h.new hfresh (Nat.le_of_succ_le hi) hq.pending
      refine ⟨b, first, (i, q) :: lost, Nat.lt_succ_of_lt hbi,
        h.loses hbi hq ⟨_, ho, hlost⟩ hfirst hnew, haddress.trans hfirst, ?_⟩
      rw [List.length_cons]
      omega
    · refine ⟨i, r, [], Nat.lt_succ_self i, ⟨hbefore, hr, horigin, ?_, ?_, List.nodup_nil⟩, rfl,
        Nat.le_refl _⟩
      · intro j hij hji
        omega
      · intro p hp
        cases hp

end Runs

/-! ### Evicted incumbents -/

/-- **An incumbent is evicted for the last of its attempts.**  In a run that draws no identifier
twice, let a round of expiring cost the incumbent of an active challenge its place.  Then the last
of as many PINGs as PINGs are tried has expired: all went to one address, each was sent when the one
before it was found expired, and the last one is bound to the incumbent.  If it is the PING of the
challenge, count the PINGs that were lost since the challenge began: they are bound to the
incumbent, went to its address and have different identifiers.  If the challenge began with a first
attempt, they are as many as PINGs are tried.  If it took over a PING that was under way with
attempt number `a`, they are at most `a - 1` fewer. -/
theorem evicted_after_attempts (config : Config) (system : SystemLookup) (random : RandomSource)
    (occasions : List Occasion)
    (hfresh : (drawnIds occasions (create config system random)).Nodup) :
    let e := create config system random
    let most := max 1 config.maxPingAttempts.toNat
    ∀ i o ties m c, occasions[i]? = some o → o.call = .clean ties →
      (stateAt occasions e i).challenges.get? m = some c →
      (stateAt occasions e i).established.contains c.incumbent.id = true →
      (stateAt occasions e (i + 1)).established.contains c.incumbent.id = false →
      ∃ n r past, n.id = c.incumbent.id ∧ r.related = some n ∧ n.endpoint = .ofAddress r.address ∧
        LostAt occasions e i r ∧ Replaces occasions e i r past ∧ past.length + 1 = most ∧
        (r.id = m → n = c.incumbent ∧ ∃ b first lost, Ordeal occasions e c b first (i + 1) lost ∧
          (i, r) ∈ lost ∧ r.address = first.address ∧
          most + 1 ≤ first.attempt.toNat + lost.length) := by
  intro e most i o ties m c ho hclean hc hin hout
  have hi : i < occasions.length := (List.getElem?_eq_some_iff.1 ho).1
  have hreachable : FreshlyReachable _ (stateAt occasions e i) :=
    freshlyReachable_stateAt hfresh (Nat.le_of_lt hi)
  have horderly := hreachable.reachable.orderly
  have hconfig : (stateAt occasions e i).config = config := config_run _ _
  rw [stateAt_succ ho, hclean, lost_clean_iff horderly hin] at hout
  obtain ⟨n, r, hsilenced, hid⟩ := hout
  have hlost : LostAt occasions e i r :=
    ⟨o, ho, ⟨⟨ties, hclean⟩, hsilenced.running, hsilenced.pending, hsilenced.expired⟩⟩
  have hendpoint : n.endpoint = .ofAddress r.address :=
    ((keeps_stateAt hfresh (Nat.le_of_lt hi)).bound r.id r hsilenced.pending n hsilenced.bound).2.1
  -- It has been tried as often as PINGs are, and not more often.
  have hcount : r.attempt.toNat = most := by
    have hlast : config.maxPingAttempts.toNat ≤ r.attempt.toNat := hconfig ▸ hsilenced.last
    have htried := hreachable.reachable.tried r.id r hsilenced.pending
    rw [hconfig, Request.Tried] at htried
    omega
  obtain ⟨past, hpast⟩ := replaces_of_pending hfresh (Nat.le_of_lt hi) hsilenced.pending
  refine ⟨n, r, past, hid, hsilenced.bound, hendpoint, hlost, hpast,
    hpast.length_eq.trans hcount, ?_⟩
  rintro rfl
  obtain ⟨q, hq, hrests⟩ := hreachable.backed.exists_rests horderly hc
  obtain rfl : q = r := by
    have hpending := hrests.pending
    rw [hq, hsilenced.pending] at hpending
    exact (Option.some.inj hpending).symm
  obtain ⟨b, first, lost, hbi, hordeal, haddress, hattempt⟩ :=
    ordeal_of_rests hfresh (Nat.le_of_lt hi) hrests
  have hnew := hordeal.new hfresh (Nat.le_of_lt hi) hrests.pending
  refine ⟨Option.some.inj (hsilenced.bound.symm.trans hrests.bound), b, first, (i, q) :: lost,
    hordeal.loses hbi hrests hlost haddress hnew, List.mem_cons_self, haddress, ?_⟩
  rw [List.length_cons]
  omega

open Sample in
/-- An incumbent is checked, and the last PING to it is under way when it is challenged: it is
evicted after this PING alone.  Another one is checked at one address, then answers at a second one
and is challenged there: it is evicted for its silence at the first, with no PING of the challenge
lost. -/
theorem evicted_for_earlier_attempts :
    let late : Occasion → Occasion := fun o => { o with now := .ofMillis 9000 }
    let lost : Explorer → List Request := fun e =>
      (e.requests.drainPings (.ofMillis 9000) []).1.filter fun r =>
        decide (r.related.map Node.id = some (nodeId 0x80))
    (let before := [starts, pinged 0x80 1, ponged 0x80 1 (messageId 0 0), updates, cleans 3000,
        cleans 6000, late (pinged 0x81 2)]
      let answer := late (ponged 0x81 2 (messageId 0 5))
      let e := (run (before ++ [answer]) (explorer 0 3)).1
      (drawnIds (before ++ [answer, cleans 9000]) (explorer 0 3)).Nodup ∧
      (run before (explorer 0 3)).1.challenges.size = 0 ∧
      Challenges.isChallenged (nodeId 0x80) e.challenges = true ∧
      e.established.contains (nodeId 0x80) = true ∧
      e.config.maxPingAttempts = 3 ∧
      (lost e).map Request.id = [messageId 0 4] ∧
      (run [cleans 9000] e).1.established.contains (nodeId 0x80) = false) ∧
    let before := [starts, pinged 0x80 1, pinged 0x80 9, ponged 0x80 1 (messageId 0 0), updates,
      ponged 0x80 9 (messageId 0 1), cleans 3000, cleans 6000, late (pinged 0x81 2)]
    let answer := late (ponged 0x81 2 (messageId 0 6))
    let e := (run (before ++ [answer]) (explorer 0 3)).1
    (drawnIds (before ++ [answer, cleans 9000]) (explorer 0 3)).Nodup ∧
    (run before (explorer 0 3)).1.challenges.size = 0 ∧
    e.challenges.contains (messageId 0 7) = true ∧
    Challenges.isChallenged (nodeId 0x80) e.challenges = true ∧
    e.established.contains (nodeId 0x80) = true ∧
    e.config.maxPingAttempts = 3 ∧
    (lost e).map Request.id = [messageId 0 5] ∧
    (run [cleans 9000] e).1.established.contains (nodeId 0x80) = false := by
  intro late lost
  refine ⟨⟨?_, ?_, ?_, ?_, ?_, ?_, ?_⟩, ?_, ?_, ?_, ?_, ?_, ?_, ?_, ?_⟩ <;> decide +kernel

open Sample in
/-- An incumbent that is challenged by a first attempt is evicted after the third. -/
theorem evicted_after_three :
    let occasions := [starts, pinged 0x80 1, ponged 0x80 1 (messageId 0 0), pinged 0x81 2,
      ponged 0x81 2 (messageId 0 1), cleans 3000, cleans 6000, cleans 9000]
    let c : Challenge := ⟨⟨nodeId 0x80, .ofAddress (address 1)⟩,
      ⟨nodeId 0x81, .ofAddress (address 2)⟩, .ofMillis 0⟩
    (drawnIds occasions (explorer 0 3)).Nodup ∧
    (stateAt occasions (explorer 0 3) 7).challenges.get? (messageId 0 4) = some c ∧
    (stateAt occasions (explorer 0 3) 7).established.contains c.incumbent.id = true ∧
    (stateAt occasions (explorer 0 3) 8).established.contains c.incumbent.id = false ∧
    ∃ b first lost, Ordeal occasions (explorer 0 3) c b first 8 lost ∧
      4 ≤ first.attempt.toNat + lost.length := by
  intro occasions c
  have hfresh : (drawnIds occasions (explorer 0 3)).Nodup := by decide +kernel
  have hc : (stateAt occasions (explorer 0 3) 7).challenges.get? (messageId 0 4) = some c := by
    decide +kernel
  have hin : (stateAt occasions (explorer 0 3) 7).established.contains c.incumbent.id = true := by
    decide +kernel
  have hout : (stateAt occasions (explorer 0 3) 8).established.contains c.incumbent.id = false := by
    decide +kernel
  refine ⟨hfresh, hc, hin, hout, ?_⟩
  -- Only one PING is under way before the last round.
  have hall : ∀ r ∈ (stateAt occasions (explorer 0 3) 7).requests.pings.values,
      r.id = messageId 0 4 := by
    decide +kernel
  obtain ⟨n, r, past, -, -, -, ⟨o, -, hlost⟩, -, -, hchallenge⟩ := evicted_after_attempts
    (Sample.config 0 3) (fun _ => none) (source 0) occasions hfresh 7 _ _ _ c rfl rfl hc hin hout
  obtain ⟨-, b, first, lost, hordeal, -, -, hcount⟩ :=
    hchallenge (hall r (Dict.mem_values.2 ⟨r.id, hlost.pending⟩))
  exact ⟨b, first, lost, hordeal, hcount⟩

end Explorer
end NodeDiscovery
