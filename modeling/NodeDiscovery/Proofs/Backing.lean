import NodeDiscovery.Proofs.Deeds
import NodeDiscovery.Proofs.Freshness

/-!
# What a challenge rests on

An active challenge is known by the identifier of a PING that only its incumbent can answer.  If the
answer comes the challenge is settled, and so it is if the PING expires for the last time; as long
as the PING is under way, the challenge can be settled.  A round of expiring first takes all expired
PINGs out, so that for a while challenges rest on PINGs that are no longer under way; each of these
challenges is then settled, or rests on the PING that is sent in place of the one that has expired.

## Main definitions

* `Challenge.Rivals` — the two nodes of a challenge compete for a place in the same bucket.
* `Explorer.Backed` — every challenge rests on a PING under way, or on one that is about to expire.
* `Explorer.withoutChallenge` — one challenge is dropped.

## Main results

* `DistanceTable.rivals_of_conflict` — the oldest node of a full bucket and a newcomer are rivals.
* `Explorer.backed_sendPing`, `Explorer.backed_pursue` — a PING that is sent keeps challenges
  backed.
* `Explorer.backed_of_deeds` — so do the deeds of a call.
-/

namespace NodeDiscovery

/-- The two nodes of a challenge compete for a place in the same bucket of an explorer. -/
structure Challenge.Rivals (localId : NodeId) (c : Challenge) : Prop where
  /-- They are different peers. -/
  distinct : c.incumbent.id ≠ c.challenger.id
  /-- The incumbent is not the explorer itself. -/
  incumbent_ne : c.incumbent.id ≠ localId
  /-- Neither is the challenger. -/
  challenger_ne : c.challenger.id ≠ localId
  /-- They belong to the same bucket. -/
  bucket : localId.bucketIndex c.incumbent.id = localId.bucketIndex c.challenger.id

theorem Challenges.isChallenged_eq_false_iff {challenges : Challenges} {id : NodeId} :
    isChallenged id challenges = false ↔
      ∀ m c, challenges.get? m = some c → c.incumbent.id ≠ id := by
  constructor
  · intro h m c hc hid
    have hany : isChallenged id challenges = true :=
      List.any_eq_true.2 ⟨c, Dict.mem_values.2 ⟨m, hc⟩, by simp [hid]⟩
    rw [h] at hany
    cases hany
  · intro h
    rw [Bool.eq_false_iff]
    intro hany
    obtain ⟨c, hin, hid⟩ := List.any_eq_true.1 hany
    obtain ⟨m, hm⟩ := Dict.mem_values.1 hin
    exact h m c hm (of_decide_eq_true hid)

/-- The oldest node of a full bucket and the newcomer are rivals. -/
theorem DistanceTable.rivals_of_conflict {t t' : DistanceTable} (ht : t.Sound)
    {node incumbent : Node} {now : Timestamp}
    (hadd : t.add node now = (.ok (.conflict incumbent), t')) (startedAt : Timestamp) :
    Challenge.Rivals t.localId ⟨incumbent, node, startedAt⟩ := by
  obtain ⟨hself, habsent, -, holdest, -⟩ := add_eq_conflict_iff.1 hadd
  have hin := Bucket.contains_of_oldest? holdest
  obtain ⟨entry, hentry, hid⟩ := Bucket.contains_iff.1 hin
  refine ⟨?_, ?_, hself, ?_⟩
  · intro hsame
    rw [show incumbent.id = node.id from hsame, habsent] at hin
    cases hin
  · exact hid ▸ (ht.fits node.id).foreign entry hentry
  · exact hid ▸ (ht.fits node.id).placed entry hentry

namespace Explorer

/-- Every challenge rests on a PING that is under way, or on one of the expired PINGs `x` that have
been taken out and are still to be dealt with. -/
structure Backed (drawn : List MessageId) (x : List Request) (e : Explorer) : Prop where
  /-- What is waited for was issued. -/
  recorded : e.Recorded drawn
  /-- A challenge rests on a PING that is bound to its incumbent. -/
  backed : ∀ m c, e.challenges.get? m = some c →
    ∃ r, (e.requests.pings.get? m = some r ∨ r ∈ x ∧ r.id = m) ∧ r.related = some c.incumbent
  /-- No peer is the incumbent of two challenges. -/
  alone : ∀ m m' c c', e.challenges.get? m = some c → e.challenges.get? m' = some c' →
    c.incumbent.id = c'.incumbent.id → m = m'
  /-- The nodes of a challenge are rivals. -/
  rivals : ∀ m c, e.challenges.get? m = some c → c.Rivals e.localId
  /-- No challenge rests on a PING under way to where an expired PING went. -/
  apart : ∀ m c r, e.challenges.get? m = some c → e.requests.pings.get? m = some r →
    ∀ r' ∈ x, r.address ≠ r'.address
  /-- The expired PINGs were issued. -/
  issued : ∀ r ∈ x, r.id ∈ e.issued drawn
  /-- They are no longer under way. -/
  gone : ∀ r ∈ x, e.requests.pings.get? r.id = none
  /-- They have different identifiers. -/
  ids : (x.map Request.id).Nodup
  /-- They went to different addresses. -/
  addresses : (x.map Request.address).Nodup

variable {drawn : List MessageId} {x : List Request} {e e' : Explorer} {now : Timestamp}

/-- What a challenge rests on was issued. -/
theorem Backed.mem_issued (h : e.Backed drawn x) {m : MessageId} {c : Challenge}
    (hc : e.challenges.get? m = some c) : m ∈ e.issued drawn := by
  obtain ⟨r, hr | ⟨hr, rfl⟩, -⟩ := h.backed m c hc
  · exact h.recorded m r hr
  · exact h.issued r hr

/-- Moves keep challenges backed if they leave the challenges and the PINGs issued before as they
are. -/
theorem Backed.of_moves (h : e.Backed drawn x) (hmoves : e.Moves e')
    (hchallenges : e'.challenges = e.challenges)
    (hpings : ∀ m ∈ e.issued drawn, e'.requests.pings.get? m = e.requests.pings.get? m) :
    e'.Backed drawn x where
  recorded := recorded_of_moves hmoves h.recorded
  backed := by
    intro m c hc
    rw [hchallenges] at hc
    rw [hpings m (h.mem_issued hc)]
    exact h.backed m c hc
  alone := by
    rw [hchallenges]
    exact h.alone
  rivals := by
    intro m c hc
    rw [hchallenges] at hc
    rw [show e'.localId = e.localId from congrArg Config.localId (config_of_moves hmoves)]
    exact h.rivals m c hc
  apart := by
    intro m c r hc hr
    rw [hchallenges] at hc
    rw [hpings m (h.mem_issued hc)] at hr
    exact h.apart m c r hc hr
  issued := fun r hr => mem_issued_of_moves hmoves (h.issued r hr)
  gone := by
    intro r hr
    rw [hpings r.id (h.issued r hr)]
    exact h.gone r hr
  ids := h.ids
  addresses := h.addresses

/-! ### PINGs -/

/-- A PING that is sent leaves the PINGs issued before as they are. -/
theorem pings_sendPing {a : SocketAddress} {attempt : UInt32} {related : Option Node}
    (hfresh : (e.sendPing now a attempt related).2.Fresh drawn) {m : MessageId}
    (hm : m ∈ e.issued drawn) :
    (e.sendPing now a attempt related).2.requests.pings.get? m = e.requests.pings.get? m := by
  cases hpending : e.requests.pingTo? a with
  | some r => rw [sendPing_of_pending hpending]
  | none =>
    have hnew := Fresh.notMem_issued hpending hfresh
    rw [sendPing_of_free hpending]
    show (e.requests.pings.insert (e.nextPing now a attempt related).id _).get? m = _
    rw [Dict.get?_insert, if_neg]
    rintro rfl
    exact hnew hm

/-- The identifier given back is that of the PING under way to the address. -/
theorem exists_sendPing (horderly : e.requests.Orderly) (now : Timestamp) (a : SocketAddress)
    (attempt : UInt32) (related : Option Node) :
    ∃ r, (e.sendPing now a attempt related).2.requests.pings.get?
        (e.sendPing now a attempt related).1 = some r ∧ r.address = a := by
  cases hpending : e.requests.pingTo? a with
  | some r =>
    obtain ⟨⟨m, hm⟩, haddress⟩ := RequestTracker.mem_of_pingTo? hpending
    rw [sendPing_of_pending hpending]
    exact ⟨r, horderly.keyed m r hm ▸ hm, haddress⟩
  | none =>
    rw [sendPing_of_free hpending]
    refine ⟨e.nextPing now a attempt related, ?_, rfl⟩
    show (e.requests.pings.insert (e.nextPing now a attempt related).id _).get? _ = _
    rw [Dict.get?_insert, if_pos rfl]

/-- The identifier given back was issued before exactly if its PING was under way to the address. -/
theorem sendPing_fst_eq_iff (horderly : e.requests.Orderly) {a : SocketAddress} {attempt : UInt32}
    {related : Option Node} (hfresh : (e.sendPing now a attempt related).2.Fresh drawn)
    {m : MessageId} (hm : m ∈ e.issued drawn) :
    (e.sendPing now a attempt related).1 = m ↔
      ∃ r, e.requests.pings.get? m = some r ∧ r.address = a := by
  constructor
  · rintro rfl
    obtain ⟨r, hr, haddress⟩ := exists_sendPing horderly now a attempt related
    rw [pings_sendPing hfresh hm] at hr
    exact ⟨r, hr, haddress⟩
  · rintro ⟨r, hr, rfl⟩
    rw [sendPing_of_pending (horderly.pingTo?_eq hr)]
    exact horderly.keyed m r hr

@[simp] theorem challenges_sendPing (now : Timestamp) (a : SocketAddress) (attempt : UInt32)
    (related : Option Node) (e : Explorer) :
    (e.sendPing now a attempt related).2.challenges = e.challenges := by
  unfold sendPing
  split <;> rfl

/-- Sending the incumbent of a challenge a PING lets the challenge depend on it. -/
theorem challenges_pursue (now : Timestamp) (a : SocketAddress) (attempt : UInt32) (c : Challenge)
    (e : Explorer) (k : MessageId) :
    (e.pursue now a attempt c).challenges.get? k
      = if k = (e.sendPing now a attempt (some c.incumbent)).1 then some c
        else e.challenges.get? k := by
  rw [pursue, Dict.get?_insert, challenges_sendPing]

/-- It leaves a PING under way to the address that only the incumbent can answer. -/
theorem pings_pursue (horderly : e.requests.Orderly) (now : Timestamp) (a : SocketAddress)
    (attempt : UInt32) (c : Challenge) :
    ∃ p : Request, p.address = a ∧ p.related = some c.incumbent ∧
      ∀ k, (e.pursue now a attempt c).requests.pings.get? k
        = if k = (e.sendPing now a attempt (some c.incumbent)).1 then some p
          else (e.sendPing now a attempt (some c.incumbent)).2.requests.pings.get? k := by
  obtain ⟨r, hr, haddress⟩ := exists_sendPing horderly now a attempt (some c.incumbent)
  refine ⟨{ r with related := some c.incumbent }, haddress, rfl, fun k => ?_⟩
  rw [pursue, RequestTracker.get?_bind]
  split
  · next hk => rw [hk, hr]; rfl
  · rfl

/-- A challenge rests on the PING that its incumbent is sent. -/
theorem exists_pursue (horderly : e.requests.Orderly) (now : Timestamp) (a : SocketAddress)
    (attempt : UInt32) (c : Challenge) :
    ∃ m r, (e.pursue now a attempt c).challenges.get? m = some c ∧
      (e.pursue now a attempt c).requests.pings.get? m = some r := by
  obtain ⟨p, -, -, hpings⟩ := pings_pursue horderly now a attempt c
  refine ⟨(e.sendPing now a attempt (some c.incumbent)).1, p, ?_, ?_⟩
  · rw [challenges_pursue, if_pos rfl]
  · rw [hpings, if_pos rfl]

/-- A challenge is lost to another one exactly if the PING that it rests on is under way to where
the other incumbent is sent one. -/
theorem lost_pursue_iff (h : e.Backed drawn x) (horderly : e.requests.Orderly) {a : SocketAddress}
    {attempt : UInt32} {c c' : Challenge} (hfresh : (e.pursue now a attempt c').Fresh drawn)
    (hne : c' ≠ c) {m : MessageId} (hc : e.challenges.get? m = some c) :
    (e.pursue now a attempt c').challenges.get? m ≠ some c ↔
      ∃ r, e.requests.pings.get? m = some r ∧ r.address = a := by
  have hsent : (e.sendPing now a attempt (some c'.incumbent)).2.Fresh drawn := hfresh
  rw [← sendPing_fst_eq_iff horderly hsent (h.mem_issued hc), challenges_pursue]
  constructor
  · intro hlost
    by_contra hother
    rw [if_neg (Ne.symm hother)] at hlost
    exact hlost hc
  · rintro rfl
    rw [if_pos rfl]
    intro hsame
    exact hne (Option.some.inj hsame)

theorem backed_sendPing (h : e.Backed drawn x) {a : SocketAddress} {attempt : UInt32}
    {related : Option Node} (hfresh : (e.sendPing now a attempt related).2.Fresh drawn) :
    (e.sendPing now a attempt related).2.Backed drawn x :=
  h.of_moves (moves_sendPing now a attempt related e) (challenges_sendPing now a attempt related e)
    fun _ hm => pings_sendPing hfresh hm

/-- Sending the incumbent of a challenge a PING keeps challenges backed, if the incumbent is not
challenged already and no expired PING went where this one goes. -/
theorem backed_pursue (h : e.Backed drawn x) (horderly : e.requests.Orderly) {a : SocketAddress}
    {attempt : UInt32} {c : Challenge} (hfresh : (e.pursue now a attempt c).Fresh drawn)
    (hfree : ∀ m c', e.challenges.get? m = some c' → c'.incumbent.id ≠ c.incumbent.id)
    (hrivals : c.Rivals e.localId) (haway : ∀ r ∈ x, a ≠ r.address) :
    (e.pursue now a attempt c).Backed drawn x := by
  have hsent : (e.sendPing now a attempt (some c.incumbent)).2.Fresh drawn := hfresh
  have hmoves := moves_pursue now a attempt c e
  have hlocal : (e.pursue now a attempt c).localId = e.localId :=
    congrArg Config.localId (config_of_moves hmoves)
  have hchallenges := challenges_pursue now a attempt c e
  obtain ⟨p, haddress, hrelated, hpings⟩ := pings_pursue horderly now a attempt c
  have hgone : ∀ r ∈ x, r.id ≠ (e.sendPing now a attempt (some c.incumbent)).1 := by
    intro r hr hid
    obtain ⟨r', hr', -⟩ := (sendPing_fst_eq_iff horderly hsent (h.issued r hr)).1 hid.symm
    rw [h.gone r hr] at hr'
    cases hr'
  generalize (e.sendPing now a attempt (some c.incumbent)).1 = m at hchallenges hpings hgone
  -- What was issued before is under way as before, unless it is the PING of the challenge.
  have hold : ∀ k ∈ e.issued drawn, k ≠ m →
      (e.pursue now a attempt c).requests.pings.get? k = e.requests.pings.get? k := by
    intro k hk hne
    rw [hpings, if_neg hne, pings_sendPing hsent hk]
  refine ⟨recorded_of_moves hmoves h.recorded, ?_, ?_, ?_, ?_, ?_, ?_, h.ids, h.addresses⟩
  · intro k c' hc'
    rw [hchallenges] at hc'
    split at hc'
    · next hk =>
      cases hc'
      exact ⟨p, .inl ((hpings k).trans (if_pos hk)), hrelated⟩
    · next hk =>
      rw [hold k (h.mem_issued hc') hk]
      exact h.backed k c' hc'
  · intro k k' c₁ c₂ hc₁ hc₂ hid
    rw [hchallenges] at hc₁ hc₂
    split at hc₁ <;> split at hc₂
    · next hk hk' => rw [hk, hk']
    · cases hc₁
      exact absurd hid.symm (hfree k' c₂ hc₂)
    · cases hc₂
      exact absurd hid (hfree k c₁ hc₁)
    · exact h.alone k k' c₁ c₂ hc₁ hc₂ hid
  · intro k c' hc'
    rw [hchallenges] at hc'
    rw [hlocal]
    split at hc'
    · cases hc'
      exact hrivals
    · exact h.rivals k c' hc'
  · intro k c' r hc' hr r' hr'
    rw [hchallenges] at hc'
    split at hc'
    · next hk =>
      rw [hpings, if_pos hk] at hr
      cases hr
      exact haddress ▸ haway r' hr'
    · next hk =>
      rw [hold k (h.mem_issued hc') hk] at hr
      exact h.apart k c' r hc' hr r' hr'
  · exact fun r hr => mem_issued_of_moves hmoves (h.issued r hr)
  · intro r hr
    rw [hold r.id (h.issued r hr) (hgone r hr)]
    exact h.gone r hr

/-! ### Deeds -/

theorem backed_withoutPing (h : e.Backed drawn x) {m : MessageId}
    (hfree : e.challenges.get? m = none) : (e.withoutPing m).Backed drawn x := by
  have hpings : ∀ k, (e.withoutPing m).requests.pings.get? k
      = if k = m then none else e.requests.pings.get? k := fun k => Dict.get?_erase _ k m
  have hne : ∀ k c, e.challenges.get? k = some c → k ≠ m := by
    rintro k c hc rfl
    rw [hfree] at hc
    cases hc
  have hmoves := moves_withoutPing m e
  refine ⟨recorded_of_moves hmoves h.recorded, ?_, h.alone, h.rivals, ?_, h.issued, ?_, h.ids,
    h.addresses⟩
  · intro k c hc
    rw [hpings, if_neg (hne k c hc)]
    exact h.backed k c hc
  · intro k c r hc hr
    rw [hpings, if_neg (hne k c hc)] at hr
    exact h.apart k c r hc hr
  · intro r hr
    rw [hpings, h.gone r hr]
    split <;> rfl

/-- The explorer without one of its challenges. -/
def withoutChallenge (m : MessageId) (e : Explorer) : Explorer :=
  { e with challenges := e.challenges.erase m }

/-- The challenges but one. -/
theorem get?_withoutChallenge {m k : MessageId} {c : Challenge} :
    (e.withoutChallenge m).challenges.get? k = some c ↔ k ≠ m ∧ e.challenges.get? k = some c :=
  Dict.get?_erase_eq_some

/-- With a challenge the PING that it rests on may go. -/
theorem backed_withoutChallenge (h : e.Backed drawn x) (m : MessageId) :
    (e.withoutChallenge m).Backed drawn x := by
  have hchallenges : ∀ k c, (e.withoutChallenge m).challenges.get? k = some c →
      e.challenges.get? k = some c := fun _ _ hc => (get?_withoutChallenge.1 hc).2
  refine ⟨h.recorded, ?_, ?_, ?_, ?_, h.issued, h.gone, h.ids, h.addresses⟩
  · exact fun k c hc => h.backed k c (hchallenges k c hc)
  · exact fun k k' c c' hc hc' => h.alone k k' c c' (hchallenges k c hc) (hchallenges k' c' hc')
  · exact fun k c hc => h.rivals k c (hchallenges k c hc)
  · exact fun k c r hc => h.apart k c r (hchallenges k c hc)

theorem Deed.backed {N : Node → Prop} (hdeed : Deed now N e e') (hfresh : e'.Fresh drawn)
    (hcoherent : e.registry.Coherent) (horderly : e.requests.Orderly) (h : e.Backed drawn []) :
    e'.Backed drawn [] := by
  have hmoves := hdeed.moves
  cases hdeed with
  | choose | consult | pong | neighbors | ask | told | seen | forget | establish =>
    exact h.of_moves hmoves rfl fun _ _ => rfl
  | contact a => exact backed_sendPing h hfresh
  | @probe node a cache _ _ =>
    have h₁ : Backed drawn [] { e with addresses := cache } :=
      h.of_moves (moves_addresses cache e) rfl fun _ _ => rfl
    exact backed_sendPing h₁ hfresh
  | settle hd => exact backed_withoutPing h hd.2
  | @defend d c hd =>
    have hfree : (e.challenges.erase d.message.id).get? d.message.id = none := by
      rw [Dict.get?_erase, if_pos rfl]
    exact (backed_withoutPing (backed_withoutChallenge h d.message.id) hfree).of_moves
      (moves_silent rfl rfl rfl rfl) rfl fun _ _ => rfl
  | @rival node incumbent a cache hadd hfree _ =>
    have h₁ : Backed drawn [] { e with addresses := cache } :=
      h.of_moves (moves_addresses cache e) rfl fun _ _ => rfl
    have hrivals := DistanceTable.rivals_of_conflict hcoherent.sound hadd now
    rw [hcoherent.keeper] at hrivals
    exact backed_pursue h₁ horderly hfresh
      (Challenges.isChallenged_eq_false_iff.1 hfree) hrivals (by simp)

theorem backed_of_deeds {N : Node → Prop} (hdeeds : Deeds now N e e') (hfresh : e'.Fresh drawn)
    (hcoherent : e.registry.Coherent) (horderly : e.requests.Orderly) (h : e.Backed drawn []) :
    e'.Backed drawn [] := by
  induction hdeeds with
  | refl => exact h
  | @tail e₁ e₂ hdeeds hdeed ih =>
    exact hdeed.backed hfresh (coherent_of_deeds hdeeds hcoherent)
      (orderly_of_moves (moves_of_deeds hdeeds) horderly)
      (ih (hfresh.of_moves hdeed.moves))

end Explorer
end NodeDiscovery
