import NodeDiscovery.Proofs.Expiring
import NodeDiscovery.Proofs.Places

/-!
# How a challenge ends

A challenge is to end when its incumbent answers or when the last PING to it expires, and no call
ever exchanges its challenger or its beginning.  There is one more way out.  A PING under way to an
address stands for any other that would go there.  If two peers are established at one endpoint and
the second is challenged while the PING of the first challenge is under way, the PING is bound to
the second incumbent, the second challenge takes its identifier over, and the first is lost.

## Main definitions

* `Explorer.Displaces` — a newcomer whose challenge takes over the PING of another one.

## Main results

* `Explorer.challenges_perform` — what a call other than a round of expiring does to the challenges.
* `Explorer.challenge_ends_iff` — the three ways in which challenges end.
* `Explorer.challenge_displaced` — a challenge that is lost.
-/

namespace NodeDiscovery
namespace Explorer

/-- A newcomer is admitted to a full bucket, and its incumbent, who is not challenged, is reached
where the PING with identifier `m` is under way. -/
structure Displaces (e : Explorer) (now : Timestamp) (d : Datagram) (m : MessageId) : Prop where
  /-- The newcomer has answered a PING. -/
  admits : e.Admits d
  /-- It is not the explorer itself. -/
  foreign : d.message.sender ≠ e.localId
  /-- Its bucket is full; the incumbent is not challenged and reached where the PING goes. -/
  incumbent : ∃ incumbent r cache,
    (e.vacate ⟨d.message.sender, .ofAddress d.address⟩).table.add
      ⟨d.message.sender, .ofAddress d.address⟩ now
        = (.ok (.conflict incumbent), (e.vacate ⟨d.message.sender, .ofAddress d.address⟩).table) ∧
    Challenges.isChallenged incumbent.id e.challenges = false ∧
    e.addresses.resolve incumbent.endpoint = (.ok r.address, cache) ∧
    e.requests.pings.get? m = some r

variable {drawn : List MessageId} {e : Explorer} {d : Datagram} {now : Timestamp}

/-! ### What leaves the challenges as they are -/

@[simp] theorem challenges_contactQueued (now : Timestamp) (e : Explorer) :
    (e.contactQueued now).challenges = e.challenges :=
  foldl_same challenges (fun e a => challenges_sendPing now a 1 none e) _ e

@[simp] theorem challenges_learnAll (bans : Bans) (nodes : List Node) (e : Explorer) :
    (e.learnAll bans nodes).challenges = e.challenges := by
  refine foldl_same challenges (fun e node => ?_) nodes e
  unfold learn
  split
  · rfl
  · split
    · rfl
    · dsimp only
      split <;> rfl

@[simp] theorem challenges_refreshPeer (id : NodeId) (now : Timestamp) (e : Explorer) :
    (e.refreshPeer id now).challenges = e.challenges := by
  unfold refreshPeer
  split <;> rfl

theorem challenges_onPing (now : Timestamp) (source : SocketAddress) (m : Message)
    (e : Explorer) : (e.onPing now source m).challenges = e.challenges := by
  unfold onPing
  dsimp only
  split
  · rw [challenges_refreshPeer]
    rfl
  · rw [challenges_sendPing]
    rfl

theorem challenges_onFindNode (now : Timestamp) (m : Message) (target : NodeId) (e : Explorer) :
    (e.onFindNode now m target).challenges = e.challenges := by
  unfold onFindNode
  split
  · rfl
  · split <;> rfl

theorem challenges_onNeighbors (bans : Bans) (now : Timestamp) (source : SocketAddress)
    (m : Message) (nodes : List Node) (e : Explorer) :
    (e.onNeighbors bans now source m nodes).challenges = e.challenges := by
  unfold onNeighbors
  dsimp only
  rw [challenges_refreshPeer]
  split
  · rfl
  · rw [challenges_contactQueued, challenges_learnAll]

theorem challenges_explore (now : Timestamp) (e : Explorer) :
    (e.explore now).challenges = e.challenges := by
  have hask : ∀ (nodes : List Node) (e : Explorer),
      (e.askAll now nodes).challenges = e.challenges := by
    intro nodes e
    refine foldl_same challenges (fun e node => ?_) nodes e
    unfold ask
    split <;> rfl
  have hcheck : ∀ (nodes : List Node) (e : Explorer),
      (e.checkAll now nodes).challenges = e.challenges := by
    intro nodes e
    refine foldl_same challenges (fun e node => ?_) nodes e
    unfold check
    split
    · rw [challenges_sendPing]
    · rfl
  unfold explore
  dsimp only
  rw [hcheck]
  exact hask _ _

/-! ### What a call does to the challenges -/

/-- Except in a round of expiring, challenges change only when a PING is settled: that of a
challenge or that of a newcomer. -/
theorem challenges_perform (bans : Bans) (now : Timestamp) {call : Call}
    (hcall : ∀ ties, call ≠ .clean ties) (e : Explorer) :
    (e.perform bans now call).explorer.challenges = e.challenges ∨
    (∃ d c, call = .receive d ∧ e.Defends d c ∧
      (e.perform bans now call).explorer.challenges = e.challenges.erase d.message.id) ∨
    ∃ d, call = .receive d ∧ e.Admits d ∧ (e.perform bans now call).explorer.challenges
      = ((e.withoutPing d.message.id).enroll now d.message.sender d.address).challenges := by
  cases call with
  | start contact =>
    left
    show (e.start contact now).explorer.challenges = _
    unfold start
    split
    · cases contact with
      | false => rfl
      | true => exact challenges_contactQueued now _
    · rfl
  | dispose =>
    left
    show e.dispose.explorer.challenges = _
    unfold dispose
    split <;> rfl
  | receive d =>
    by_cases hrun : e.phase = .running
    · rw [perform_receive hrun]
      show (e.receive bans now d).challenges = _ ∨
        (∃ d' c, _ ∧ _ ∧ (e.receive bans now d).challenges = _) ∨
        ∃ d', _ ∧ _ ∧ (e.receive bans now d).challenges = _
      unfold receive
      split
      · exact .inl rfl
      · next hnative =>
        rw [Bool.not_eq_true] at hnative
        split
        · exact .inl (challenges_onPing now _ _ e)
        · next hbody =>
          rcases onPong_cases now hrun hnative hbody with ⟨-, h⟩ | ⟨c, hc, h⟩ | ⟨ha, h⟩
          · rw [h]; exact .inl rfl
          · rw [h]; exact .inr (.inl ⟨d, c, rfl, hc, rfl⟩)
          · rw [h]; exact .inr (.inr ⟨d, rfl, ha, rfl⟩)
        · exact .inl (challenges_onFindNode now _ _ e)
        · exact .inl (challenges_onNeighbors bans now _ _ _ e)
    · left
      show (e.whenRunning _).explorer.challenges = _
      rw [whenRunning, if_neg hrun]
      rfl
  | clean ties => exact absurd rfl (hcall ties)
  | update =>
    left
    show (e.whenRunning _).explorer.challenges = _
    unfold whenRunning
    split
    · exact challenges_explore now e
    · rfl

theorem vacate_addresses (node : Node) (e : Explorer) :
    (e.vacate node).addresses = e.addresses := by
  rcases vacate_cases node e with h | ⟨prior, -, -, -, h⟩
  · rw [h]
  · rw [h]; rfl

/-- The admission of a peer starts a challenge if the incumbent of its full bucket is not
challenged and has an address. -/
theorem enroll_of_conflict {id : NodeId} {a a' : SocketAddress} {incumbent : Node}
    {cache : AddressCache} (hself : id ≠ e.localId)
    (hadd : (e.vacate ⟨id, .ofAddress a⟩).table.add ⟨id, .ofAddress a⟩ now
      = (.ok (.conflict incumbent), (e.vacate ⟨id, .ofAddress a⟩).table))
    (hfree : Challenges.isChallenged incumbent.id e.challenges = false)
    (hresolve : e.addresses.resolve incumbent.endpoint = (.ok a', cache)) :
    e.enroll now id a = { e.vacate ⟨id, .ofAddress a⟩ with addresses := cache }.pursue now a' 1
      ⟨incumbent, ⟨id, .ofAddress a⟩, now⟩ := by
  rw [← vacate_addresses ⟨id, .ofAddress a⟩ e] at hresolve
  rw [← (vacate_frame ⟨id, .ofAddress a⟩ e).2.2.1] at hfree
  rw [enroll, if_neg hself, place, hadd]
  dsimp only
  rw [challenge, Challenges.start?, hfree]
  simp [hresolve]

/-- Otherwise it leaves the challenges as they are. -/
theorem enroll_challenges (now : Timestamp) (id : NodeId) (a : SocketAddress) (e : Explorer) :
    (e.enroll now id a).challenges = e.challenges ∨
    ∃ incumbent a' cache, id ≠ e.localId ∧
      (e.vacate ⟨id, .ofAddress a⟩).table.add ⟨id, .ofAddress a⟩ now
        = (.ok (.conflict incumbent), (e.vacate ⟨id, .ofAddress a⟩).table) ∧
      Challenges.isChallenged incumbent.id e.challenges = false ∧
      e.addresses.resolve incumbent.endpoint = (.ok a', cache) := by
  by_cases hself : id = e.localId
  · left
    rw [enroll, if_pos hself]
  · have hchallenges := (vacate_frame ⟨id, .ofAddress a⟩ e).2.2.1
    rw [enroll, if_neg hself, ← hchallenges, ← vacate_addresses ⟨id, .ofAddress a⟩ e]
    generalize e.vacate ⟨id, .ofAddress a⟩ = e₁
    unfold place
    rcases hadd : e₁.table.add ⟨id, .ofAddress a⟩ now with ⟨_ | o, table⟩
    · exact .inl rfl
    · cases o with
      | added => exact .inl rfl
      | refreshed => exact .inl rfl
      | conflict incumbent =>
        obtain rfl := DistanceTable.table_of_conflict hadd
        dsimp only
        unfold challenge Challenges.start?
        cases hfree : Challenges.isChallenged incumbent.id e₁.challenges with
        | true => exact .inl rfl
        | false =>
          simp only [Bool.false_eq_true, if_false]
          rcases hresolve : e₁.addresses.resolve incumbent.endpoint with ⟨_ | a', cache⟩
          · exact .inl rfl
          · exact .inr ⟨incumbent, a', cache, hself, rfl, hfree, hresolve⟩

/-- A challenge that is active after a newcomer has been admitted was active before, or the newcomer
challenges a node of its bucket that was not challenged. -/
theorem challenge_of_enroll {id : NodeId} {a : SocketAddress} {k : MessageId} {c : Challenge}
    (hc : (e.enroll now id a).challenges.get? k = some c) :
    e.challenges.get? k = some c ∨
      Challenges.isChallenged c.incumbent.id e.challenges = false ∧
      c.challenger = ⟨id, .ofAddress a⟩ ∧
      (e.vacate ⟨id, .ofAddress a⟩).table.add ⟨id, .ofAddress a⟩ now
        = (.ok (.conflict c.incumbent), (e.vacate ⟨id, .ofAddress a⟩).table) := by
  rcases enroll_challenges now id a e with
    hsame | ⟨incumbent, a', cache, hself, hadd, hfree, hresolve⟩
  · rw [hsame] at hc
    exact .inl hc
  · rw [enroll_of_conflict hself hadd hfree hresolve, challenges_pursue] at hc
    split at hc
    · cases hc
      exact .inr ⟨hfree, rfl, hadd⟩
    · rw [(vacate_frame ⟨id, .ofAddress a⟩ e).2.2.1] at hc
      exact .inl hc

/-- A challenge that is active after a call was active before it, or it is active once a newcomer
has been admitted. -/
theorem challenge_of_perform (horderly : e.requests.Orderly) (bans : Bans) (now : Timestamp)
    (call : Call) {k : MessageId} {c : Challenge}
    (hc : (e.perform bans now call).explorer.challenges.get? k = some c) :
    (∃ m, e.challenges.get? m = some c) ∨
      ∃ d, call = .receive d ∧ e.Admits d ∧
        ((e.withoutPing d.message.id).enroll now d.message.sender d.address).challenges.get? k
          = some c := by
  by_cases hcall : ∃ ties, call = .clean ties
  · obtain ⟨ties, rfl⟩ := hcall
    by_cases hrun : e.phase = .running
    · rw [perform_clean hrun] at hc
      obtain ⟨m, hm, -⟩ := challenge_of_purge horderly hc
      exact .inl ⟨m, hm⟩
    · rw [perform_clean_of_not_running hrun] at hc
      exact .inl ⟨k, hc⟩
  · rcases challenges_perform bans now (not_exists.1 hcall) e with
      h | ⟨d, c', -, -, h⟩ | ⟨d, hd, hadmits, h⟩ <;>
      rw [h] at hc
    · exact .inl ⟨k, hc⟩
    · exact .inl ⟨k, (Dict.get?_erase_eq_some.1 hc).2⟩
    · exact .inr ⟨d, hd, hadmits, hc⟩

/-- A challenge that is active after a call was active before it, or its incumbent was not
challenged. -/
theorem challenge_origin (horderly : e.requests.Orderly) (bans : Bans) (now : Timestamp)
    (call : Call) {k : MessageId} {c : Challenge}
    (hc : (e.perform bans now call).explorer.challenges.get? k = some c) :
    (∃ m, e.challenges.get? m = some c) ∨
      Challenges.isChallenged c.incumbent.id e.challenges = false := by
  rcases challenge_of_perform horderly bans now call hc with hm | ⟨d, -, -, hc⟩
  · exact .inl hm
  · rcases challenge_of_enroll hc with hk | ⟨hfree, -⟩
    · exact .inl ⟨k, hk⟩
    · exact .inr hfree

/-! ### The three ways in which a challenge ends -/

/-- The challenge of an incumbent that is reached at an address takes a PING over if it is under way
to this address. -/
theorem lost_conflict_iff (h : e.Backed drawn []) (horderly : e.requests.Orderly)
    (hadmits : e.Admits d)
    (hfresh : ((e.withoutPing d.message.id).enroll now d.message.sender d.address).Fresh drawn)
    {incumbent : Node} {a : SocketAddress} {cache : AddressCache}
    (hself : d.message.sender ≠ e.localId)
    (hadd : ((e.withoutPing d.message.id).vacate ⟨d.message.sender, .ofAddress d.address⟩).table.add
        ⟨d.message.sender, .ofAddress d.address⟩ now
      = (.ok (.conflict incumbent),
        ((e.withoutPing d.message.id).vacate ⟨d.message.sender, .ofAddress d.address⟩).table))
    (hfree : Challenges.isChallenged incumbent.id e.challenges = false)
    (hresolve : e.addresses.resolve incumbent.endpoint = (.ok a, cache))
    {m : MessageId} {c : Challenge} (hc : e.challenges.get? m = some c) :
    ((e.withoutPing d.message.id).enroll now d.message.sender d.address).challenges.get? m
        ≠ some c ↔
      ∃ r, e.requests.pings.get? m = some r ∧ r.address = a := by
  have henroll := enroll_of_conflict (e := e.withoutPing d.message.id) hself hadd hfree hresolve
  rw [henroll] at hfresh ⊢
  generalize (⟨d.message.sender, .ofAddress d.address⟩ : Node) = node at hadd hfresh ⊢
  obtain ⟨-, hrequests, hchallenges, -⟩ := vacate_frame node (e.withoutPing d.message.id)
  have hbacked := (backed_withoutPing h hadmits.2).of_moves
    ((moves_vacate node _).trans (moves_addresses cache _)) hchallenges
    (fun k _ => congrArg (fun t : RequestTracker => t.pings.get? k) hrequests)
  have horderly₁ : ((e.withoutPing d.message.id).vacate node).requests.Orderly :=
    orderly_of_moves ((moves_withoutPing d.message.id e).trans (moves_vacate node _)) horderly
  have hne : (⟨incumbent, node, now⟩ : Challenge) ≠ c := by
    rintro rfl
    exact Challenges.isChallenged_eq_false_iff.1 hfree m _ hc rfl
  have hm : m ≠ d.message.id := by
    rintro rfl
    rw [hadmits.2] at hc
    cases hc
  have hpings : ((e.withoutPing d.message.id).vacate node).requests.pings.get? m
      = e.requests.pings.get? m := by
    rw [hrequests]
    exact (Dict.get?_erase _ m _).trans (if_neg hm)
  rw [lost_pursue_iff hbacked horderly₁ hfresh hne (hchallenges ▸ hc), ← hpings]

/-- The challenge of a newcomer takes the PING over that is under way to where the incumbent is
reached, and no other. -/
theorem challenge_displaced_iff (h : e.Backed drawn []) (horderly : e.requests.Orderly)
    (hadmits : e.Admits d)
    (hfresh : ((e.withoutPing d.message.id).enroll now d.message.sender d.address).Fresh drawn)
    {m : MessageId} {c : Challenge} (hc : e.challenges.get? m = some c) :
    ((e.withoutPing d.message.id).enroll now d.message.sender d.address).challenges.get? m
        ≠ some c ↔
      e.Displaces now d m := by
  have htable : ((e.withoutPing d.message.id).vacate ⟨d.message.sender, .ofAddress d.address⟩).table
      = (e.vacate ⟨d.message.sender, .ofAddress d.address⟩).table :=
    congrArg Registry.table (registry_vacate_congr (registry_withoutPing d.message.id e) _)
  constructor
  · intro hlost
    rcases enroll_challenges now d.message.sender d.address (e.withoutPing d.message.id) with
      hsame | ⟨incumbent, a, cache, hself, hadd, hfree, hresolve⟩
    · rw [hsame] at hlost
      exact absurd hc hlost
    · obtain ⟨r, hr, rfl⟩ :=
        (lost_conflict_iff h horderly hadmits hfresh hself hadd hfree hresolve hc).1 hlost
      rw [htable] at hadd
      exact ⟨hadmits, hself, incumbent, r, cache, hadd, hfree, hresolve, hr⟩
  · rintro ⟨-, hself, incumbent, r, cache, hadd, hfree, hresolve, hr⟩
    rw [← htable] at hadd
    exact (lost_conflict_iff h horderly hadmits hfresh hself hadd hfree hresolve hc).2 ⟨r, hr, rfl⟩

/-- Every challenge of a peer that is active after a call is the one that was active before it. -/
theorem challenge_unchanged (h : e.Backed drawn []) (horderly : e.requests.Orderly)
    {m : MessageId} {c : Challenge} (hc : e.challenges.get? m = some c) (bans : Bans)
    (now : Timestamp) (call : Call) {m' : MessageId} {c' : Challenge}
    (hc' : (e.perform bans now call).explorer.challenges.get? m' = some c')
    (hid : c'.incumbent.id = c.incumbent.id) : c' = c := by
  rcases challenge_origin horderly bans now call hc' with ⟨k, hk⟩ | hfree
  · obtain rfl := h.alone k m c' c hk hc hid
    exact Option.some.inj (hk.symm.trans hc)
  · exact absurd hid.symm (Challenges.isChallenged_eq_false_iff.1 hfree m c hc)

/-- A newcomer that displaces a challenge ends it. -/
theorem isChallenged_of_displaces (h : e.Backed drawn []) (horderly : e.requests.Orderly)
    (bans : Bans) (hfresh : (drawn ++ requestIds (e.perform bans now (.receive d)).sent).Nodup)
    {m : MessageId} {c : Challenge} (hc : e.challenges.get? m = some c)
    (hd : e.Displaces now d m) :
    Challenges.isChallenged c.incumbent.id
      (e.perform bans now (.receive d)).explorer.challenges = false := by
  rw [Challenges.isChallenged_eq_false_iff]
  intro k c' hc' hid
  obtain rfl := challenge_unchanged h horderly hc bans now _ hc' hid
  rw [hd.admits.perform_eq] at hc' hfresh
  have hlost := (challenge_displaced_iff h horderly hd.admits hfresh hc).2 hd
  rcases challenge_of_enroll hc' with hk | ⟨hfree, -⟩
  · obtain rfl := h.alone k m c' c' hk hc rfl
    exact hlost hc'
  · exact Challenges.isChallenged_eq_false_iff.1 hfree m c' hc rfl

/-- A call ends a challenge in one of three ways: its incumbent answers, its PING has expired for
the last time, or a newcomer displaces it. -/
theorem challenge_ends_perform_iff (h : e.Backed drawn []) (horderly : e.requests.Orderly)
    (bans : Bans) (now : Timestamp) (call : Call)
    (hfresh : (drawn ++ requestIds (e.perform bans now call).sent).Nodup)
    {m : MessageId} {c : Challenge} (hc : e.challenges.get? m = some c) :
    Challenges.isChallenged c.incumbent.id (e.perform bans now call).explorer.challenges = false ↔
      (∃ d, call = .receive d ∧ e.Defends d c ∧ d.message.id = m) ∨
      (∃ ties r, call = .clean ties ∧ e.phase = .running ∧ e.requests.pings.get? m = some r ∧
        r.hasExpired now = true ∧ e.config.maxPingAttempts ≤ r.attempt) ∨
      ∃ d, call = .receive d ∧ e.Displaces now d m := by
  constructor
  · intro hfree
    have hgone : ∀ k, (e.perform bans now call).explorer.challenges.get? k ≠ some c :=
      fun k hk => Challenges.isChallenged_eq_false_iff.1 hfree k c hk rfl
    by_cases hcall : ∃ ties, call = .clean ties
    · obtain ⟨ties, rfl⟩ := hcall
      have hrun : e.phase = .running := by
        by_contra hrun
        rw [perform_clean_of_not_running hrun] at hgone
        exact hgone m hc
      obtain ⟨r, hr | ⟨hr, -⟩, -⟩ := h.backed m c hc
      · refine .inr (.inl ⟨ties, r, rfl, hrun, hr, ?_⟩)
        by_contra hwaits
        rw [perform_clean hrun] at hgone hfresh
        obtain ⟨k, hk, -⟩ := challenge_kept_by_purge h horderly hfresh hc hr fun hexpired =>
          UInt32.not_le.1 fun hlast => hwaits ⟨hexpired, hlast⟩
        exact hgone k hk
      · cases hr
    · have hlost := hgone m
      rcases challenges_perform bans now (not_exists.1 hcall) e with hsame | ⟨d, c', rfl, hd, hsame⟩ |
        ⟨d, rfl, hd, hsame⟩
      · rw [hsame] at hlost
        exact absurd hc hlost
      · rw [hsame, Dict.get?_erase] at hlost
        split at hlost
        · next hm =>
          obtain rfl := Option.some.inj (hd.2.symm.trans (hm ▸ hc))
          exact .inl ⟨d, rfl, hd, hm.symm⟩
        · exact absurd hc hlost
      · rw [hsame] at hlost
        rw [hd.perform_eq] at hfresh
        exact .inr (.inr ⟨d, rfl, (challenge_displaced_iff h horderly hd hfresh hc).1 hlost⟩)
  · rintro (⟨d, rfl, hd, -⟩ | ⟨ties, r, rfl, hrun, hr, hexpired, hlast⟩ | ⟨d, rfl, hd⟩)
    · exact h.isChallenged_of_defends hd bans now
    · exact h.isChallenged_of_expired horderly hrun hc hr hexpired hlast bans
    · exact isChallenged_of_displaces h horderly bans hfresh hc hd

/-- **A challenge ends when its incumbent answers, when the last PING to the incumbent expires, or
when a newcomer displaces it, and in no other way.**  In a run that draws no identifier twice, a
challenge that is active before a call is active after it, perhaps known by another identifier and
otherwise unchanged, unless one of three things has happened: the PONG of the incumbent has been
accepted for its PING; its PING was found expired and had been tried as often as PINGs are; or a
newcomer has challenged another incumbent that is reached at the same address, and that challenge
has taken the PING over. -/
theorem challenge_ends_iff (config : Config) (system : SystemLookup) (random : RandomSource)
    (occasions : List Occasion)
    (hfresh : (drawnIds occasions (create config system random)).Nodup) :
    ∀ i o m c, occasions[i]? = some o →
      let e := stateAt occasions (create config system random) i
      let e' := stateAt occasions (create config system random) (i + 1)
      e.challenges.get? m = some c →
      (∀ m' c', e'.challenges.get? m' = some c' → c'.incumbent.id = c.incumbent.id → c' = c) ∧
      (Challenges.isChallenged c.incumbent.id e'.challenges = false ↔
        (∃ d, o.call = .receive d ∧ e.Defends d c ∧ d.message.id = m ∧
          d.message.sender = c.incumbent.id) ∨
        (∃ ties r, o.call = .clean ties ∧ e.phase = .running ∧ e.requests.pings.get? m = some r ∧
          r.hasExpired o.now = true ∧ config.maxPingAttempts ≤ r.attempt) ∨
        ∃ d, o.call = .receive d ∧ e.Displaces o.now d m) := by
  intro i o m c ho e e' hc
  have hi : i < occasions.length := (List.getElem?_eq_some_iff.1 ho).1
  have hreachable := freshlyReachable_stateAt hfresh (Nat.le_of_lt hi)
  have h : e.Backed _ [] := hreachable.backed
  have horderly : e.requests.Orderly := hreachable.reachable.orderly
  have hconfig : e.config = config := config_run (occasions.take i) (create config system random)
  have hsent := nodup_drawnIds_take hfresh (i + 1)
  rw [drawnIds_take_succ hi, sentAt_eq ho] at hsent
  have he' : e' = (e.perform o.bans o.now o.call).explorer := stateAt_succ ho
  rw [he']
  refine ⟨fun m' c' => challenge_unchanged h horderly hc o.bans o.now o.call, ?_⟩
  rw [challenge_ends_perform_iff h horderly o.bans o.now o.call hsent hc, hconfig]
  -- Only the incumbent can answer the PING of its challenge.
  have hsender : ∀ d, e.Defends d c → d.message.id = m → d.message.sender = c.incumbent.id := by
    rintro d ⟨⟨r, hr⟩, -⟩ rfl
    obtain ⟨r', hr' | ⟨hr', -⟩, hrelated⟩ := h.backed _ c hc
    · obtain rfl := Option.some.inj (hr'.symm.trans hr.pending)
      have hmay := hr.mayAnswer
      rw [Request.mayAnswer, hrelated] at hmay
      exact (of_decide_eq_true hmay).symm
    · cases hr'
  refine or_congr_left ⟨?_, ?_⟩
  · rintro ⟨d, hcall, hd, hid⟩
    exact ⟨d, hcall, hd, hid, hsender d hd hid⟩
  · rintro ⟨d, hcall, hd, hid, -⟩
    exact ⟨d, hcall, hd, hid⟩

open Sample in
/-- Two peers of different buckets are established at one endpoint, and the places of both are asked
for.  The second challenge takes over the PING of the first, whose incumbent has neither answered
nor been given up. -/
theorem challenge_displaced :
    let before := [starts, pinged 0x80 1, ponged 0x80 1 (messageId 0 0), pinged 0x40 1,
      ponged 0x40 1 (messageId 0 1), pinged 0x81 2, ponged 0x81 2 (messageId 0 2), pinged 0x41 3]
    let last := ponged 0x41 3 (messageId 0 4)
    let e := (run before (explorer 0 3)).1
    let e' := (run [last] e).1
    (drawnIds (before ++ [last]) (explorer 0 3)).Nodup ∧
    e.challenges.get? (messageId 0 3) = some ⟨⟨nodeId 0x80, .ofAddress (address 1)⟩,
      ⟨nodeId 0x81, .ofAddress (address 2)⟩, .ofMillis 0⟩ ∧
    last.call = .receive ⟨⟨messageId 0 4, nodeId 0x41, some 0, .pong⟩, address 3⟩ ∧
    Challenges.isChallenged (nodeId 0x80) e'.challenges = false ∧
    e'.established.contains (nodeId 0x80) = true := by
  decide +kernel

open Sample in
/-- In such a run it is a newcomer that has ended the challenge. -/
theorem challenge_ended_by_newcomer :
    let occasions := [starts, pinged 0x80 1, ponged 0x80 1 (messageId 0 0), pinged 0x40 1,
      ponged 0x40 1 (messageId 0 1), pinged 0x81 2, ponged 0x81 2 (messageId 0 2), pinged 0x41 3,
      ponged 0x41 3 (messageId 0 4)]
    let e := stateAt occasions (explorer 0 3) 8
    (drawnIds occasions (explorer 0 3)).Nodup ∧
    Challenges.isChallenged (nodeId 0x80) e.challenges = true ∧
    Challenges.isChallenged (nodeId 0x80) (stateAt occasions (explorer 0 3) 9).challenges = false ∧
    e.Displaces (.ofMillis 0) ⟨⟨messageId 0 4, nodeId 0x41, some 0, .pong⟩, address 3⟩
      (messageId 0 3) := by
  intro occasions e
  have hfresh : (drawnIds occasions (explorer 0 3)).Nodup := by decide +kernel
  have hc : e.challenges.get? (messageId 0 3) = some ⟨⟨nodeId 0x80, .ofAddress (address 1)⟩,
      ⟨nodeId 0x81, .ofAddress (address 2)⟩, .ofMillis 0⟩ := by decide +kernel
  have hended : Challenges.isChallenged (nodeId 0x80)
      (stateAt occasions (explorer 0 3) 9).challenges = false := by decide +kernel
  refine ⟨hfresh, by decide +kernel, hended, ?_⟩
  have hiff := (challenge_ends_iff (Sample.config 0 3) (fun _ => none) (source 0) occasions hfresh
    8 _ _ _ rfl hc).2
  rcases hiff.1 hended with ⟨d, hcall, -, hid, -⟩ | ⟨ties, r, hcall, -⟩ | ⟨d, hcall, hd⟩
  · cases hcall
    exact absurd hid (by decide)
  · cases hcall
  · cases hcall
    exact hd

end Explorer
end NodeDiscovery
