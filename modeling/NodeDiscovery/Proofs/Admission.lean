import NodeDiscovery.Proofs.Traffic

/-!
# Who is admitted

A peer is established only at the end of a round trip: an earlier call has sent it a PING, the
PING has been waited for ever since, and now the answer comes from just where the PING went.  Such
an answer uses the PING up.  As long as no identifier is drawn twice, nobody waits for it again, and
so no PING admits two peers, however often its answer is repeated.

## Main definitions

* `Explorer.drawnIds` — the identifiers drawn in a run.
* `Explorer.EstablishedBy` — a call of a run establishes a peer.
* `Explorer.WaitedFor` — a PING of an earlier call is waited for ever since.
* `Explorer.RoundTrip` — a call of a run is the end of a round trip.

## Main results

* `Explorer.Effect.established` — what establishes a peer is the answer to a PING.
* `Explorer.pending_history` — every PING that is waited for has been sent.
* `Explorer.established_by_round_trip` — who is established has answered a PING, which serves once.
-/

namespace NodeDiscovery

/-- Whether a message is a request, so that its identifier was drawn for it. -/
def Message.isRequest (m : Message) : Bool :=
  m.kind = .ping || m.kind = .findNode

namespace Explorer

/-- The identifiers drawn in a run, in order.  Each is drawn for a request, which is sent by the
same call. -/
def drawnIds (occasions : List Occasion) (e : Explorer) : List MessageId :=
  ((run occasions e).2.flatten.filter (·.message.isRequest)).map (·.message.id)

/-- Call number `i` of a run establishes a peer, for the first time, again or somewhere else. -/
def EstablishedBy (occasions : List Occasion) (e : Explorer) (i : Nat) (id : NodeId)
    (node : Node) : Prop :=
  (stateAt occasions e i).established.get? id ≠ some node ∧
    (stateAt occasions e (i + 1)).established.get? id = some node

/-- Call number `k` of a run has sent a PING that is waited for ever since, up to call number
`i`. -/
structure WaitedFor (occasions : List Occasion) (e : Explorer) (r : Request) (k i : Nat) :
    Prop where
  /-- The PING was sent by an earlier call. -/
  earlier : k < i
  /-- It is a PING. -/
  kind : r.message.kind = .ping
  /-- It went to the address that the answer is expected from. -/
  sent : ⟨r.message, r.address⟩ ∈ sentAt occasions e k
  /-- It has been waited for ever since. -/
  waits : ∀ j, k < j → j ≤ i →
    ∃ r', (stateAt occasions e j).requests.pings.get? r.message.id = some r' ∧
      r'.message = r.message ∧ r'.address = r.address

/-- Call number `i` of a run is the end of a round trip: a PONG that answers a PING which call
number `k` has sent. -/
structure RoundTrip (occasions : List Occasion) (e : Explorer) (i : Nat) (d : Datagram)
    (r : Request) (k : Nat) : Prop where
  /-- The call is about the message. -/
  call : ∃ bans now, occasions[i]? = some ⟨bans, now, .receive d⟩
  /-- The message is a PONG. -/
  pong : d.message.kind = .pong
  /-- It answers the PING. -/
  answers : d.message.id = r.message.id
  /-- It comes from where the PING went. -/
  source : d.address = r.address
  /-- The PING was sent and is waited for. -/
  ping : WaitedFor occasions e r k i
  /-- It is waited for in just this form. -/
  pending : (stateAt occasions e i).requests.pings.get? r.message.id = some r
  /-- It is bound to nobody else. -/
  unbound : ∀ node, r.related = some node → node.id = d.message.sender
  /-- No challenge depends on it. -/
  unchallenged : (stateAt occasions e i).challenges.get? r.message.id = none

variable {e : Explorer} {occasions : List Occasion}

/-! ### What establishes a peer -/

theorem established_of_forget {id i : NodeId} {node : Node}
    (h : (e.forget id).established.get? i = some node) : e.established.get? i = some node :=
  (Dict.get?_erase_eq_some.1 h).2

theorem established_of_forgetAll {ids : List NodeId} {i : NodeId} {node : Node}
    (h : (ids.foldl (fun e id => e.forget id) e).established.get? i = some node) :
    e.established.get? i = some node := by
  induction ids generalizing e with
  | nil => exact h
  | cons id ids ih => exact established_of_forget (ih h)

theorem established_of_vacate {n : Node} {i : NodeId} {node : Node}
    (h : (e.vacate n).established.get? i = some node) : e.established.get? i = some node := by
  rcases vacate_cases n e with hv | ⟨prior, -, -, -, hv⟩
  · rwa [hv] at h
  · rw [hv] at h; exact established_of_forget h

/-- What establishes a peer is its answer to a PING that no challenge depends on; the peer is
established where the answer came from. -/
theorem Effect.established {now : Timestamp} {call : Call} {r : Registry}
    (heffect : e.Effect now call r) {id : NodeId} {node : Node}
    (hbefore : e.established.get? id ≠ some node) (hafter : r.established.get? id = some node) :
    ∃ d, call = .receive d ∧ e.Admits d ∧ d.message.sender = id ∧ id ≠ e.localId ∧
      node = ⟨id, .ofAddress d.address⟩ := by
  cases heffect with
  | none => exact absurd hafter hbefore
  | seen d =>
    have hsame : (e.refreshPeer d.message.sender now).established = e.established := by
      unfold refreshPeer
      split <;> rfl
    exact absurd (hsame ▸ hafter) hbefore
  | defended d c _ => exact absurd hafter hbefore
  | gaveUp _ ids => exact absurd (established_of_forgetAll hafter) hbefore
  | admitted d hadmits =>
    rcases enroll_cases now d.message.sender d.address e with
      ⟨-, he⟩ | ⟨-, he⟩ | ⟨hself, o, table, -, -, he⟩
    · rw [he] at hafter
      exact absurd hafter hbefore
    · rw [he] at hafter
      exact absurd (established_of_vacate hafter) hbefore
    · rw [he] at hafter
      have hafter : ((e.vacate ⟨d.message.sender, .ofAddress d.address⟩).established.insert
        d.message.sender ⟨d.message.sender, .ofAddress d.address⟩).get? id = some node := hafter
      rw [Dict.get?_insert] at hafter
      split at hafter
      · next hid =>
        cases hafter
        exact ⟨d, rfl, hadmits, hid.symm, hid ▸ hself, by rw [hid]⟩
      · exact absurd (established_of_vacate hafter) hbefore

/-! ### What is waited for has been sent -/

/-- A PING that is waited for after a call was waited for before it, or the call has sent it.  A
PING that the call has settled can only be waited for again if it was sent again. -/
theorem pending_perform (bans : Bans) (now : Timestamp) (call : Call)
    {m : MessageId} {r : Request}
    (hr : (e.perform bans now call).explorer.requests.pings.get? m = some r) :
    ((∀ d r₀, call = .receive d → e.Settles d r₀ → d.message.id ≠ m) ∧
      ∃ r₀, e.requests.pings.get? m = some r₀ ∧ r₀.message = r.message ∧
        r₀.address = r.address) ∨
    (r.message.id = m ∧ r.message.kind = .ping ∧
      ⟨r.message, r.address⟩ ∈ (e.perform bans now call).sent) := by
  by_cases hsettles : ∃ d r₀, call = .receive d ∧ e.Settles d r₀ ∧ d.message.id = m
  · obtain ⟨d, r₀, rfl, hd, rfl⟩ := hsettles
    obtain ⟨e', hmoves, hperform⟩ := hd.perform_moves bans now
    rw [hperform] at hr ⊢
    rcases pending_of_moves hmoves hr with ⟨r₁, hr₁, -, -⟩ | hsent
    · have hr₁ : (e.requests.pings.erase d.message.id).get? d.message.id = some r₁ := hr₁
      rw [Dict.get?_erase, if_pos rfl] at hr₁
      cases hr₁
    · exact .inr hsent
  · obtain ⟨phase, e', accepted, hmoves, hperform⟩ := perform_moves bans now call e
    rw [hperform] at hr ⊢
    rcases pending_of_moves hmoves hr with hbefore | hsent
    · refine .inl ⟨fun d r₀ hcall hd hm => ?_, hbefore⟩
      exact hsettles ⟨d, r₀, hcall, hd, hm⟩
    · exact .inr hsent

/-- Every PING that is waited for was sent by an earlier call and has been waited for ever since. -/
theorem pending_history (config : Config) (system : SystemLookup) (random : RandomSource)
    {i : Nat} (hi : i ≤ occasions.length) {m : MessageId} {r : Request}
    (hr : (stateAt occasions (create config system random) i).requests.pings.get? m = some r) :
    r.message.id = m ∧
      ∃ k, WaitedFor occasions (create config system random) r k i := by
  -- The induction is on the number of calls: the last one has sent the PING, or it was waited for
  -- before it.
  induction i generalizing r with
  | zero => cases hr
  | succ i ih =>
    have ho : occasions[i]? = some occasions[i] := List.getElem?_eq_getElem hi
    have hnow := hr
    rw [stateAt_succ ho] at hr
    rcases pending_perform _ _ _ hr with
      ⟨-, r₀, hr₀, hmessage, haddress⟩ | ⟨hid, hkind, hsent⟩
    · obtain ⟨hid, k, hk⟩ := ih (Nat.le_of_succ_le hi) hr₀
      rw [hmessage] at hid
      refine ⟨hid, k, Nat.lt_succ_of_lt hk.earlier, hmessage ▸ hk.kind, ?_, ?_⟩
      · rw [← hmessage, ← haddress]
        exact hk.sent
      · intro j hkj hj
        rcases Nat.lt_or_eq_of_le hj with hj | rfl
        · have hwaits := hk.waits j hkj (Nat.le_of_lt_succ hj)
          rwa [hmessage, haddress] at hwaits
        · exact ⟨r, hid ▸ hnow, rfl, rfl⟩
    · refine ⟨hid, i, Nat.lt_succ_self i, hkind, ?_, ?_⟩
      · rw [sentAt_eq ho]
        exact hsent
      · intro j hij hj
        obtain rfl : j = i + 1 := by omega
        exact ⟨r, hid ▸ hnow, rfl, rfl⟩

/-! ### No identifier serves twice -/

/-- If no identifier is drawn twice, requests with the same identifier are sent by the same
call. -/
theorem eq_of_drawnIds (hfresh : (drawnIds occasions e).Nodup) {k k' : Nat} {d d' : Datagram}
    (hd : d ∈ sentAt occasions e k) (hd' : d' ∈ sentAt occasions e k')
    (hrequest : d.message.isRequest = true) (hrequest' : d'.message.isRequest = true)
    (hid : d.message.id = d'.message.id) : k = k' := by
  unfold drawnIds at hfresh
  unfold sentAt at hd hd'
  generalize (run occasions e).2 = sent at hfresh hd hd'
  -- The identifiers drawn by different calls are disjoint.
  rw [List.filter_flatten, List.map_flatten, List.map_map, List.nodup_flatten] at hfresh
  have hdisjoint := List.pairwise_iff_getElem.1 hfresh.2
  have hmem : ∀ {k : Nat} {d : Datagram}, d ∈ sent[k]?.getD [] → d.message.isRequest = true →
      ∃ hk : k < sent.length,
        d.message.id ∈ (sent[k].filter (·.message.isRequest)).map (·.message.id) := by
    intro k d hd hrequest
    by_cases hk : k < sent.length
    · rw [List.getElem?_eq_getElem hk] at hd
      exact ⟨hk, List.mem_map.2 ⟨d, List.mem_filter.2 ⟨hd, hrequest⟩, rfl⟩⟩
    · rw [List.getElem?_eq_none (Nat.le_of_not_lt hk)] at hd
      cases hd
  obtain ⟨hk, hin⟩ := hmem hd hrequest
  obtain ⟨hk', hin'⟩ := hmem hd' hrequest'
  rcases Nat.lt_trichotomy k k' with hlt | heq | hlt
  · have h := hdisjoint k k' (by simpa using hk) (by simpa using hk') hlt
    simp only [List.getElem_map, Function.comp_apply] at h
    exact absurd (hid ▸ hin') (h hin)
  · exact heq
  · have h := hdisjoint k' k (by simpa using hk') (by simpa using hk) hlt
    simp only [List.getElem_map, Function.comp_apply] at h
    exact absurd (hid ▸ hin) (h hin')

/-- No two calls end round trips with the same PING if no identifier is drawn twice. -/
theorem RoundTrip.index_eq {config : Config} {system : SystemLookup} {random : RandomSource}
    (hfresh : (drawnIds occasions (create config system random)).Nodup) {i j k k' : Nat}
    {d d' : Datagram} {r r' : Request}
    (h : RoundTrip occasions (create config system random) i d r k)
    (h' : RoundTrip occasions (create config system random) j d' r' k')
    (hsettles : (stateAt occasions (create config system random) i).Settles d r)
    (hid : d.message.id = d'.message.id) : ¬ i < j := by
  intro hij
  have hrequest : r.message.isRequest = true := by simp [Message.isRequest, h.ping.kind]
  have hrequest' : r'.message.isRequest = true := by simp [Message.isRequest, h'.ping.kind]
  have hsame : r'.message.id = r.message.id := by rw [← h'.answers, ← h.answers, hid]
  -- Both calls answer the PING that one call has sent, so it is waited for after the first answer.
  have hk : k' = k := eq_of_drawnIds hfresh h'.ping.sent h.ping.sent hrequest' hrequest hsame
  have hearlier : k < i := h.ping.earlier
  obtain ⟨r₁, hr₁, -, -⟩ := h'.ping.waits (i + 1) (by omega) (by omega)
  obtain ⟨bans, now, ho⟩ := h.call
  rw [stateAt_succ ho, hsame, ← h.answers] at hr₁
  -- But the first answer has used it up.
  rcases pending_perform _ _ _ hr₁ with ⟨hunsettled, -⟩ | ⟨hid₁, hkind₁, hsent₁⟩
  · exact hunsettled d r rfl hsettles rfl
  · have hagain : i = k := by
      refine eq_of_drawnIds hfresh (d := ⟨r₁.message, r₁.address⟩) ?_ h.ping.sent ?_ hrequest ?_
      · rw [sentAt_eq ho]; exact hsent₁
      · simp [Message.isRequest, hkind₁]
      · rw [← h.answers]; exact hid₁
    omega

/-- Whoever is established has answered a PING. -/
theorem EstablishedBy.roundTrip {config : Config} {system : SystemLookup} {random : RandomSource}
    {i : Nat} {id : NodeId} {node : Node}
    (h : EstablishedBy occasions (create config system random) i id node) :
    ∃ d r k, RoundTrip occasions (create config system random) i d r k ∧
      (stateAt occasions (create config system random) i).Settles d r ∧
      d.message.sender = id ∧ id ≠ config.localId ∧ node = ⟨id, .ofAddress d.address⟩ := by
  obtain ⟨hbefore, hafter⟩ := h
  have hi : i < occasions.length := by
    by_contra hi
    have hsame : stateAt occasions (create config system random) (i + 1)
        = stateAt occasions (create config system random) i := by
      unfold stateAt
      rw [List.take_of_length_le (by omega), List.take_of_length_le (by omega)]
    exact hbefore (hsame ▸ hafter)
  have ho : occasions[i]? = some occasions[i] := List.getElem?_eq_getElem hi
  have hlocal : (stateAt occasions (create config system random) i).localId = config.localId := by
    refine stateAt_induction (P := fun e => e.localId = config.localId) rfl ?_ i (Nat.le_of_lt hi)
    intro j o _ hj
    rw [localId, config_perform]
    exact hj
  rw [stateAt_succ ho] at hafter
  obtain ⟨d, hcall, ⟨⟨r, hsettles⟩, hunchallenged⟩, hsender, hself, hnode⟩ :=
    (perform_effect _ _ _ _).established hbefore hafter
  obtain ⟨hid, k, hwaits⟩ := pending_history config system random (Nat.le_of_lt hi)
    hsettles.pending
  refine ⟨d, r, k, ⟨⟨occasions[i].bans, occasions[i].now, ?_⟩, ?_, hid.symm,
    hsettles.address_eq.symm, hwaits, ?_, ?_, ?_⟩, hsettles, hsender, hlocal ▸ hself, hnode⟩
  · rw [ho, ← hcall]
  · rw [Message.kind, hsettles.body]
  · rw [hid]; exact hsettles.pending
  · intro bound hbound
    have hmay := hsettles.mayAnswer
    rw [Request.mayAnswer, hbound] at hmay
    exact of_decide_eq_true hmay
  · rw [hid]; exact hunchallenged

/-- **Only round trips establish peers.**  Whenever a call of a run establishes a peer, the call is
about a PONG of that peer which answers a PING; the PING was sent by an earlier call to just the
address that the PONG comes from, has been waited for ever since, is bound to nobody else and is not
that of a challenge.  The peer is not the explorer itself, and it is established at the host and
the port that the PONG comes from.  If no identifier is drawn twice in the run, answers with the
same identifier establish at most one peer, and at most once. -/
theorem established_by_round_trip (config : Config) (system : SystemLookup)
    (random : RandomSource) (occasions : List Occasion) :
    let e := create config system random
    (∀ i id node, EstablishedBy occasions e i id node →
      ∃ d r k, RoundTrip occasions e i d r k ∧ d.message.sender = id ∧ id ≠ config.localId ∧
        node = ⟨id, ⟨d.address.ip.text, d.address.port⟩⟩) ∧
    ((drawnIds occasions e).Nodup →
      ∀ i j id id' node node' d d' o o', EstablishedBy occasions e i id node →
        EstablishedBy occasions e j id' node' →
        occasions[i]? = some o → o.call = .receive d →
        occasions[j]? = some o' → o'.call = .receive d' →
        d.message.id = d'.message.id → i = j ∧ id = id') := by
  intro e
  refine ⟨?_, ?_⟩
  · intro i id node h
    obtain ⟨d, r, k, htrip, -, hsender, hself, hnode⟩ := h.roundTrip
    exact ⟨d, r, k, htrip, hsender, hself, hnode⟩
  · intro hfresh i j id id' node node' d d' o o' h h' ho hcall ho' hcall' hid
    obtain ⟨d₁, r, k, htrip, hsettles, hsender, -, -⟩ := h.roundTrip
    obtain ⟨d₂, r', k', htrip', hsettles', hsender', -, -⟩ := h'.roundTrip
    -- The messages of the round trips are those of the calls.
    have hd : d₁ = d := by
      obtain ⟨bans, now, ho₁⟩ := htrip.call
      rw [ho₁, Option.some.injEq] at ho
      rw [← ho] at hcall
      exact Call.receive.inj hcall
    have hd' : d₂ = d' := by
      obtain ⟨bans, now, ho₂⟩ := htrip'.call
      rw [ho₂, Option.some.injEq] at ho'
      rw [← ho'] at hcall'
      exact Call.receive.inj hcall'
    subst hd hd'
    have hij : i = j := by
      have hle := htrip'.index_eq hfresh htrip hsettles' hid.symm
      have hge := htrip.index_eq hfresh htrip' hsettles hid
      omega
    subst hij
    have hsame : o = o' := Option.some.inj (ho.symm.trans ho')
    rw [hsame, hcall'] at hcall
    refine ⟨rfl, ?_⟩
    rw [← hsender, ← hsender', Call.receive.inj hcall]

open Sample in
/-- The answer of a peer establishes it, and its repetition establishes nobody. -/
theorem established_once :
    let occasions := [starts, pinged 0x80 1, ponged 0x80 1 (messageId 0 0),
      ponged 0x80 1 (messageId 0 0)]
    (drawnIds occasions (explorer 0 3)).Nodup ∧
    EstablishedBy occasions (explorer 0 3) 2 (nodeId 0x80)
      ⟨nodeId 0x80, .ofAddress (address 1)⟩ ∧
    ∀ id node, ¬ EstablishedBy occasions (explorer 0 3) 3 id node := by
  intro occasions
  have hfresh : (drawnIds occasions (explorer 0 3)).Nodup := by decide +kernel
  have hfirst : EstablishedBy occasions (explorer 0 3) 2 (nodeId 0x80)
      ⟨nodeId 0x80, .ofAddress (address 1)⟩ := by
    unfold EstablishedBy
    decide +kernel
  refine ⟨hfresh, hfirst, ?_⟩
  intro id node hsecond
  have honce :=
    (established_by_round_trip (Sample.config 0 3) (fun _ => none) (source 0) occasions).2
    hfresh 2 3 _ _ _ _ _ _ _ _ hfirst hsecond rfl rfl rfl rfl rfl
  exact absurd honce.1 (by decide)

end Explorer
end NodeDiscovery
