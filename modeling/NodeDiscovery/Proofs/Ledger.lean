import NodeDiscovery.Proofs.Expiring

/-!
# Requests that are sent and requests that are waited for

A call hands over the requests that it has begun to wait for, one for one and in order.  It stops
waiting for some requests before it sends any, so none of those that it sends is dropped by the
same call; and since identifiers are fresh, none takes the place of another one.

## Main definitions

* `RequestTracker.newAmong` — the requests that were not waited for before.
* `Explorer.Genuine` — what is waited for is what the explorer itself has composed.
* `Request.Tried` — a PING was tried as often as it may be.

## Main results

* `Explorer.ledger_of_sendings` — what is sent is added to what is waited for.
* `Explorer.pending_of_sendings` — where a PING that is waited for comes from.
* `Explorer.newAmong_perform` — a call sends what it begins to wait for.
* `Explorer.sent_is_pending` — so does every call of a run, and what is waited for is in order.
-/

namespace NodeDiscovery

namespace Request

/-- A request as it goes out. -/
def datagram (r : Request) : Datagram :=
  ⟨r.message, r.address⟩

/-- A PING that has been tried at least once and not more often than it may be. -/
def Tried (most : UInt32) (r : Request) : Prop :=
  1 ≤ r.attempt.toNat ∧ r.attempt.toNat ≤ max 1 most.toNat

variable {most : UInt32} {r : Request}

theorem First.tried (h : r.First) : r.Tried most := by
  rw [Tried, h]
  exact ⟨Nat.le_refl _, Nat.le_max_left _ _⟩

/-- The number of the next attempt does not overflow. -/
theorem toNat_next (h : r.attempt < most) : (r.attempt + 1).toNat = r.attempt.toNat + 1 := by
  have hlt : r.attempt.toNat < most.toNat := h
  have hmost := most.toNat_lt
  rw [UInt32.toNat_add, Nat.mod_eq_of_lt]
  · rfl
  · show r.attempt.toNat + 1 < _
    omega

theorem Renews.tried {x : List Request} (h : r.Renews most x) : r.Tried most := by
  rcases h with hfirst | ⟨q, -, hattempt, -, hnext⟩
  · exact hfirst.tried
  · have hlt : q.attempt.toNat < most.toNat := hattempt
    rw [Tried, hnext, toNat_next hattempt]
    omega

end Request

/-! ### What is new -/

namespace RequestTracker

/-- Whether a request is waited for under an identifier. -/
def awaits (m : MessageId) (t : RequestTracker) : Bool :=
  t.pings.contains m || t.finds.contains m

/-- Those of some requests that were not waited for before. -/
def newAmong (t : RequestTracker) (requests : List Request) : List Request :=
  requests.filter fun r => !t.awaits r.id

variable {t : RequestTracker}

/-- If some requests were waited for before and the others were not, the others are new. -/
theorem newAmong_of_ledger {requests : List Request} {kept new : List Datagram}
    (hledger : requests.map Request.datagram = kept ++ new)
    (hkept : ∀ d ∈ kept, t.awaits d.message.id = true)
    (hnew : ∀ d ∈ new, t.awaits d.message.id = false) :
    (t.newAmong requests).map Request.datagram = new := by
  have hfilter : (t.newAmong requests).map Request.datagram
      = (requests.map Request.datagram).filter fun d => !t.awaits d.message.id := by
    rw [newAmong, List.filter_map]
    rfl
  have hnone : kept.filter (fun d => !t.awaits d.message.id) = [] :=
    List.filter_eq_nil_iff.2 fun d hd => by simp [hkept d hd]
  have hall : new.filter (fun d => !t.awaits d.message.id) = new :=
    List.filter_eq_self.2 fun d hd => by simp [hnew d hd]
  rw [hfilter, hledger, List.filter_append, hnone, hall, List.nil_append]

end RequestTracker

namespace Explorer

variable {drawn : List MessageId} {e e' : Explorer} {P : Request → Prop} {m : MessageId}

/-! ### What is waited for was issued -/

theorem Move.awaits (h : Move e e') (drawn : List MessageId)
    (hm : e'.requests.awaits m = true) :
    e.requests.awaits m = true ∨ m ∈ e'.issued drawn := by
  have hqueued : ∀ d ∈ e'.outbox, d.message.isRequest = true → d.message.id = m →
      m ∈ e'.issued drawn :=
    fun d hd hrequest hid => List.mem_append_right drawn (hid ▸ mem_requestIds hd hrequest)
  have hkept : ∀ {d : Dict MessageId Request} {p : MessageId → Request → Bool},
      (d.filter p).contains m = true → d.contains m = true := by
    intro d p h
    obtain ⟨r, hr⟩ := Dict.contains_iff.1 h
    exact Dict.contains_iff.2 ⟨r, (Dict.get?_filter_eq_some.1 hr).1⟩
  unfold RequestTracker.awaits at hm ⊢
  rw [Bool.or_eq_true] at hm ⊢
  cases h with
  | silent _ _ hrequests _ => rw [hrequests] at hm; exact .inl hm
  | pong | neighbors => exact .inl hm
  | ping now a attempt related hfree =>
    rw [sendPing_of_free hfree] at hm hqueued ⊢
    have hping : (e.requests.pings.insert (e.nextPing now a attempt related).id _).contains m = true
      ∨ _ := hm
    rw [Dict.contains_insert, Bool.or_eq_true, decide_eq_true_eq, or_assoc] at hping
    rcases hping with hid | hping
    · exact .inr (hqueued _ (List.mem_append_right _ (List.mem_singleton.2 rfl)) rfl hid.symm)
    · exact .inl hping
  | find now a node =>
    have hfind : _ ∨ (e.requests.finds.insert (e.nextFind now a node).id _).contains m = true := hm
    rw [Dict.contains_insert, Bool.or_eq_true, decide_eq_true_eq, or_left_comm] at hfind
    rcases hfind with hid | hfind
    · exact .inr (hqueued _ (List.mem_append_right _ (List.mem_singleton.2 rfl)) rfl hid.symm)
    · exact .inl hfind
  | bind id node =>
    refine .inl (hm.imp_left fun hping => ?_)
    obtain ⟨r, hr⟩ := Dict.contains_iff.1 hping
    obtain ⟨r₀, hr₀, -⟩ := RequestTracker.get?_of_bind hr
    exact Dict.contains_iff.2 ⟨r₀, hr₀⟩
  | drop p q => exact .inl (hm.imp hkept hkept)

theorem issued_of_awaits (h : e.Moves e')
    (hissued : ∀ m, e.requests.awaits m = true → m ∈ e.issued drawn) :
    ∀ m, e'.requests.awaits m = true → m ∈ e'.issued drawn := by
  induction h with
  | refl => exact hissued
  | tail _ hmove ih =>
    intro m hm
    rcases hmove.awaits drawn hm with hm | hm
    · exact mem_issued_of_moves (.single hmove) (ih m hm)
    · exact hm

/-- Every request that is waited for was issued. -/
theorem FreshlyReachable.issued_of_awaits (h : FreshlyReachable drawn e) :
    ∀ m, e.requests.awaits m = true → m ∈ e.issued drawn := by
  induction h with
  | create config system random => intro m hm; cases hm
  | @perform drawn e bans now call _ _ ih =>
    obtain ⟨phase, e', accepted, hmoves, hperform⟩ := perform_moves bans now call e
    have hissued := Explorer.issued_of_awaits hmoves ih
    rw [hperform]
    intro m hm
    exact List.mem_append_left _ (hissued m hm)

/-! ### What sendings add -/

/-- One sending adds one message or none, and with a request what is waited for. -/
theorem Sending.ledger (h : Sending P e e')
    (hunawaited : ∀ d, e'.outbox = e.outbox ++ [d] → d.message.isRequest = true →
      e.requests.awaits d.message.id = false) :
    ∃ one, e'.outbox = e.outbox ++ one ∧
      e'.requests.pings.values.map Request.datagram = e.requests.pings.values.map Request.datagram
        ++ one.filter (·.message.kind = .ping) ∧
      e'.requests.finds.values.map Request.datagram = e.requests.finds.values.map Request.datagram
        ++ one.filter (·.message.kind = .findNode) := by
  have hnil : ∀ l : List Datagram, l = l ++ [] := fun l => (List.append_nil l).symm
  cases h with
  | silent _ _ hrequests houtbox =>
    rw [hrequests, houtbox]
    exact ⟨[], hnil _, hnil _, hnil _⟩
  | pong id a => exact ⟨[⟨e.compose id .pong, a⟩], rfl, hnil _, hnil _⟩
  | neighbors id nodes a => exact ⟨[⟨e.compose id (.neighbors nodes), a⟩], rfl, hnil _, hnil _⟩
  | ping now a attempt related hfree hP =>
    rw [sendPing_of_free hfree] at hunawaited ⊢
    have hnew : e.requests.awaits (e.nextPing now a attempt related).id = false :=
      hunawaited _ rfl rfl
    rw [RequestTracker.awaits, Bool.or_eq_false_iff] at hnew
    refine ⟨[(e.nextPing now a attempt related).datagram], rfl, ?_, hnil _⟩
    show List.map _ (Dict.insert (e.nextPing now a attempt related).id _ _).values = _
    rw [Dict.values_insert (Dict.contains_eq_false.1 hnew.1), List.map_append]
    rfl
  | find now a node hP =>
    have hnew : e.requests.awaits (e.nextFind now a node).id = false := hunawaited _ rfl rfl
    rw [RequestTracker.awaits, Bool.or_eq_false_iff] at hnew
    refine ⟨[(e.nextFind now a node).datagram], rfl, hnil _, ?_⟩
    show List.map _ (Dict.insert (e.nextFind now a node).id _ _).values = _
    rw [Dict.values_insert (Dict.contains_eq_false.1 hnew.2), List.map_append]
    rfl
  | bind id node =>
    have hsame := Dict.map_values_adjust e.requests.pings id
      (f := fun r => { r with related := some node }) (g := Request.datagram) fun _ => rfl
    exact ⟨[], hnil _, hsame.trans (hnil _), hnil _⟩

/-- What is sent is added to what is waited for, one for one and in order. -/
theorem ledger_of_sendings (h : Sendings P e e') (hfresh : e'.Fresh drawn)
    (hissued : ∀ m, e.requests.awaits m = true → m ∈ e.issued drawn) :
    ∃ new, e'.outbox = e.outbox ++ new ∧
      e'.requests.pings.values.map Request.datagram = e.requests.pings.values.map Request.datagram
        ++ new.filter (·.message.kind = .ping) ∧
      e'.requests.finds.values.map Request.datagram = e.requests.finds.values.map Request.datagram
        ++ new.filter (·.message.kind = .findNode) := by
  induction h with
  | refl => exact ⟨[], by simp, by simp, by simp⟩
  | @tail e₁ e₂ hsendings hlast ih =>
    obtain ⟨new, houtbox, hpings, hfinds⟩ := ih (hfresh.of_moves (.single hlast.move))
    have hissued₁ := issued_of_awaits (moves_of_sendings hsendings) hissued
    -- A fresh identifier is none that is waited for.
    obtain ⟨one, houtbox₁, hpings₁, hfinds₁⟩ := hlast.ledger fun d houtbox hrequest => by
      rw [← Bool.not_eq_true]
      exact fun hm => hfresh.notMem_of_queued houtbox hrequest (hissued₁ _ hm)
    refine ⟨new ++ one, by rw [houtbox₁, houtbox, List.append_assoc], ?_, ?_⟩
    · rw [hpings₁, hpings, List.filter_append, List.append_assoc]
    · rw [hfinds₁, hfinds, List.filter_append, List.append_assoc]

/-- A PING that is waited for after some sendings was waited for before them, or it is one of those
that they have sent; but it may have been bound to a node since. -/
theorem pending_of_sendings (h : Sendings P e e') {r : Request}
    (hr : e'.requests.pings.get? m = some r) :
    ∃ r₀, r = { r₀ with related := r.related } ∧
      (e.requests.pings.get? m = some r₀ ∨
        P r₀ ∧ r₀.datagram ∈ e'.outbox ∧ ∀ drawn, e'.Fresh drawn → m ∉ e.issued drawn) := by
  induction h generalizing r with
  | refl => exact ⟨r, rfl, .inl hr⟩
  | @tail e₁ e₂ hsendings hlast ih =>
    have hsame : ∀ {r₁ : Request}, e₁.requests.pings.get? m = some r₁ →
        r = { r₁ with related := r.related } →
        ∃ r₀, r = { r₀ with related := r.related } ∧
          (e.requests.pings.get? m = some r₀ ∨
            P r₀ ∧ r₀.datagram ∈ e₂.outbox ∧ ∀ drawn, e₂.Fresh drawn → m ∉ e.issued drawn) := by
      intro r₁ hr₁ heq
      obtain ⟨r₀, heq₁, h⟩ := ih hr₁
      refine ⟨r₀, by rw [heq, heq₁], h.imp_right ?_⟩
      rintro ⟨hP, hqueued, hnew⟩
      exact ⟨hP, mem_outbox_of_moves (.single hlast.move) hqueued,
        fun drawn hfresh => hnew drawn (hfresh.of_moves (.single hlast.move))⟩
    cases hlast with
    | silent _ _ hrequests _ => rw [hrequests] at hr; exact hsame hr rfl
    | pong | neighbors | find => exact hsame hr rfl
    | ping now a attempt related hfree hP =>
      rw [sendPing_of_free hfree] at hsame hr ⊢
      have hr : (e₁.requests.pings.insert _ _).get? m = some r := hr
      rw [Dict.get?_insert] at hr
      split at hr
      · next hm =>
        cases hr
        refine ⟨_, rfl, .inr ⟨hP, List.mem_append_right _ (List.mem_singleton.2 rfl), ?_⟩⟩
        intro drawn hfresh hissued
        rw [← sendPing_of_free hfree] at hfresh
        refine hfresh.notMem_issued hfree ?_
        rw [← hm]
        exact mem_issued_of_moves (moves_of_sendings hsendings) hissued
      · exact hsame hr rfl
    | bind id node =>
      rw [RequestTracker.get?_bind] at hr
      split at hr
      · obtain ⟨r₁, hr₁, rfl⟩ := Option.map_eq_some_iff.1 hr
        exact hsame hr₁ rfl
      · exact hsame hr rfl

/-- A PING that is waited for is waited for after some sendings, but it may have been bound to
another node. -/
theorem pending_kept (h : Sendings P e e') (hfresh : e'.Fresh drawn) {r : Request}
    (hm : m ∈ e.issued drawn) (hr : e.requests.pings.get? m = some r) :
    ∃ related, e'.requests.pings.get? m = some { r with related } ∧
      (related = none → r.related = none) := by
  induction h with
  | refl => exact ⟨r.related, hr, id⟩
  | @tail e₁ e₂ hsendings hlast ih =>
    obtain ⟨related, hr₁, hbound⟩ := ih (hfresh.of_moves (.single hlast.move))
    cases hlast with
    | silent _ _ hrequests _ => exact ⟨related, by rw [hrequests, hr₁], hbound⟩
    | pong | neighbors | find => exact ⟨related, hr₁, hbound⟩
    | ping now a attempt related' hfree hP =>
      -- What is sent has an identifier that was not issued before.
      have hne : m ≠ (e₁.nextPing now a attempt related').id := by
        rintro rfl
        exact hfresh.notMem_issued hfree (mem_issued_of_moves (moves_of_sendings hsendings) hm)
      refine ⟨related, ?_, hbound⟩
      rw [sendPing_of_free hfree]
      show (e₁.requests.pings.insert _ _).get? m = _
      rw [Dict.get?_insert, if_neg hne, hr₁]
    | bind id node =>
      rw [RequestTracker.get?_bind, hr₁]
      split
      · exact ⟨some node, rfl, nofun⟩
      · exact ⟨related, rfl, hbound⟩

/-- A PING that is waited for is waited for after every call but a round of expiring that does not
settle it. -/
theorem kept_by_perform (h : FreshlyReachable drawn e) {bans : Bans} {now : Timestamp} {call : Call}
    (hcall : ∀ ties, call ≠ .clean ties)
    (hfresh : (drawn ++ requestIds (e.perform bans now call).sent).Nodup) {r : Request}
    (hr : e.requests.pings.get? m = some r)
    (hwaits : ∀ d r', call = .receive d → e.Settles d r' → m ≠ d.message.id) :
    ∃ related, (e.perform bans now call).explorer.requests.pings.get? m
        = some { r with related } ∧ (related = none → r.related = none) := by
  obtain ⟨phase, p, q, e', accepted, hsendings, hperform, hdropped⟩ :=
    perform_first bans now hcall e
  rw [hperform] at hfresh ⊢
  refine pending_kept hsendings hfresh (h.recorded m r hr) (Dict.get?_filter_eq_some.2 ⟨hr, ?_⟩)
  by_contra hp
  obtain ⟨d, hd, hm, r', hsettles⟩ := hdropped m r (Bool.not_eq_true _ ▸ hp)
  exact hwaits d r' hd hsettles hm

/-! ### What is waited for is genuine -/

/-- What an explorer waits for is what it has composed itself. -/
structure Genuine (e : Explorer) : Prop where
  /-- A PING of its own that asks for a PONG. -/
  ping : ∀ m r, e.requests.pings.get? m = some r →
    r.message = e.compose m (.ping e.config.localNode.endpoint) ∧ r.expects = .pong
  /-- A FIND_NODE for its own identifier that asks for NEIGHBORS. -/
  find : ∀ m r, e.requests.finds.get? m = some r →
    r.message = e.compose m (.findNode e.localId) ∧ r.expects = .neighbors

theorem Genuine.of_config (h : e.Genuine) (hconfig : e'.config = e.config)
    (hrequests : e'.requests = e.requests) : e'.Genuine := by
  constructor
  · intro m r hr
    rw [hrequests] at hr
    simpa only [compose, localId, hconfig] using h.ping m r hr
  · intro m r hr
    rw [hrequests] at hr
    simpa only [compose, localId, hconfig] using h.find m r hr

theorem genuine_of_moves (h : e.Moves e') (hgenuine : e.Genuine) : e'.Genuine := by
  induction h with
  | refl => exact hgenuine
  | @tail e₁ e₂ _ hmove ih =>
    cases hmove with
    | silent hconfig _ hrequests _ => exact ih.of_config hconfig hrequests
    | pong | neighbors => exact ih.of_config rfl rfl
    | ping now a attempt related hfree =>
      rw [sendPing_of_free hfree]
      refine ⟨fun m r hr => ?_, ih.find⟩
      have hr : (e₁.requests.pings.insert _ _).get? m = some r := hr
      rw [Dict.get?_insert] at hr
      split at hr
      · next hm => cases hr; exact ⟨by rw [hm]; rfl, rfl⟩
      · exact ih.ping m r hr
    | find now a node =>
      refine ⟨ih.ping, fun m r hr => ?_⟩
      have hr : (e₁.requests.finds.insert _ _).get? m = some r := hr
      rw [Dict.get?_insert] at hr
      split at hr
      · next hm => cases hr; exact ⟨by rw [hm]; rfl, rfl⟩
      · exact ih.find m r hr
    | bind id node =>
      refine ⟨fun m r hr => ?_, ih.find⟩
      obtain ⟨r₀, hr₀, hmessage, -, hexpects⟩ := RequestTracker.get?_of_bind hr
      rw [← hmessage, ← hexpects]
      exact ih.ping m r₀ hr₀
    | drop p q =>
      exact ⟨fun m r hr => ih.ping m r (Dict.get?_filter_eq_some.1 hr).1,
        fun m r hr => ih.find m r (Dict.get?_filter_eq_some.1 hr).1⟩

theorem Reachable.genuine (h : Reachable e) : e.Genuine := by
  induction h with
  | create config system random => exact ⟨fun _ _ hr => (by cases hr), fun _ _ hr => (by cases hr)⟩
  | @perform e bans now call _ ih =>
    obtain ⟨phase, e', accepted, hmoves, hperform⟩ := perform_moves bans now call e
    rw [hperform]
    exact (genuine_of_moves hmoves (ih.of_config rfl rfl)).of_config rfl rfl

/-! ### Attempts -/

/-- Every PING that is waited for has been tried as often as it may be. -/
theorem Reachable.tried (h : Reachable e) :
    ∀ m r, e.requests.pings.get? m = some r → r.Tried e.config.maxPingAttempts := by
  induction h with
  | create config system random => intro m r hr; cases hr
  | @perform e bans now call _ ih =>
    obtain ⟨_, phase, p, q, e', accepted, hsendings, hperform⟩ := perform_sendings bans now call e
    rw [config_perform, hperform]
    intro m r hr
    obtain ⟨r₀, heq, hbefore | ⟨hsent, -⟩⟩ := pending_of_sendings hsendings hr
    · rw [heq]
      exact ih m r₀ (Dict.get?_filter_eq_some.1 hbefore).1
    · rw [heq]
      exact hsent.tried

/-! ### Timeouts -/

/-- An explorer waits for all its PINGs equally long. -/
theorem timeouts_of_moves (h : e.Moves e')
    (hbefore : ∀ m r, e.requests.pings.get? m = some r → r.timeout = e.config.requestTimeout) :
    ∀ m r, e'.requests.pings.get? m = some r → r.timeout = e'.config.requestTimeout := by
  induction h with
  | refl => exact hbefore
  | @tail e₁ e₂ _ hmove ih =>
    cases hmove with
    | silent hconfig _ hrequests _ => rwa [hconfig, hrequests]
    | pong | neighbors | find => exact ih
    | ping now a attempt related hfree =>
      rw [sendPing_of_free hfree]
      intro m r hr
      have hr : (e₁.requests.pings.insert _ _).get? m = some r := hr
      rw [Dict.get?_insert] at hr
      split at hr
      · cases hr
        rfl
      · exact ih m r hr
    | bind id node =>
      intro m r hr
      rw [RequestTracker.get?_bind] at hr
      split at hr
      · obtain ⟨r₀, hr₀, rfl⟩ := Option.map_eq_some_iff.1 hr
        exact ih m r₀ hr₀
      · exact ih m r hr
    | drop p q => exact fun m r hr => ih m r (Dict.get?_filter_eq_some.1 hr).1

theorem Reachable.timeouts (h : Reachable e) :
    ∀ m r, e.requests.pings.get? m = some r → r.timeout = e.config.requestTimeout := by
  induction h with
  | create config system random => intro m r hr; cases hr
  | @perform e bans now call _ ih =>
    obtain ⟨phase, e', accepted, hmoves, hperform⟩ := perform_moves bans now call e
    have hafter := timeouts_of_moves hmoves ih
    rw [hperform]
    exact hafter

/-! ### What a call sends -/

/-- A request that is waited for is waited for under its own identifier. -/
theorem Genuine.awaits (h : e.Genuine) {d : Datagram}
    (hd : d ∈ e.requests.pings.values.map Request.datagram ∨
      d ∈ e.requests.finds.values.map Request.datagram) :
    e.requests.awaits d.message.id = true := by
  unfold RequestTracker.awaits
  rw [Bool.or_eq_true]
  refine hd.imp (fun hd => ?_) (fun hd => ?_)
  · obtain ⟨r, hr, rfl⟩ := List.mem_map.1 hd
    obtain ⟨m, hm⟩ := Dict.mem_values.1 hr
    have hid : r.datagram.message.id = m := congrArg Message.id (h.ping m r hm).1
    exact Dict.contains_iff.2 ⟨r, hid ▸ hm⟩
  · obtain ⟨r, hr, rfl⟩ := List.mem_map.1 hd
    obtain ⟨m, hm⟩ := Dict.mem_values.1 hr
    have hid : r.datagram.message.id = m := congrArg Message.id (h.find m r hm).1
    exact Dict.contains_iff.2 ⟨r, hid ▸ hm⟩

/-- The requests that a call sends are those that are waited for after it and were not waited for
before it. -/
theorem newAmong_perform (h : FreshlyReachable drawn e) {bans : Bans} {now : Timestamp}
    {call : Call} (hfresh : (drawn ++ requestIds (e.perform bans now call).sent).Nodup) :
    (e.requests.newAmong (e.perform bans now call).explorer.requests.pings.values).map
        Request.datagram
      = (e.perform bans now call).sent.filter (·.message.kind = .ping) ∧
    (e.requests.newAmong (e.perform bans now call).explorer.requests.finds.values).map
        Request.datagram
      = (e.perform bans now call).sent.filter (·.message.kind = .findNode) := by
  have houtbox := h.reachable.outbox_eq
  obtain ⟨_, phase, p, q, e', accepted, hsendings, hperform⟩ := perform_sendings bans now call e
  rw [hperform, sent_finish] at hfresh ⊢
  obtain ⟨new, hqueued, hpings, hfinds⟩ := ledger_of_sendings hsendings hfresh
    (issued_of_awaits (moves_drop p q { e with phase }) h.issued_of_awaits)
  have hsent : new = e'.outbox := by
    have hempty : (drop p q { e with phase }).outbox = [] := houtbox
    rw [hqueued, hempty, List.nil_append]
  subst hsent
  -- What was kept was waited for, and what is sent has fresh identifiers.
  have hkept : ∀ {p : MessageId → Request → Bool} {d : Dict MessageId Request} {x : Datagram},
      x ∈ (d.filter p).values.map Request.datagram → x ∈ d.values.map Request.datagram :=
    fun hx => ((List.filter_sublist.map Prod.snd).map Request.datagram).subset hx
  have hnew : ∀ d ∈ e'.outbox, d.message.isRequest = true →
      e.requests.awaits d.message.id = false := by
    intro d hd hrequest
    rw [← Bool.not_eq_true]
    intro hm
    have hdrawn := h.issued_of_awaits _ hm
    rw [h.issued_eq] at hdrawn
    exact (List.nodup_append.1 hfresh).2.2 _ hdrawn _ (mem_requestIds hd hrequest) rfl
  have hofKind : ∀ {k : MessageKind}, k = .ping ∨ k = .findNode →
      ∀ d ∈ e'.outbox.filter (·.message.kind = k), e.requests.awaits d.message.id = false := by
    intro k hk d hd
    obtain ⟨hd, hkind⟩ := List.mem_filter.1 hd
    refine hnew d hd ?_
    rw [Message.isRequest, of_decide_eq_true hkind]
    rcases hk with rfl | rfl <;> rfl
  have hgenuine := h.reachable.genuine
  constructor
  · exact RequestTracker.newAmong_of_ledger hpings
      (fun d hd => hgenuine.awaits (.inl (hkept hd))) (hofKind (.inl rfl))
  · exact RequestTracker.newAmong_of_ledger hfinds
      (fun d hd => hgenuine.awaits (.inr (hkept hd))) (hofKind (.inr rfl))

/-- **What is sent is what is waited for.**  In a run that draws no identifier twice no message is
left behind between calls, and no two PINGs that are waited for go to the same address.  What is
waited for under an identifier is the explorer's own PING with this identifier, which asks for a
PONG, or its own FIND_NODE, which asks for NEIGHBORS.  The attempt number of a PING is at least one
and at most the number of attempts that the settings allow, or one if they allow none; so the number
of a next attempt does not overflow.  Every call sends just the requests that are waited for after
it and were not waited for before it, with the same identifiers, to the same addresses, one for one
and in order. -/
theorem sent_is_pending (config : Config) (system : SystemLookup) (random : RandomSource)
    (occasions : List Occasion)
    (hfresh : (drawnIds occasions (create config system random)).Nodup) :
    let e := create config system random
    (∀ i ≤ occasions.length,
      let s := stateAt occasions e i
      s.outbox = [] ∧
      (∀ m m' r r', s.requests.pings.get? m = some r → s.requests.pings.get? m' = some r' →
        r.address = r'.address → m = m') ∧
      (∀ m r, s.requests.pings.get? m = some r → r.expects = .pong ∧
        r.message = ⟨m, config.localId, some config.networkId, .ping config.localNode.endpoint⟩) ∧
      (∀ m r, s.requests.finds.get? m = some r → r.expects = .neighbors ∧
        r.message = ⟨m, config.localId, some config.networkId, .findNode config.localId⟩) ∧
      (∀ m r, s.requests.pings.get? m = some r →
        1 ≤ r.attempt.toNat ∧ r.attempt.toNat ≤ max 1 config.maxPingAttempts.toNat ∧
        (r.attempt < config.maxPingAttempts →
          (r.attempt + 1).toNat = r.attempt.toNat + 1))) ∧
    ∀ i < occasions.length,
      let before := (stateAt occasions e i).requests
      let after := (stateAt occasions e (i + 1)).requests
      (before.newAmong after.pings.values).map Request.datagram
        = (sentAt occasions e i).filter (·.message.kind = .ping) ∧
      (before.newAmong after.finds.values).map Request.datagram
        = (sentAt occasions e i).filter (·.message.kind = .findNode) := by
  intro e
  refine ⟨fun i hi => ?_, fun i hi => ?_⟩
  · have hreachable : Reachable (stateAt occasions e i) :=
      (Reachable.create config system random).stateAt occasions i
    have hconfig : (stateAt occasions e i).config = config := config_run _ _
    have hgenuine := hreachable.genuine
    have htried := hreachable.tried
    rw [hconfig] at htried
    refine ⟨hreachable.outbox_eq, hreachable.orderly.alone, fun m r hr => ?_, fun m r hr => ?_,
      fun m r hr => ⟨(htried m r hr).1, (htried m r hr).2, Request.toNat_next⟩⟩
    · obtain ⟨hmessage, hexpects⟩ := hgenuine.ping m r hr
      rw [compose, localId, hconfig] at hmessage
      exact ⟨hexpects, hmessage⟩
    · obtain ⟨hmessage, hexpects⟩ := hgenuine.find m r hr
      rw [compose, localId, hconfig] at hmessage
      exact ⟨hexpects, hmessage⟩
  · have ho : occasions[i]? = some occasions[i] := List.getElem?_eq_getElem hi
    have hnext := nodup_drawnIds_take hfresh (i + 1)
    rw [drawnIds_take_succ hi, sentAt_eq ho] at hnext
    rw [stateAt_succ ho, sentAt_eq ho]
    exact newAmong_perform (freshlyReachable_stateAt hfresh (Nat.le_of_lt hi)) hnext

open Sample in
/-- A peer is checked and does not answer: when its PING expires, one is sent in its place, and
nothing is sent in place of the FIND_NODE. -/
theorem renewed_is_pending :
    let occasions := [starts, pinged 0x80 1, ponged 0x80 1 (messageId 0 0), updates, cleans 3000]
    let before := (stateAt occasions (explorer 0 3) 4).requests
    let after := (stateAt occasions (explorer 0 3) 5).requests
    (drawnIds occasions (explorer 0 3)).Nodup ∧
    before.pings.size = 1 ∧ before.finds.size = 1 ∧
    (before.newAmong after.pings.values).map Request.datagram
      = [⟨⟨messageId 0 3, nodeId 0, some 0, .ping (.ofAddress (address 3))⟩, address 1⟩] ∧
    (before.newAmong after.finds.values).map Request.datagram = [] := by
  intro occasions before after
  have hfresh : (drawnIds occasions (explorer 0 3)).Nodup := by decide +kernel
  obtain ⟨hpings, hfinds⟩ := (sent_is_pending (Sample.config 0 3) (fun _ => none) (source 0)
    occasions hfresh).2 4 (by decide)
  refine ⟨hfresh, ?_, ?_, hpings.trans ?_, hfinds.trans ?_⟩ <;> decide +kernel

end Explorer
end NodeDiscovery
