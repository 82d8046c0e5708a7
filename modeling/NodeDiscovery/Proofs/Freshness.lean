import NodeDiscovery.Proofs.Admission

/-!
# Fresh identifiers

The identifier of a request is fresh if it has not been drawn before, by an earlier call or by this
one.  Whether all are is known only when a call has ended, and then it was so at each of its moves,
since moves only add to what has been issued.

## Main definitions

* `Explorer.issued` — the identifiers drawn by earlier calls and by this one so far.
* `Explorer.Fresh` — none was drawn twice.
* `Explorer.FreshlyReachable` — the states of runs in which none is drawn twice.
* `Explorer.Recorded` — every PING that is waited for was issued.

## Main results

* `Explorer.freshlyReachable_stateAt` — the states of a run that draws no identifier twice.
* `Explorer.Fresh.notMem_issued` — a PING that is sent was not issued before.
* `Explorer.FreshlyReachable.recorded` — what is waited for was issued.
-/

namespace NodeDiscovery

/-- The identifiers of the requests among some messages. -/
def requestIds (sent : List Datagram) : List MessageId :=
  (sent.filter (·.message.isRequest)).map (·.message.id)

@[simp] theorem requestIds_append (sent sent' : List Datagram) :
    requestIds (sent ++ sent') = requestIds sent ++ requestIds sent' := by
  simp [requestIds]

theorem mem_requestIds {sent : List Datagram} {d : Datagram} (hd : d ∈ sent)
    (hrequest : d.message.isRequest = true) : d.message.id ∈ requestIds sent :=
  List.mem_map.2 ⟨d, List.mem_filter.2 ⟨hd, hrequest⟩, rfl⟩

namespace Explorer

/-- The identifiers drawn so far: by earlier calls, and by this one for what is queued. -/
def issued (drawn : List MessageId) (e : Explorer) : List MessageId :=
  drawn ++ requestIds e.outbox

/-- No identifier was drawn twice. -/
def Fresh (drawn : List MessageId) (e : Explorer) : Prop :=
  (e.issued drawn).Nodup

/-- Every PING that is waited for was issued. -/
def Recorded (drawn : List MessageId) (e : Explorer) : Prop :=
  ∀ m r, e.requests.pings.get? m = some r → m ∈ e.issued drawn

/-- The states that runs lead to in which no identifier is drawn twice, with the identifiers
drawn. -/
inductive FreshlyReachable : List MessageId → Explorer → Prop where
  /-- The explorer that has not started. -/
  | create (config : Config) (system : SystemLookup) (random : RandomSource) :
      FreshlyReachable [] (create config system random)
  /-- One more call. -/
  | perform {drawn : List MessageId} {e : Explorer} (bans : Bans) (now : Timestamp) (call : Call)
      (h : FreshlyReachable drawn e)
      (hfresh : (drawn ++ requestIds (e.perform bans now call).sent).Nodup) :
      FreshlyReachable (drawn ++ requestIds (e.perform bans now call).sent)
        (e.perform bans now call).explorer

variable {drawn : List MessageId} {e e' : Explorer} {occasions : List Occasion}

/-! ### Runs that draw no identifier twice -/

theorem FreshlyReachable.reachable (h : FreshlyReachable drawn e) : Reachable e := by
  induction h with
  | create config system random => exact .create config system random
  | perform bans now call _ _ ih => exact ih.perform bans now call

theorem drawnIds_cons (o : Occasion) (occasions : List Occasion) (e : Explorer) :
    drawnIds (o :: occasions) e = requestIds (e.perform o.bans o.now o.call).sent
      ++ drawnIds occasions (e.perform o.bans o.now o.call).explorer := by
  simp [drawnIds, requestIds, run]

theorem drawnIds_append (occasions occasions' : List Occasion) (e : Explorer) :
    drawnIds (occasions ++ occasions') e
      = drawnIds occasions e ++ drawnIds occasions' (run occasions e).1 := by
  induction occasions generalizing e with
  | nil => rfl
  | cons o rest ih =>
    rw [List.cons_append, drawnIds_cons, drawnIds_cons, ih, List.append_assoc]
    rfl

theorem sent_take (i : Nat) : (run (occasions.take i) e).2 = (run occasions e).2.take i := by
  induction occasions generalizing e i with
  | nil => simp [run]
  | cons o rest ih =>
    cases i with
    | zero => rfl
    | succ i => simp [run, ih]

theorem drawnIds_take_succ {i : Nat} (hi : i < occasions.length) :
    drawnIds (occasions.take (i + 1)) e
      = drawnIds (occasions.take i) e ++ requestIds (sentAt occasions e i) := by
  have hids : ∀ occasions, drawnIds occasions e = requestIds (run occasions e).2.flatten :=
    fun _ => rfl
  have hlength : ∀ (occasions : List Occasion) (e : Explorer),
      (run occasions e).2.length = occasions.length := by
    intro occasions
    induction occasions with
    | nil => intro e; rfl
    | cons o rest ih => intro e; simp [run, ih]
  have hlt : i < (run occasions e).2.length := by rw [hlength]; exact hi
  rw [hids, hids, sent_take, sent_take, ← requestIds_append, List.take_succ_eq_append_getElem hlt,
    List.flatten_append, sentAt, List.getElem?_eq_getElem hlt]
  simp

theorem nodup_drawnIds_take (hfresh : (drawnIds occasions e).Nodup) (i : Nat) :
    (drawnIds (occasions.take i) e).Nodup := by
  have hsent : (run occasions e).2.flatten
      = (run (occasions.take i) e).2.flatten ++ ((run occasions e).2.drop i).flatten := by
    rw [sent_take, ← List.flatten_append, List.take_append_drop]
  unfold drawnIds at hfresh ⊢
  rw [hsent] at hfresh
  exact hfresh.sublist (((List.sublist_append_left _ _).filter _).map _)

/-- The states of a run that draws no identifier twice. -/
theorem freshlyReachable_stateAt {config : Config} {system : SystemLookup} {random : RandomSource}
    (hfresh : (drawnIds occasions (create config system random)).Nodup) {i : Nat}
    (hi : i ≤ occasions.length) :
    FreshlyReachable (drawnIds (occasions.take i) (create config system random))
      (stateAt occasions (create config system random) i) := by
  induction i with
  | zero => exact .create config system random
  | succ i ih =>
    have ho : occasions[i]? = some occasions[i] := List.getElem?_eq_getElem hi
    have hnext := nodup_drawnIds_take hfresh (i + 1)
    rw [drawnIds_take_succ hi, sentAt_eq ho] at hnext
    rw [drawnIds_take_succ hi, stateAt_succ ho, sentAt_eq ho]
    exact .perform _ _ _ (ih (Nat.le_of_succ_le hi)) hnext

/-- The last state of a run that draws no identifier twice. -/
theorem freshlyReachable_run {config : Config} {system : SystemLookup} {random : RandomSource}
    (hfresh : (drawnIds occasions (create config system random)).Nodup) :
    FreshlyReachable (drawnIds occasions (create config system random))
      (run occasions (create config system random)).1 := by
  have h := freshlyReachable_stateAt hfresh (Nat.le_refl _)
  rwa [stateAt, List.take_length] at h

/-! ### What is issued -/

/-- Between two calls what was drawn has been issued, and nothing else. -/
theorem FreshlyReachable.issued_eq (h : FreshlyReachable drawn e) : e.issued drawn = drawn := by
  rw [issued, h.reachable.outbox_eq]
  exact List.append_nil drawn

/-- Moves add to what has been issued. -/
theorem issued_of_moves (drawn : List MessageId) (h : e.Moves e') :
    ∃ new, e'.issued drawn = e.issued drawn ++ new := by
  obtain ⟨new, houtbox, -⟩ := outbox_of_moves h
  refine ⟨requestIds new, ?_⟩
  rw [issued, issued, houtbox, requestIds_append, List.append_assoc]

theorem mem_issued_of_moves (h : e.Moves e') {m : MessageId} (hm : m ∈ e.issued drawn) :
    m ∈ e'.issued drawn := by
  obtain ⟨new, hissued⟩ := issued_of_moves drawn h
  rw [hissued]
  exact List.mem_append_left new hm

/-- If none was drawn twice in the end, none was at any move before. -/
theorem Fresh.of_moves (hfresh : e'.Fresh drawn) (h : e.Moves e') : e.Fresh drawn := by
  obtain ⟨new, hissued⟩ := issued_of_moves drawn h
  rw [Fresh, hissued] at hfresh
  exact (List.nodup_append.1 hfresh).1

/-- A request that is queued was not issued before. -/
theorem Fresh.notMem_of_queued (hfresh : e'.Fresh drawn) {d : Datagram}
    (houtbox : e'.outbox = e.outbox ++ [d]) (hrequest : d.message.isRequest = true) :
    d.message.id ∉ e.issued drawn := by
  intro hin
  have hone : requestIds [d] = [d.message.id] := by simp [requestIds, hrequest]
  have hnodup : (e.issued drawn ++ [d.message.id]).Nodup := by
    rw [issued, List.append_assoc, ← hone, ← requestIds_append, ← houtbox]
    exact hfresh
  exact (List.nodup_append.1 hnodup).2.2 _ hin _ (List.mem_singleton.2 rfl) rfl

/-- A PING that is sent was not issued before. -/
theorem Fresh.notMem_issued {a : SocketAddress} (hfree : e.requests.pingTo? a = none)
    {now : Timestamp} {attempt : UInt32} {related : Option Node}
    (hfresh : (e.sendPing now a attempt related).2.Fresh drawn) :
    (e.nextPing now a attempt related).id ∉ e.issued drawn := by
  rw [sendPing_of_free hfree] at hfresh
  exact hfresh.notMem_of_queued rfl rfl

/-- What is waited for between two calls may be taken for all that was drawn before. -/
theorem recorded_keys (e : Explorer) : e.Recorded e.requests.pings.keys := fun _ r hr =>
  List.mem_append_left _ (Dict.mem_keys.2 (Dict.contains_iff.2 ⟨r, hr⟩))

theorem recorded_of_moves (h : e.Moves e') (hrecorded : e.Recorded drawn) :
    e'.Recorded drawn := by
  intro m r hr
  rcases pending_of_moves h hr with ⟨r₀, hr₀, -, -⟩ | ⟨rfl, hkind, hqueued⟩
  · exact mem_issued_of_moves h (hrecorded m r₀ hr₀)
  · refine List.mem_append_right drawn (mem_requestIds hqueued ?_)
    simp [Message.isRequest, hkind]

/-- What is waited for was issued. -/
theorem FreshlyReachable.recorded (h : FreshlyReachable drawn e) : e.Recorded drawn := by
  induction h with
  | create config system random => intro m r hr; cases hr
  | @perform drawn e bans now call h _ ih =>
    obtain ⟨phase, e', accepted, hmoves, hperform⟩ := perform_moves bans now call e
    have hrecorded : e'.Recorded drawn := recorded_of_moves hmoves ih
    rw [hperform]
    intro m r hr
    rw [issued]
    exact List.mem_append_left _ (hrecorded m r hr)

end Explorer
end NodeDiscovery
