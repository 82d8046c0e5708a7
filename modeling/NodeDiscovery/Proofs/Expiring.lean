import Mathlib.Data.List.Sort
import NodeDiscovery.Proofs.Backing

/-!
# Rounds of expiring

A round of expiring takes all expired PINGs out and then deals with them one after the other, in
any order in which none comes after a younger one.  Until it is its turn, the challenge that rested
on such a PING rests on nothing that is under way.  Then it is settled, or it goes over to the PING
that is sent to the same address; and since no two PINGs go to one address it meets no other
challenge there.

## Main results

* `RequestTracker.Orderly.exists_drainPings_eq` — every such order is possible.
* `Explorer.expirePing_cases` — what becomes of a PING that has expired.
* `Explorer.backed_drainPings`, `Explorer.backed_expirePing` — what challenges rest on in the
  course of a round.
* `Explorer.FreshlyReachable.backed` — every challenge rests on a PING between two calls.
* `Explorer.challenges_backed` — what this says of the challenges, and that they can be settled.
-/

namespace NodeDiscovery

/-! ### The order of requests -/

namespace Request

theorem perm_oldestFirst (ties : List MessageId) (requests : List Request) :
    (oldestFirst ties requests).Perm requests :=
  (List.mergeSort_perm _ _).trans (List.mergeSort_perm _ _)

theorem pairwise_oldestFirst (ties : List MessageId) (requests : List Request) :
    (oldestFirst ties requests).Pairwise fun a b => a.createdAt ≤ b.createdAt := by
  have : Std.Total fun a b : Request => a.createdAt ≤ b.createdAt :=
    ⟨fun a b => Nat.le_total a.createdAt.millis b.createdAt.millis⟩
  have : IsTrans Request fun a b => a.createdAt ≤ b.createdAt :=
    ⟨fun _ _ _ => Nat.le_trans⟩
  exact List.pairwise_mergeSort' _ _

/-- Requests of which none comes after a younger one may stay in their order. -/
theorem oldestFirst_of_pairwise {requests : List Request}
    (h : requests.Pairwise fun a b => a.createdAt ≤ b.createdAt) :
    oldestFirst [] requests = requests := by
  have hnamed : requests.Pairwise fun a b : Request =>
      decide (([] : List MessageId).idxOf a.id ≤ ([] : List MessageId).idxOf b.id) = true :=
    List.pairwise_of_forall fun _ _ => rfl
  rw [oldestFirst, List.mergeSort_of_pairwise hnamed]
  exact List.mergeSort_of_pairwise (h.imp fun h => decide_eq_true h)

/-- Requests with different identifiers stand in the order of the list of their identifiers. -/
theorem pairwise_idxOf {requests : List Request} (hids : (requests.map id).Nodup) :
    requests.Pairwise fun a b =>
      (requests.map id).idxOf a.id ≤ (requests.map id).idxOf b.id := by
  have hidx : ∀ (i : Nat) (hi : i < requests.length),
      (requests.map id).idxOf requests[i].id = i := by
    intro i hi
    have hget := hids.idxOf_getElem i (by rwa [List.length_map])
    rwa [List.getElem_map] at hget
  rw [List.pairwise_iff_getElem]
  intro i j hi hj hij
  rw [hidx i hi, hidx j hj]
  exact Nat.le_of_lt hij

/-- Requests with different identifiers may come in every order in which none comes after a younger
one. -/
theorem exists_oldestFirst_eq {requests inOrder : List Request} (hperm : inOrder.Perm requests)
    (hids : (requests.map id).Nodup)
    (holdest : inOrder.Pairwise fun a b => a.createdAt ≤ b.createdAt) :
    ∃ ties, oldestFirst ties requests = inOrder := by
  refine ⟨inOrder.map id, ?_⟩
  have hids' : (inOrder.map id).Nodup := (hperm.map id).nodup_iff.2 hids
  let before : Request → Request → Bool := fun a b =>
    decide ((inOrder.map id).idxOf a.id ≤ (inOrder.map id).idxOf b.id)
  have htrans : ∀ a b c, before a b = true → before b c = true → before a c = true :=
    fun a b c hab hbc =>
      decide_eq_true (Nat.le_trans (of_decide_eq_true hab) (of_decide_eq_true hbc))
  have htotal : ∀ a b, (before a b || before b a) = true := by
    intro a b
    simpa [before] using Nat.le_total _ _
  have hnamed : requests.mergeSort before = inOrder := by
    have hsorted := List.pairwise_mergeSort htrans htotal requests
    refine List.Perm.eq_of_pairwise ?_ hsorted
      ((pairwise_idxOf hids').imp fun h => decide_eq_true h)
      ((List.mergeSort_perm _ _).trans hperm.symm)
    intro a b ha hb hab hba
    have ha' : a ∈ inOrder := hperm.mem_iff.2 ((List.mergeSort_perm _ _).mem_iff.1 ha)
    have hindex := Nat.le_antisymm (of_decide_eq_true hab) (of_decide_eq_true hba)
    have hid : a.id = b.id := (List.idxOf_inj (List.mem_map_of_mem ha')).1 hindex
    exact List.inj_on_of_nodup_map hids' ha' hb hid
  rw [oldestFirst, hnamed]
  exact List.mergeSort_of_pairwise (holdest.imp fun h => decide_eq_true h)

end Request

/-! ### What is taken out -/

namespace RequestTracker

variable {t : RequestTracker} {ties : List MessageId}

/-- The PINGs that are taken out are those that have expired. -/
theorem Orderly.mem_expired (h : t.Orderly) {now : Timestamp} {r : Request} :
    r ∈ (t.drainPings now ties).1 ↔ t.pings.get? r.id = some r ∧ r.hasExpired now = true := by
  show r ∈ Request.oldestFirst _ _ ↔ _
  rw [(Request.perm_oldestFirst _ _).mem_iff, List.mem_filter, Dict.mem_values]
  refine and_congr_left fun _ => ⟨?_, fun hr => ⟨r.id, hr⟩⟩
  rintro ⟨m, hm⟩
  rw [h.keyed m r hm, hm]

/-- The others stay under way. -/
theorem get?_drainPings (now : Timestamp) (ties : List MessageId) (t : RequestTracker)
    (m : MessageId) :
    (t.drainPings now ties).2.pings.get? m = (t.pings.get? m).filter fun r => !r.hasExpired now :=
  Dict.get?_filter _ t.pings m

/-- What no two PINGs under way share no two of those that are taken out share. -/
theorem nodup_expired {α : Type} (f : Request → α) (now : Timestamp) (ties : List MessageId)
    (hf : ∀ m m' r r', t.pings.get? m = some r → t.pings.get? m' = some r' → f r = f r' →
      m = m') : ((t.drainPings now ties).1.map f).Nodup := by
  have hentries : (t.pings.entries.map fun entry => f entry.2).Nodup := by
    refine List.Nodup.map_on ?_ (List.Nodup.of_map _ t.pings.nodup_keys)
    rintro ⟨m, r⟩ hr ⟨m', r'⟩ hr' hsame
    have hr := Dict.mem_entries.1 hr
    have hr' := Dict.mem_entries.1 hr'
    obtain rfl := hf m m' r r' hr hr' hsame
    rw [Option.some.inj (hr.symm.trans hr')]
  have hvalues : (t.pings.values.map f).Nodup := by
    rw [Dict.values, List.map_map]
    exact hentries
  show (List.map f (Request.oldestFirst _ _)).Nodup
  have hperm := (Request.perm_oldestFirst ties (t.pings.values.filter (·.hasExpired now))).map f
  exact hperm.nodup_iff.2 (hvalues.sublist (List.filter_sublist.map f))

/-- Expired PINGs are taken out in whatever order in which none comes after a younger one. -/
theorem Orderly.exists_drainPings_eq (h : t.Orderly) {now : Timestamp} {inOrder : List Request}
    (hperm : inOrder.Perm (t.pings.values.filter (·.hasExpired now)))
    (holdest : inOrder.Pairwise fun a b => a.createdAt ≤ b.createdAt) :
    ∃ ties, (t.drainPings now ties).1 = inOrder := by
  have hids : ((t.drainPings now []).1.map Request.id).Nodup :=
    nodup_expired Request.id now [] fun m m' r r' hr hr' hid => by
      rw [← h.keyed m r hr, ← h.keyed m' r' hr', hid]
  refine Request.exists_oldestFirst_eq hperm ?_ holdest
  exact ((Request.perm_oldestFirst [] _).map Request.id).nodup_iff.1 hids

end RequestTracker

namespace Explorer

variable {drawn ties : List MessageId} {x : List Request} {e e' : Explorer} {now : Timestamp}

/-! ### PINGs that have expired -/

theorem orderly_drainPings (horderly : e.requests.Orderly) (now : Timestamp)
    (ties : List MessageId) :
    (e.requests.drainPings now ties).2.Orderly := by
  refine horderly.of_subset fun m r hr => ⟨r, ?_, rfl, rfl, rfl⟩
  exact (Dict.get?_filter_eq_some.1 hr).1

/-- When the expired PINGs have been taken out, the challenges that rested on them are backed by
what was taken out. -/
theorem backed_drainPings (h : e.Backed drawn []) (horderly : e.requests.Orderly)
    (now : Timestamp) (ties : List MessageId) :
    Backed drawn (e.requests.drainPings now ties).1
      { e with requests := (e.requests.drainPings now ties).2 } := by
  have hpings : ∀ m r, (e.requests.drainPings now ties).2.pings.get? m = some r ↔
      e.requests.pings.get? m = some r ∧ r.hasExpired now = false := by
    intro m r
    rw [RequestTracker.get?_drainPings, Option.filter_eq_some_iff, Bool.not_eq_true']
  have hexpired := fun r => @RequestTracker.Orderly.mem_expired _ ties horderly now r
  refine ⟨?_, ?_, h.alone, h.rivals, ?_, ?_, ?_, ?_, ?_⟩
  · intro m r hr
    exact h.recorded m r ((hpings m r).1 hr).1
  · intro m c hc
    obtain ⟨r, hr | ⟨hr, -⟩, hrelated⟩ := h.backed m c hc
    · refine ⟨r, ?_, hrelated⟩
      have hid : r.id = m := horderly.keyed m r hr
      cases hr' : r.hasExpired now with
      | true => exact .inr ⟨(hexpired r).2 ⟨hid.symm ▸ hr, hr'⟩, hid⟩
      | false => exact .inl ((hpings m r).2 ⟨hr, hr'⟩)
    · cases hr
  · intro m c r _ hr r' hr' haddress
    obtain ⟨hr, hwaits⟩ := (hpings m r).1 hr
    obtain ⟨hr', hover⟩ := (hexpired r').1 hr'
    rw [horderly.eq_of_address hr hr' haddress, hover] at hwaits
    cases hwaits
  · intro r hr
    exact h.recorded r.id r ((hexpired r).1 hr).1
  · intro r hr
    obtain ⟨hr, hover⟩ := (hexpired r).1 hr
    show (e.requests.drainPings now ties).2.pings.get? r.id = none
    rw [RequestTracker.get?_drainPings, hr]
    simp [hover]
  · refine RequestTracker.nodup_expired _ now ties fun m m' r r' hr hr' hid => ?_
    rw [← horderly.keyed m r hr, ← horderly.keyed m' r' hr', hid]
  · exact RequestTracker.nodup_expired _ now ties horderly.alone

/-- A PING that no challenge rests on need not be dealt with. -/
theorem Backed.tail {r : Request} (h : e.Backed drawn (r :: x))
    (hfree : e.challenges.get? r.id = none) : e.Backed drawn x where
  recorded := h.recorded
  backed := by
    intro m c hc
    obtain ⟨r', hr' | ⟨hr', rfl⟩, hrelated⟩ := h.backed m c hc
    · exact ⟨r', .inl hr', hrelated⟩
    · rcases List.mem_cons.1 hr' with rfl | hr'
      · rw [hfree] at hc
        cases hc
      · exact ⟨r', .inr ⟨hr', rfl⟩, hrelated⟩
  alone := h.alone
  rivals := h.rivals
  apart := fun m c r hc hr r' hr' => h.apart m c r hc hr r' (List.mem_cons_of_mem _ hr')
  issued := fun r hr => h.issued r (List.mem_cons_of_mem _ hr)
  gone := fun r hr => h.gone r (List.mem_cons_of_mem _ hr)
  ids := (List.nodup_cons.1 h.ids).2
  addresses := (List.nodup_cons.1 h.addresses).2

/-- What becomes of a PING that has expired: it is sent again, perhaps for its challenge, or its
node is given up. -/
theorem expirePing_cases (now : Timestamp) (r : Request) (e : Explorer) :
    (r.attempt < e.config.maxPingAttempts ∧ e.challenges.get? r.id = none ∧ e.expirePing now r
      = ((e.withoutChallenge r.id).sendPing now r.address (r.attempt + 1) r.related).2) ∨
    (∃ c, r.attempt < e.config.maxPingAttempts ∧ e.challenges.get? r.id = some c ∧
      e.expirePing now r = (e.withoutChallenge r.id).pursue now r.address (r.attempt + 1) c) ∨
    (e.config.maxPingAttempts ≤ r.attempt ∧ e.expirePing now r
      = ((e.withoutChallenge r.id).giveUp r).recheckChallenger now (e.challenges.get? r.id)) := by
  unfold expirePing
  dsimp only
  split
  · next hattempt =>
    cases hc : e.challenges.get? r.id with
    | none => exact .inl ⟨hattempt, rfl, rfl⟩
    | some c => exact .inr (.inl ⟨c, hattempt, rfl, rfl⟩)
  · next hattempt => exact .inr (.inr ⟨UInt32.not_lt.1 hattempt, rfl⟩)

/-- A PING that has expired is sent again for the challenge that rests on it, unless it is the
last. -/
theorem expirePing_of_challenge {r : Request} {c : Challenge} (now : Timestamp)
    (hattempt : r.attempt < e.config.maxPingAttempts) (hc : e.challenges.get? r.id = some c) :
    e.expirePing now r = (e.withoutChallenge r.id).pursue now r.address (r.attempt + 1) c := by
  rcases expirePing_cases now r e with ⟨-, hnone, -⟩ | ⟨c', -, hc', hretry⟩ | ⟨hlast, -⟩
  · rw [hnone] at hc
    cases hc
  · rw [hretry, Option.some.inj (hc'.symm.trans hc)]
  · exact absurd hattempt (UInt32.not_lt.2 hlast)

theorem backed_giveUp (h : e.Backed drawn x) (r : Request) : (e.giveUp r).Backed drawn x := by
  unfold giveUp
  split
  · exact h.of_moves (moves_forget _ e) rfl fun _ _ => rfl
  · exact h

/-- A challenger that has an address is sent a PING there. -/
theorem recheckChallenger_cases (now : Timestamp) (c : Option Challenge) (e : Explorer) :
    e.recheckChallenger now c = e ∨
    ∃ endpoint a cache, e.addresses.resolve endpoint = (.ok a, cache) ∧
      e.recheckChallenger now c = ({ e with addresses := cache }.sendPing now a 1 none).2 := by
  unfold recheckChallenger
  split
  · exact .inl rfl
  · split
    · next a cache hresolve => exact .inr ⟨_, a, cache, hresolve, rfl⟩
    · next hresolve => exact .inl (eq_of_unresolved hresolve)

theorem backed_recheckChallenger (h : e.Backed drawn x) {c : Option Challenge}
    (hfresh : (e.recheckChallenger now c).Fresh drawn) :
    (e.recheckChallenger now c).Backed drawn x := by
  rcases recheckChallenger_cases now c e with hnone | ⟨endpoint, a, cache, -, hsent⟩
  · rw [hnone]
    exact h
  · rw [hsent] at hfresh ⊢
    have h₁ : Backed drawn x { e with addresses := cache } :=
      h.of_moves (moves_addresses cache e) rfl fun _ _ => rfl
    exact backed_sendPing h₁ hfresh

/-- The challenge that rested on an expired PING is settled or rests on another one. -/
theorem backed_expirePing {r : Request} (h : e.Backed drawn (r :: x))
    (horderly : e.requests.Orderly) (hfresh : (e.expirePing now r).Fresh drawn) :
    (e.expirePing now r).Backed drawn x := by
  have hfree : (e.withoutChallenge r.id).challenges.get? r.id = none :=
    (Dict.get?_erase _ r.id r.id).trans (if_pos rfl)
  have h₁ : (e.withoutChallenge r.id).Backed drawn x := (backed_withoutChallenge h r.id).tail hfree
  rcases expirePing_cases now r e with ⟨-, -, hretry⟩ | ⟨c, -, hc, hretry⟩ | ⟨-, hlast⟩
  · rw [hretry] at hfresh ⊢
    exact backed_sendPing h₁ hfresh
  · rw [hretry] at hfresh ⊢
    refine backed_pursue h₁ horderly hfresh ?_ (h.rivals r.id c hc) ?_
    · intro m c' hc' hid
      obtain ⟨hm, hc'⟩ := get?_withoutChallenge.1 hc'
      exact hm (h.alone m r.id c' c hc' hc hid)
    · intro r' hr' haddress
      refine (List.nodup_cons.1 h.addresses).1 ?_
      rw [haddress]
      exact List.mem_map_of_mem hr'
  · rw [hlast] at hfresh ⊢
    exact backed_recheckChallenger (backed_giveUp h₁ r) hfresh

/-- A list of expired PINGs that draws no identifier twice does not do so with its first one. -/
theorem Fresh.first_turn {r : Request} (hfresh : (e.expirePings now (r :: x)).Fresh drawn) :
    (e.expirePing now r).Fresh drawn :=
  hfresh.of_moves (moves_expirePings now x (e.expirePing now r))

/-- When all expired PINGs have been dealt with, every challenge rests on a PING under way. -/
theorem backed_expirePings (h : e.Backed drawn x) (horderly : e.requests.Orderly)
    (hfresh : (e.expirePings now x).Fresh drawn) : (e.expirePings now x).Backed drawn [] := by
  induction x generalizing e with
  | nil => exact h
  | cons r x ih =>
    have hone : (e.expirePing now r).Fresh drawn := hfresh.first_turn
    exact ih (backed_expirePing h horderly hone)
      (orderly_of_moves (moves_expirePing now r e) horderly) hfresh

theorem backed_purge (h : e.Backed drawn []) (horderly : e.requests.Orderly)
    (hfresh : (e.purge now ties).Fresh drawn) : (e.purge now ties).Backed drawn [] := by
  have h₁ := backed_expirePings (backed_drainPings h horderly now ties)
    (orderly_drainPings horderly now ties) hfresh
  refine ⟨h₁.recorded, ?_, h₁.alone, h₁.rivals, ?_, ?_, ?_, h₁.ids, h₁.addresses⟩
  · exact h₁.backed
  · simp
  · simp
  · simp

/-! ### Calls -/

/-- What has been queued is drawn when a call ends. -/
theorem Backed.finish (h : e.Backed drawn []) :
    Backed (drawn ++ requestIds e.outbox) [] { e with outbox := [] } where
  recorded := fun m r hr => List.mem_append_left _ (h.recorded m r hr)
  backed := h.backed
  alone := h.alone
  rivals := h.rivals
  apart := by simp
  issued := by simp
  gone := by simp
  ids := h.ids
  addresses := h.addresses

/-- Expired PINGs of which none comes after a younger one may be dealt with in their order. -/
theorem purge_of_pairwise
    (h : (e.requests.pings.values.filter (·.hasExpired now)).Pairwise
      fun a b => a.createdAt ≤ b.createdAt) :
    e.purge now [] =
      let batch := e.requests.pings.values.filter (·.hasExpired now)
      let pings := e.requests.pings.filter fun _ r => !r.hasExpired now
      let e' := expirePings now batch { e with requests := { e.requests with pings } }
      let finds := e'.requests.finds.filter fun _ r => !r.hasExpired now
      { e' with requests := { e'.requests with finds } } := by
  have hbatch : (e.requests.drainPings now []).1
      = e.requests.pings.values.filter (·.hasExpired now) := Request.oldestFirst_of_pairwise h
  simp only [purge, hbatch]
  rfl

/-- A running explorer asks and checks its peers. -/
theorem perform_update (hrun : e.phase = .running) (bans : Bans) (now : Timestamp) :
    e.perform bans now .update = (e.explore now).finish true :=
  if_pos hrun

/-- A running explorer expires the requests that wait for too long. -/
theorem perform_clean (hrun : e.phase = .running) (bans : Bans) (now : Timestamp)
    (ties : List MessageId) :
    e.perform bans now (.clean ties) = (e.purge now ties).finish true := by
  show e.whenRunning _ = _
  rw [whenRunning, if_pos hrun]

theorem perform_clean_of_not_running (hrun : e.phase ≠ .running) (bans : Bans) (now : Timestamp)
    (ties : List MessageId) :
    e.perform bans now (.clean ties) = e.finish false := by
  show e.whenRunning _ = _
  rw [whenRunning, if_neg hrun]

/-- A call is a round of expiring or a sequence of deeds. -/
theorem perform_cases (bans : Bans) (now : Timestamp) (call : Call) (e : Explorer) :
    (∃ ties, call = .clean ties ∧ e.phase = .running ∧
      e.perform bans now call = (e.purge now ties).finish true) ∨
    ∃ phase e' accepted, e.perform bans now call = e'.finish accepted ∧
      Deeds now (fun n => e'.established.get? n.id = some n) { e with phase } e' := by
  by_cases hcall : ∃ ties, call = .clean ties
  · obtain ⟨ties, rfl⟩ := hcall
    by_cases hrun : e.phase = .running
    · exact .inl ⟨ties, rfl, hrun, perform_clean hrun bans now ties⟩
    · exact .inr ⟨e.phase, e, false, perform_clean_of_not_running hrun bans now ties, .refl⟩
  · exact .inr (perform_deeds bans now (not_exists.1 hcall) e)

theorem backed_perform (h : e.Backed drawn []) (hcoherent : e.registry.Coherent)
    (horderly : e.requests.Orderly) (bans : Bans) (now : Timestamp) (call : Call)
    (hfresh : (drawn ++ requestIds (e.perform bans now call).sent).Nodup) :
    Backed (drawn ++ requestIds (e.perform bans now call).sent) []
      (e.perform bans now call).explorer := by
  rcases perform_cases bans now call e with
    ⟨ties, -, -, hround⟩ | ⟨phase, e', accepted, hperform, hdeeds⟩
  · rw [hround] at hfresh ⊢
    exact (backed_purge h horderly hfresh).finish
  · rw [hperform] at hfresh ⊢
    have h₁ : Backed drawn [] { e with phase } :=
      ⟨h.recorded, h.backed, h.alone, h.rivals, h.apart, h.issued, h.gone, h.ids, h.addresses⟩
    exact (backed_of_deeds hdeeds hfresh hcoherent horderly h₁).finish

/-- Every challenge rests on a PING between two calls. -/
theorem FreshlyReachable.backed (h : FreshlyReachable drawn e) : e.Backed drawn [] := by
  induction h with
  | create config system random =>
    refine ⟨?_, ?_, ?_, ?_, ?_, ?_, ?_, List.nodup_nil, List.nodup_nil⟩
    · intro m r hr; cases hr
    · intro m c hc; cases hc
    · intro m m' c c' hc; cases hc
    · intro m c hc; cases hc
    · intro m c r hc; cases hc
    · intro r hr; cases hr
    · intro r hr; cases hr
  | perform bans now call h hfresh ih =>
    exact backed_perform ih h.reachable.coherent h.reachable.orderly bans now call hfresh

/-! ### What a round does to the challenges -/

@[simp] theorem challenges_giveUp (r : Request) (e : Explorer) :
    (e.giveUp r).challenges = e.challenges := by
  unfold giveUp
  split <;> rfl

@[simp] theorem challenges_recheckChallenger (now : Timestamp) (c : Option Challenge)
    (e : Explorer) : (e.recheckChallenger now c).challenges = e.challenges := by
  unfold recheckChallenger
  split
  · rfl
  · split
    · rw [challenges_sendPing]
    · rfl

/-- A challenge that is active when an expired PING has been dealt with was active before, and if
it rested on this PING, the PING was not the last. -/
theorem challenge_of_expirePing {r : Request} {k : MessageId} {c : Challenge}
    (hc : (e.expirePing now r).challenges.get? k = some c) :
    (k ≠ r.id ∧ e.challenges.get? k = some c) ∨
      (r.attempt < e.config.maxPingAttempts ∧ e.challenges.get? r.id = some c) := by
  rcases expirePing_cases now r e with ⟨-, -, h⟩ | ⟨c', hattempt, hr, h⟩ | ⟨-, h⟩
  · rw [h, challenges_sendPing] at hc
    exact .inl (get?_withoutChallenge.1 hc)
  · rw [h, challenges_pursue] at hc
    split at hc
    · cases hc
      exact .inr ⟨hattempt, hr⟩
    · exact .inl (get?_withoutChallenge.1 hc)
  · rw [h, challenges_recheckChallenger, challenges_giveUp] at hc
    exact .inl (get?_withoutChallenge.1 hc)

theorem config_expirePing (now : Timestamp) (r : Request) (e : Explorer) :
    (e.expirePing now r).config = e.config :=
  config_of_moves (moves_expirePing now r e)

/-- A challenge that is active after a round was active before, and it did not rest on a PING that
has expired for the last time. -/
theorem challenge_of_expirePings {k : MessageId} {c : Challenge}
    (hc : (e.expirePings now x).challenges.get? k = some c) :
    ∃ m, e.challenges.get? m = some c ∧
      (m ∉ x.map Request.id ∨ ∃ r ∈ x, r.id = m ∧ r.attempt < e.config.maxPingAttempts) := by
  induction x generalizing e with
  | nil => exact ⟨k, hc, .inl List.not_mem_nil⟩
  | cons r x ih =>
    obtain ⟨m, hm, hx⟩ := ih (e := e.expirePing now r) hc
    rw [config_expirePing] at hx
    rcases challenge_of_expirePing hm with ⟨hne, hm⟩ | ⟨hattempt, hm⟩
    · refine ⟨m, hm, hx.imp (fun hx => ?_) ?_⟩
      · rw [List.map_cons, List.mem_cons, not_or]
        exact ⟨hne, hx⟩
      · rintro ⟨r', hr', hid, hattempt⟩
        exact ⟨r', List.mem_cons_of_mem _ hr', hid, hattempt⟩
    · exact ⟨r.id, hm, .inr ⟨r, List.mem_cons_self, rfl, hattempt⟩⟩

theorem challenge_of_purge (horderly : e.requests.Orderly) {k : MessageId} {c : Challenge}
    (hc : (e.purge now ties).challenges.get? k = some c) :
    ∃ m, e.challenges.get? m = some c ∧
      ∀ r, e.requests.pings.get? m = some r → r.hasExpired now = true →
        r.attempt < e.config.maxPingAttempts := by
  obtain ⟨m, hm, hx⟩ := challenge_of_expirePings
    (e := { e with requests := (e.requests.drainPings now ties).2 }) hc
  refine ⟨m, hm, fun r hr hover => ?_⟩
  have hid : r.id = m := horderly.keyed m r hr
  have hin : r ∈ (e.requests.drainPings now ties).1 := horderly.mem_expired.2 ⟨hid.symm ▸ hr, hover⟩
  rcases hx with hx | ⟨r', hr', hid', hattempt⟩
  · exact absurd (hid ▸ List.mem_map_of_mem hin) hx
  · have hr' := (horderly.mem_expired.1 hr').1
    rw [hid', hr] at hr'
    rw [Option.some.inj hr']
    exact hattempt

/-- A challenge that rests on a PING that need not be dealt with stays when the incumbent of
another one is sent a PING in place of one that has expired. -/
theorem challenge_kept_by_pursue (h : e.Backed drawn x) (horderly : e.requests.Orderly)
    {r : Request} (hr : r ∈ x) {attempt : UInt32} {c c' : Challenge}
    (hfresh : (e.pursue now r.address attempt c).Fresh drawn) {k : MessageId}
    (hc' : e.challenges.get? k = some c') :
    (e.pursue now r.address attempt c).challenges.get? k = some c' := by
  have hsent : (e.sendPing now r.address attempt (some c.incumbent)).2.Fresh drawn := hfresh
  rw [challenges_pursue]
  split
  · next hk =>
    -- A PING under way to the address on which a challenge rests contradicts that they are apart.
    obtain ⟨p, hp, haddress⟩ :=
      (sendPing_fst_eq_iff horderly hsent (h.mem_issued hc')).1 hk.symm
    exact absurd haddress (h.apart k c' p hc' hp r hr)
  · exact hc'

theorem challenge_kept_by_expirePing {r : Request} (h : e.Backed drawn (r :: x))
    (horderly : e.requests.Orderly) (hfresh : (e.expirePing now r).Fresh drawn) {k : MessageId}
    (hk : k ≠ r.id) {c : Challenge} (hc : e.challenges.get? k = some c) :
    (e.expirePing now r).challenges.get? k = some c := by
  have hother : (e.withoutChallenge r.id).challenges.get? k = some c :=
    get?_withoutChallenge.2 ⟨hk, hc⟩
  rcases expirePing_cases now r e with ⟨-, -, hretry⟩ | ⟨c', -, -, hretry⟩ | ⟨-, hlast⟩
  · rw [hretry, challenges_sendPing]
    exact hother
  · rw [hretry] at hfresh ⊢
    exact challenge_kept_by_pursue (backed_withoutChallenge h r.id) horderly List.mem_cons_self
      hfresh hother
  · rw [hlast, challenges_recheckChallenger, challenges_giveUp]
    exact hother

/-- A challenge that rested on an expired PING which is not the last one rests on a PING under way
afterwards. -/
theorem challenge_moved_by_expirePing {r : Request} (h : e.Backed drawn (r :: x))
    (horderly : e.requests.Orderly) (hfresh : (e.expirePing now r).Fresh drawn)
    (hattempt : r.attempt < e.config.maxPingAttempts) {c : Challenge}
    (hc : e.challenges.get? r.id = some c) :
    ∃ k, k ∉ x.map Request.id ∧ (e.expirePing now r).challenges.get? k = some c := by
  have hafter := backed_expirePing h horderly hfresh
  obtain ⟨k, p, hk, hp⟩ := exists_pursue (e := e.withoutChallenge r.id) horderly now r.address
    (r.attempt + 1) c
  rw [← expirePing_of_challenge now hattempt hc] at hk hp
  refine ⟨k, ?_, hk⟩
  intro hin
  obtain ⟨r', hr', rfl⟩ := List.mem_map.1 hin
  rw [hafter.gone r' hr'] at hp
  cases hp

/-- Unless it rests on a PING that has expired for the last time, a challenge is still active after
a round; and unless its PING has expired at all, it rests on this PING still. -/
theorem challenge_kept_by_expirePings (h : e.Backed drawn x) (horderly : e.requests.Orderly)
    (hfresh : (e.expirePings now x).Fresh drawn) {m : MessageId} {c : Challenge}
    (hc : e.challenges.get? m = some c)
    (hattempt : ∀ r ∈ x, r.id = m → r.attempt < e.config.maxPingAttempts) :
    ∃ k, (e.expirePings now x).challenges.get? k = some c ∧ (m ∉ x.map Request.id → k = m) := by
  induction x generalizing e m with
  | nil => exact ⟨m, hc, fun _ => rfl⟩
  | cons r x ih =>
    have hone : (e.expirePing now r).Fresh drawn := hfresh.first_turn
    have hlater := @ih (e.expirePing now r) (backed_expirePing h horderly hone)
      (orderly_of_moves (moves_expirePing now r e) horderly) hfresh
    simp only [config_expirePing] at hlater
    by_cases hm : m = r.id
    · subst hm
      obtain ⟨k, hk, hcarried⟩ := challenge_moved_by_expirePing h horderly hone
        (hattempt r List.mem_cons_self rfl) hc
      obtain ⟨k', hk', -⟩ := hlater hcarried fun r' hr' hid =>
        absurd (hid ▸ List.mem_map_of_mem hr') hk
      refine ⟨k', hk', fun hnot => absurd ?_ hnot⟩
      exact List.mem_map_of_mem List.mem_cons_self
    · obtain ⟨k, hk, hsame⟩ := hlater (challenge_kept_by_expirePing h horderly hone hm hc)
        fun r' hr' => hattempt r' (List.mem_cons_of_mem _ hr')
      refine ⟨k, hk, fun hnot => hsame fun hin => hnot ?_⟩
      rw [List.map_cons]
      exact List.mem_cons_of_mem _ hin

theorem challenge_kept_by_purge (h : e.Backed drawn []) (horderly : e.requests.Orderly)
    (hfresh : (e.purge now ties).Fresh drawn) {m : MessageId} {c : Challenge} {r : Request}
    (hc : e.challenges.get? m = some c) (hr : e.requests.pings.get? m = some r)
    (hattempt : r.hasExpired now = true → r.attempt < e.config.maxPingAttempts) :
    ∃ k, (e.purge now ties).challenges.get? k = some c ∧ (r.hasExpired now = false → k = m) := by
  have hexpired : ∀ r' ∈ (e.requests.drainPings now ties).1, r'.id = m →
      r' = r ∧ r.hasExpired now = true := by
    intro r' hr' hid
    obtain ⟨hget, hover⟩ := horderly.mem_expired.1 hr'
    rw [hid, hr] at hget
    obtain rfl := Option.some.inj hget
    exact ⟨rfl, hover⟩
  obtain ⟨k, hk, hsame⟩ := challenge_kept_by_expirePings (backed_drainPings h horderly now ties)
    (orderly_drainPings horderly now ties) hfresh hc fun r' hr' hid => by
      obtain ⟨rfl, hover⟩ := hexpired r' hr' hid
      exact hattempt hover
  refine ⟨k, hk, fun hwaits => hsame fun hin => ?_⟩
  obtain ⟨r', hr', hid⟩ := List.mem_map.1 hin
  rw [(hexpired r' hr' hid).2] at hwaits
  cases hwaits

/-! ### Settling challenges -/

/-- The PONG of its incumbent, from where the PING went, defends against a challenge. -/
theorem defends_of_related (horderly : e.requests.Orderly)
    (hrun : e.phase = .running) {m : MessageId} {c : Challenge} {r : Request}
    (hc : e.challenges.get? m = some c) (hr : e.requests.pings.get? m = some r)
    (hrelated : r.related = some c.incumbent) {d : Datagram} (hid : d.message.id = m)
    (hsender : d.message.sender = c.incumbent.id) (hbody : d.message.body = .pong)
    (haddress : d.address = r.address) (hnative : e.isForeign d.message = false) :
    e.Defends d c := by
  subst hid
  have haccepts : r.accepts d.address d.message = true := by
    have hkind : d.message.kind = r.expects := by
      rw [Message.kind, hbody, (horderly.asks _ r hr).2]
    have hsame : r.id = d.message.id := horderly.keyed _ r hr
    simp [Request.accepts, Request.mayAnswer, hkind, hsame, haddress, hrelated, hsender]
  exact ⟨⟨r, hrun, hnative, hbody, hr, haccepts⟩, hc⟩

/-- When the incumbent has defended itself it is challenged no longer. -/
theorem Backed.isChallenged_of_defends (h : e.Backed drawn []) {d : Datagram} {c : Challenge}
    (hd : e.Defends d c) (bans : Bans) (now : Timestamp) :
    Challenges.isChallenged c.incumbent.id
      (e.perform bans now (.receive d)).explorer.challenges = false := by
  rw [Challenges.isChallenged_eq_false_iff]
  intro k c' hc' hid
  rw [hd.perform_eq] at hc'
  obtain ⟨hk, hc'⟩ := Dict.get?_erase_eq_some.1 hc'
  exact hk (h.alone k d.message.id c' c hc' hd.2 hid)

/-- When its PING has expired for the last time the incumbent is challenged no longer. -/
theorem Backed.isChallenged_of_expired (h : e.Backed drawn []) (horderly : e.requests.Orderly)
    (hrun : e.phase = .running) {m : MessageId} {c : Challenge} {r : Request}
    (hc : e.challenges.get? m = some c) (hr : e.requests.pings.get? m = some r)
    (hexpired : r.hasExpired now = true) (hlast : e.config.maxPingAttempts ≤ r.attempt)
    (bans : Bans) :
    Challenges.isChallenged c.incumbent.id (e.perform bans now (.clean ties)).explorer.challenges
      = false := by
  rw [Challenges.isChallenged_eq_false_iff, perform_clean hrun]
  intro k c' hc' hid
  obtain ⟨m', hm', hattempt⟩ := challenge_of_purge horderly hc'
  obtain rfl := h.alone m' m c' c hm' hc hid
  exact absurd (hattempt r hr hexpired) (UInt32.not_lt.2 hlast)

/-- **Every challenge rests on a PING that is under way.**  In every state that a run leads to in
which no identifier is drawn twice, a challenge is known by the identifier of a PING that is waited
for and bound to its incumbent; no peer is the incumbent of two challenges; and its nodes are two
peers of the same bucket.  So every challenge can be settled: by the PONG of its incumbent from
where the PING went, and by the PING expiring for the last time. -/
theorem challenges_backed (config : Config) (system : SystemLookup) (random : RandomSource)
    (occasions : List Occasion)
    (hfresh : (drawnIds occasions (create config system random)).Nodup) :
    let e := (run occasions (create config system random)).1
    (∀ m c, e.challenges.get? m = some c → c.Rivals config.localId ∧
      ∃ r, e.requests.pings.get? m = some r ∧ r.message.kind = .ping ∧ r.message.id = m ∧
        r.related = some c.incumbent ∧
        (e.phase = .running →
          (∀ bans now d, d.message.id = m → d.message.sender = c.incumbent.id →
            d.message.body = .pong → d.address = r.address → e.isForeign d.message = false →
            e.Defends d c ∧ Challenges.isChallenged c.incumbent.id
              (e.perform bans now (.receive d)).explorer.challenges = false) ∧
          ∀ bans now ties, r.hasExpired now = true → e.config.maxPingAttempts ≤ r.attempt →
            Challenges.isChallenged c.incumbent.id
              (e.perform bans now (.clean ties)).explorer.challenges = false)) ∧
    ∀ m m' c c', e.challenges.get? m = some c → e.challenges.get? m' = some c' →
      c.incumbent.id = c'.incumbent.id → m = m' := by
  intro e
  have hreachable := freshlyReachable_run hfresh
  have h : e.Backed _ [] := hreachable.backed
  have horderly : e.requests.Orderly := hreachable.reachable.orderly
  have hlocal : e.localId = config.localId :=
    congrArg Config.localId (config_run occasions (create config system random))
  refine ⟨?_, h.alone⟩
  intro m c hc
  refine ⟨hlocal ▸ h.rivals m c hc, ?_⟩
  obtain ⟨r, hr | ⟨hr, -⟩, hrelated⟩ := h.backed m c hc
  · refine ⟨r, hr, (horderly.asks m r hr).1, horderly.keyed m r hr, hrelated, fun hrun => ⟨?_, ?_⟩⟩
    · intro bans now d hid hsender hbody haddress hnative
      have hd := defends_of_related horderly hrun hc hr hrelated hid hsender hbody haddress hnative
      exact ⟨hd, h.isChallenged_of_defends hd bans now⟩
    · intro bans now ties hexpired hlast
      exact h.isChallenged_of_expired horderly hrun hc hr hexpired hlast bans
  · cases hr

open Sample in
/-- The incumbent of a full bucket is challenged, and answers. -/
theorem challenge_backed_and_settled :
    let occasions := [starts, pinged 0x80 1, ponged 0x80 1 (messageId 0 0),
      pinged 0x81 2, ponged 0x81 2 (messageId 0 1)]
    let e := (run occasions (explorer 0 3)).1
    let c : Challenge := ⟨⟨nodeId 0x80, .ofAddress (address 1)⟩,
      ⟨nodeId 0x81, .ofAddress (address 2)⟩, .ofMillis 0⟩
    (drawnIds occasions (explorer 0 3)).Nodup ∧
    e.challenges.get? (messageId 0 2) = some c ∧ c.Rivals (nodeId 0) ∧
    (∃ r, e.requests.pings.get? (messageId 0 2) = some r ∧ r.related = some c.incumbent) ∧
    Challenges.isChallenged (nodeId 0x80)
      (run [ponged 0x80 1 (messageId 0 2)] e).1.challenges = false := by
  intro occasions e c
  have hfresh : (drawnIds occasions (explorer 0 3)).Nodup := by decide +kernel
  have hc : e.challenges.get? (messageId 0 2) = some c := by decide +kernel
  have hrun : e.phase = .running := by decide +kernel
  have hbacked :=
    (challenges_backed (Sample.config 0 3) (fun _ => none) (source 0) occasions hfresh).1 _ c hc
  obtain ⟨hrivals, r, hr, -, -, hrelated, hsettled⟩ := hbacked
  refine ⟨hfresh, hc, hrivals, ⟨r, hr, hrelated⟩, ?_⟩
  have haddress : (e.requests.pings.get? (messageId 0 2)).map Request.address
      = some (address 1) := by decide +kernel
  have hr : e.requests.pings.get? (messageId 0 2) = some r := hr
  rw [hr] at haddress
  exact ((hsettled hrun).1 .none (.ofMillis 0)
    ⟨⟨messageId 0 2, nodeId 0x80, some 0, .pong⟩, address 1⟩ rfl rfl rfl
    (Option.some.inj haddress).symm (by decide +kernel)).2

end Explorer
end NodeDiscovery
