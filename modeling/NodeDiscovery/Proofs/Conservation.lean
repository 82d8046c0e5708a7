import Mathlib.Data.List.Sort
import NodeDiscovery.Proofs.Noise

/-!
# What becomes of the requests that are tracked

A tracker keeps the accounts of the requests that were sent: whatever it is given it holds until it
gives it back, to an answer or because the time is over, and it gives nothing back twice.  Each of
its operations gives a request to one of its maps, takes some out of it or binds one of them to a
node, and since every request stands under its own identifier, what is found there afterwards is
known.  So the accounts balance after every sequence of operations, as long as no two requests that
are tracked in one of the maps share their identifier.

## Main definitions

* `Request.Due` — a request has waited for as long as it may, in exact numbers.
* `PendingRequests.removeAll` — requests removed one after the other.
* `RequestTracker.Part` — the two maps of a tracker.
* `RequestTracker.Operation` — what can be done with a tracker.
* `PendingRequests.Change` — all that an operation can do to a map.
* `RequestTracker.Balanced` — whatever was tracked is held or has been given back.

## Main results

* `RequestTracker.change_apply` — every operation is such a change.
* `PendingRequests.Change.get?_eq` — what is found after a change.
* `RequestTracker.balanced_run` — the accounts balance after every run.
* `PendingRequests.Keyed.removeAll_due` — what has expired may be removed in any order.
* `RequestTracker.conservation` — what this says of each request and of each operation.
-/

namespace NodeDiscovery

namespace Request

/-- A request has waited for as long as it may, in exact numbers. -/
def Due (now : Timestamp) (r : Request) : Prop :=
  r.timeout = 0 ∨ r.createdAt.millis + r.timeout ≤ now.millis

instance (now : Timestamp) (r : Request) : Decidable (r.Due now) :=
  inferInstanceAs (Decidable (_ ∨ _))

/-- A request apart from the node that it is bound to. -/
def unbound (r : Request) : Request :=
  { r with related := none }

/-- A request that has been bound to a node. -/
def bound (node : Node) (r : Request) : Request :=
  { r with related := some node }

variable {r : Request} {now : Timestamp}

/-- Whether a request has expired is exact, although no time counts as passed before it was made. -/
theorem hasExpired_eq_due : r.hasExpired now = decide (r.Due now) := by
  refine decide_eq_decide.2 ?_
  unfold Due Timestamp.since
  omega

end Request

/-! ### One map -/

namespace PendingRequests

/-- Every request stands under its own identifier. -/
def Keyed (p : PendingRequests) : Prop :=
  ∀ m r, p.get? m = some r → r.id = m

/-- Removes requests one after the other; gives those that were there. -/
def removeAll : List MessageId → PendingRequests → List Request × PendingRequests
  | [], p => ([], p)
  | m :: ids, p =>
    match p.get? m with
    | some r => (r :: (removeAll ids (p.erase m)).1, (removeAll ids (p.erase m)).2)
    | none => removeAll ids p

variable {p p' : PendingRequests} {m : MessageId} {r : Request}

theorem Keyed.get?_eq_some_iff (h : p.Keyed) : p.get? m = some r ↔ r ∈ p.values ∧ r.id = m := by
  rw [Dict.mem_values]
  constructor
  · exact fun hr => ⟨⟨m, hr⟩, h m r hr⟩
  · rintro ⟨⟨k, hk⟩, rfl⟩
    rwa [h k r hk]

/-- No two requests share an identifier. -/
theorem Keyed.nodup_ids (h : p.Keyed) : (p.values.map Request.id).Nodup := by
  have hkeys : p.values.map Request.id = p.entries.map Prod.fst := by
    rw [Dict.values, List.map_map]
    exact List.map_congr_left fun e he => h e.1 e.2 (Dict.mem_entries.1 he)
  rw [hkeys]
  exact p.nodup_keys

/-! ### Changes -/

/-- All that an operation can do to a map: which requests it adds and which it takes out, and what
it makes of those that stay. -/
inductive Change (p : PendingRequests) :
    (added removed : List Request) → (Request → Request) → PendingRequests → Prop where
  /-- A request is added. -/
  | track (r : Request) : Change p [r] [] (fun r => r) (p.track r)
  /-- A request is bound to a node. -/
  | bind (m : MessageId) (node : Node) :
      Change p [] [] (fun r => if r.id = m then r.bound node else r)
        (p.adjust m fun r => r.bound node)
  /-- Requests are taken out, and the others stay. -/
  | takeOut {removed : List Request} {p' : PendingRequests}
      (hkept : ∀ m r, p'.get? m = some r → p.get? m = some r)
      (hperm : p.values.Perm (removed ++ p'.values)) : Change p [] removed (fun r => r) p'

theorem Change.refl (p : PendingRequests) : Change p [] [] (fun r => r) p :=
  .takeOut (fun _ _ h => h) (.refl _)

variable {added removed : List Request} {f : Request → Request}

theorem Keyed.change (h : p.Keyed) (hchange : Change p added removed f p') : p'.Keyed := by
  cases hchange with
  | track s =>
    intro m r hr
    rw [PendingRequests.track, Dict.get?_insert] at hr
    split at hr
    · next hm =>
      cases hr
      exact hm.symm
    · exact h m r hr
  | bind k node =>
    intro m r hr
    rw [Dict.get?_adjust] at hr
    split at hr
    · obtain ⟨s, hs, rfl⟩ := Option.map_eq_some_iff.1 hr
      exact h m s hs
    · exact h m r hr
  | takeOut hkept _ => exact fun m r hr => h m r (hkept m r hr)

/-- What is found after a change under an identifier that no request added has. -/
theorem Change.get?_eq (hchange : Change p added removed f p') (h : p.Keyed)
    (hm : m ∉ added.map Request.id) :
    p'.get? m = if m ∈ removed.map Request.id then none else (p.get? m).map f := by
  cases hchange with
  | track s =>
    have hne : m ≠ s.id := by simpa using hm
    rw [PendingRequests.track, Dict.get?_insert, if_neg hne]
    simp
  | bind k node =>
    rw [Dict.get?_adjust, List.map_nil, if_neg List.not_mem_nil]
    cases hr : p.get? m with
    | none => simp
    | some r =>
      obtain rfl := h m r hr
      simp only [Option.map_some]
      split <;> rfl
  | takeOut hkept hperm =>
    rw [Option.map_id']
    have hnodup : ((removed ++ p'.values).map Request.id).Nodup :=
      (hperm.map _).nodup_iff.1 h.nodup_ids
    rw [List.map_append, List.nodup_append] at hnodup
    split
    · next hin =>
      -- What is taken out does not stay.
      refine Option.eq_none_iff_forall_ne_some.2 fun r hr => ?_
      have hstays : m ∈ p'.values.map Request.id :=
        List.mem_map.2 ⟨r, Dict.mem_values.2 ⟨m, hr⟩, h m r (hkept m r hr)⟩
      exact hnodup.2.2 m hin m hstays rfl
    · next hout =>
      have hkeyed : p'.Keyed := h.change (.takeOut hkept hperm)
      refine Option.ext fun r => ⟨hkept m r, fun hr => ?_⟩
      obtain ⟨hmem, rfl⟩ := h.get?_eq_some_iff.1 hr
      rcases List.mem_append.1 (hperm.mem_iff.1 hmem) with hback | hstays
      · exact absurd (List.mem_map_of_mem hback) hout
      · exact hkeyed.get?_eq_some_iff.2 ⟨hstays, rfl⟩

/-- The request under an identifier can be taken out. -/
theorem change_erase (hr : p.get? m = some r) : Change p [] [r] (fun r => r) (p.erase m) :=
  .takeOut (fun _ _ h => (Dict.get?_erase_eq_some.1 h).2) (Dict.values_perm_erase hr)

/-! ### Requests that have expired -/

/-- What has expired is taken out, the oldest first. -/
theorem drain_eq (now : Timestamp) (ties : List MessageId) (p : PendingRequests) :
    p.drain now ties = (Request.oldestFirst ties (p.values.filter (·.Due now)),
      p.filter fun _ r => !decide (r.Due now)) := by
  simp only [drain, Request.hasExpired_eq_due]

/-- The requests that have expired can be taken out. -/
theorem change_drain (now : Timestamp) (ties : List MessageId) (p : PendingRequests) :
    Change p [] (p.drain now ties).1 (fun r => r) (p.drain now ties).2 := by
  rw [drain_eq]
  refine .takeOut (fun _ _ h => (Dict.get?_filter_eq_some.1 h).1) ?_
  rw [Dict.values_filter]
  exact (List.filter_append_perm _ p.values).symm.trans
    ((Request.perm_oldestFirst ties _).symm.append_right _)

/-- Removing requests by their identifiers, one after the other, gives them in the same order. -/
theorem removeAll_eq {rs : List Request} (hnodup : (rs.map Request.id).Nodup)
    (hrs : ∀ r ∈ rs, p.get? r.id = some r) :
    p.removeAll (rs.map Request.id)
      = (rs, p.filter fun m _ => decide (m ∉ rs.map Request.id)) := by
  induction rs generalizing p with
  | nil => simp [removeAll, Dict.filter_true]
  | cons r rs ih =>
    rw [List.map_cons, List.nodup_cons] at hnodup
    have hrest : ∀ s ∈ rs, (p.erase r.id).get? s.id = some s := by
      intro s hs
      refine Dict.get?_erase_eq_some.2 ⟨fun hid => ?_, hrs s (List.mem_cons_of_mem _ hs)⟩
      exact hnodup.1 (hid ▸ List.mem_map_of_mem hs)
    -- The first one is found, and what is left without it still holds the others.
    rw [List.map_cons, removeAll, hrs r List.mem_cons_self]
    dsimp only
    rw [ih hnodup.2 hrest, Dict.erase, Dict.filter_filter]
    simp [List.mem_cons, not_or]

/-- What has expired may be collected first, in any order, and then be removed by its
identifiers. -/
theorem Keyed.removeAll_due (h : p.Keyed) {now : Timestamp} {rs : List Request}
    (hrs : rs.Perm (p.values.filter (·.Due now))) (ties : List MessageId) :
    p.removeAll (rs.map Request.id) = (rs, (p.drain now ties).2) := by
  have hmem : ∀ r, r ∈ rs ↔ r ∈ p.values ∧ r.Due now := by
    intro r
    rw [hrs.mem_iff, List.mem_filter, decide_eq_true_eq]
  have hnodup : (rs.map Request.id).Nodup :=
    (hrs.map _).nodup_iff.2 (h.nodup_ids.sublist (List.filter_sublist.map _))
  rw [removeAll_eq hnodup fun r hr => h.get?_eq_some_iff.2 ⟨((hmem r).1 hr).1, rfl⟩, drain_eq]
  dsimp only
  refine congrArg (Prod.mk rs) (Dict.filter_congr fun m r hr => ?_)
  obtain ⟨hin, rfl⟩ := h.get?_eq_some_iff.1 hr
  have hid : r.id ∈ rs.map Request.id ↔ r.Due now := by
    constructor
    · intro hid
      obtain ⟨s, hs, hsame⟩ := List.mem_map.1 hid
      obtain ⟨hs, hdue⟩ := (hmem s).1 hs
      have hfound := h.get?_eq_some_iff.2 ⟨hs, hsame⟩
      rw [hr] at hfound
      exact Option.some.inj hfound ▸ hdue
    · exact fun hdue => List.mem_map_of_mem ((hmem r).2 ⟨hin, hdue⟩)
  rw [decide_not, decide_eq_decide.2 hid]

end PendingRequests

/-! ### The tracker -/

namespace RequestTracker

/-- The two maps of a tracker. -/
inductive Part where
  /-- The PINGs. -/
  | pings
  /-- The FIND_NODEs. -/
  | finds
  deriving DecidableEq

/-- What one of the maps holds. -/
def held : Part → RequestTracker → PendingRequests
  | .pings, t => t.pings
  | .finds, t => t.finds

/-- A tracker with another map in place of one of its own. -/
def put : Part → PendingRequests → RequestTracker → RequestTracker
  | .pings, p, t => { t with pings := p }
  | .finds, p, t => { t with finds := p }

/-- Adds a request that was sent. -/
def track : Part → Request → RequestTracker → RequestTracker
  | .pings => trackPing
  | .finds => trackFind

/-- Takes out the request that a datagram answers. -/
def take : Part → Datagram → RequestTracker → Option Request × RequestTracker
  | .pings, d => takePing d.address d.message
  | .finds, d => takeFind d.address d.message

/-- Takes out the requests that have expired. -/
def drain : Part → Timestamp → List MessageId → RequestTracker → List Request × RequestTracker
  | .pings => drainPings
  | .finds => drainFinds

/-- What can be done with a tracker. -/
inductive Operation where
  /-- A request was sent. -/
  | track (part : Part) (r : Request)
  /-- A PING is bound to a node. -/
  | bind (m : MessageId) (node : Node)
  /-- A datagram may be an answer. -/
  | take (part : Part) (d : Datagram)
  /-- The time is over for some requests. -/
  | drain (part : Part) (now : Timestamp) (ties : List MessageId)

namespace Operation

/-- What an operation returns, and the tracker afterwards. -/
def apply (t : RequestTracker) : Operation → List Request × RequestTracker
  | track part r => ([], t.track part r)
  | bind m node => ([], t.bind m node)
  | take part d => ((t.take part d).1.toList, (t.take part d).2)
  | drain part now ties => t.drain part now ties

/-- The requests that an operation adds to one of the maps. -/
def tracked (part : Part) : Operation → List Request
  | track part' r => if part = part' then [r] else []
  | _ => []

/-- The map that an operation is about. -/
def part : Operation → Part
  | track part _ => part
  | bind _ _ => .pings
  | take part _ => part
  | drain part _ _ => part

/-- The requests that an operation takes out of one of the maps. -/
def returned (part : Part) (t : RequestTracker) (o : Operation) : List Request :=
  if part = o.part then (o.apply t).1 else []

/-- What an operation makes of the requests that one of the maps holds. -/
def rebind (part : Part) (o : Operation) (r : Request) : Request :=
  match o, part with
  | bind m node, .pings => if r.id = m then r.bound node else r
  | _, _ => r

end Operation

/-- The tracker after a sequence of operations. -/
def run (t : RequestTracker) (os : List Operation) : RequestTracker :=
  os.foldl (fun t o => (o.apply t).2) t

/-- The requests that a sequence of operations adds to one of the maps. -/
def tracked (part : Part) (os : List Operation) : List Request :=
  os.flatMap (Operation.tracked part)

/-- The requests that a sequence of operations takes out of one of the maps, in order. -/
def returned (part : Part) : RequestTracker → List Operation → List Request
  | _, [] => []
  | t, o :: os => o.returned part t ++ returned part (o.apply t).2 os

/-- What a sequence of operations makes of a request while one of the maps holds it. -/
def rebound (part : Part) (os : List Operation) (r : Request) : Request :=
  os.foldl (fun r o => o.rebind part r) r

variable {part part' : Part} {t t' : RequestTracker} {p : PendingRequests} {r : Request}
  {d : Datagram} {o : Operation} {os : List Operation} {found : Option Request}

@[simp] theorem held_put (part : Part) (p : PendingRequests) (t : RequestTracker) :
    (t.put part p).held part = p := by
  cases part <;> rfl

theorem held_put_of_ne (h : part ≠ part') : (t.put part' p).held part = t.held part := by
  cases part <;> cases part' <;> first | rfl | exact absurd rfl h

/-! ### The operations -/

theorem track_eq : t.track part r = t.put part ((t.held part).track r) := by
  cases part <;> rfl

theorem drain_eq (now : Timestamp) (ties : List MessageId) :
    t.drain part now ties
      = (((t.held part).drain now ties).1, t.put part ((t.held part).drain now ties).2) := by
  cases part <;> rfl

theorem take_eq_some_iff :
    t.take part d = (some r, t') ↔ (t.held part).get? d.message.id = some r ∧ r.Asks d ∧
      t' = t.put part ((t.held part).erase d.message.id) := by
  rw [← Request.accepts_iff]
  cases part with
  | pings => exact Explorer.takePing_eq_some
  | finds => exact Explorer.takeFind_eq_some

theorem take_eq_none_iff :
    t.take part d = (none, t') ↔
      (∀ r, (t.held part).get? d.message.id = some r → ¬ r.Asks d) ∧ t' = t := by
  simp only [← Request.accepts_iff, Bool.not_eq_true]
  cases part with
  | pings => exact Explorer.takePing_eq_none
  | finds => exact Explorer.takeFind_eq_none

theorem apply_take (h : t.take part d = (found, t')) :
    (Operation.take part d).apply t = (found.toList, t') := by
  rw [Operation.apply, h]

/-- An operation leaves the other map as it is. -/
theorem held_apply_of_ne (h : part ≠ o.part) (t : RequestTracker) :
    (o.apply t).2.held part = t.held part := by
  cases o with
  | track part' r =>
    have h : part ≠ part' := h
    rw [Operation.apply, track_eq, held_put_of_ne h]
  | bind m node =>
    cases part with
    | pings => exact absurd rfl h
    | finds => rfl
  | take part' d =>
    have h : part ≠ part' := h
    rcases htake : t.take part' d with ⟨found, t'⟩
    rw [apply_take htake]
    cases found with
    | none => rw [(take_eq_none_iff.1 htake).2]
    | some r =>
      obtain ⟨-, -, rfl⟩ := take_eq_some_iff.1 htake
      rw [held_put_of_ne h]
  | drain part' now ties =>
    have h : part ≠ part' := h
    rw [Operation.apply, drain_eq, held_put_of_ne h]

/-- An operation changes its own map in one of three ways. -/
theorem change_apply_part (t : RequestTracker) (o : Operation) :
    PendingRequests.Change (t.held o.part) (o.tracked o.part) (o.apply t).1 (o.rebind o.part)
      ((o.apply t).2.held o.part) := by
  cases o with
  | track part r =>
    show PendingRequests.Change (t.held part) (if part = part then [r] else []) [] _
      ((t.track part r).held part)
    rw [if_pos rfl, track_eq, held_put]
    exact .track r
  | bind m node => exact .bind m node
  | take part d =>
    show PendingRequests.Change (t.held part) [] _ _ (RequestTracker.held part _)
    rcases htake : t.take part d with ⟨found, t'⟩
    rw [apply_take htake]
    cases found with
    | none =>
      obtain ⟨-, rfl⟩ := take_eq_none_iff.1 htake
      exact .refl _
    | some r =>
      obtain ⟨hr, -, rfl⟩ := take_eq_some_iff.1 htake
      rw [held_put]
      exact PendingRequests.change_erase hr
  | drain part now ties =>
    show PendingRequests.Change (t.held part) [] (t.drain part now ties).1 _
      ((t.drain part now ties).2.held part)
    rw [drain_eq, held_put]
    exact PendingRequests.change_drain now ties _

/-- What an operation does to either of the maps. -/
theorem change_apply (part : Part) (t : RequestTracker) (o : Operation) :
    PendingRequests.Change (t.held part) (o.tracked part) (o.returned part t) (o.rebind part)
      ((o.apply t).2.held part) := by
  by_cases h : part = o.part
  · subst h
    rw [Operation.returned, if_pos rfl]
    exact change_apply_part t o
  · -- An operation on the other map adds nothing here, takes nothing out and binds nothing.
    have htracked : o.tracked part = [] := by
      cases o with
      | track part' r => exact if_neg h
      | _ => rfl
    have hrebind : o.rebind part = fun r => r := by
      cases o with
      | bind m node =>
        cases part with
        | pings => exact absurd rfl h
        | finds => rfl
      | _ => rfl
    rw [Operation.returned, if_neg h, held_apply_of_ne h, htracked, hrebind]
    exact .refl _

/-! ### Runs -/

theorem tracked_cons (part : Part) (o : Operation) (os : List Operation) :
    tracked part (o :: os) = o.tracked part ++ tracked part os :=
  List.flatMap_cons

theorem tracked_append (part : Part) (os os' : List Operation) :
    tracked part (os ++ os') = tracked part os ++ tracked part os' :=
  List.flatMap_append

theorem run_append (t : RequestTracker) (os os' : List Operation) :
    t.run (os ++ os') = (t.run os).run os' :=
  List.foldl_append

theorem returned_append (part : Part) (t : RequestTracker) (os os' : List Operation) :
    t.returned part (os ++ os') = t.returned part os ++ (t.run os).returned part os' := by
  induction os generalizing t with
  | nil => rfl
  | cons o os ih =>
    rw [List.cons_append, returned, returned, ih, List.append_assoc]
    rfl

/-- The accounts of one map balance: whatever was tracked is held or has been given back. -/
structure Balanced (tracked returned : List Request) (p : PendingRequests) : Prop where
  /-- Every request that is held stands under its own identifier. -/
  keyed : p.Keyed
  /-- What was given back and what is held are what was tracked, up to the nodes bound to. -/
  perm : ((returned ++ p.values).map Request.unbound).Perm (tracked.map Request.unbound)

theorem balanced_empty (part : Part) : Balanced [] [] (empty.held part) := by
  cases part <;> exact ⟨fun _ _ h => (by cases h), .nil⟩

variable {given back added removed : List Request} {f : Request → Request} {p' : PendingRequests}

/-- The identifiers of what was given back and of what is held are those of what was tracked. -/
theorem Balanced.ids (h : Balanced given back p) :
    ((back ++ p.values).map Request.id).Perm (given.map Request.id) := by
  have hid : ∀ rs : List Request, (rs.map Request.unbound).map Request.id = rs.map Request.id := by
    intro rs
    rw [List.map_map]
    rfl
  have hperm := h.perm.map Request.id
  rwa [hid, hid] at hperm

/-- The accounts balance after each change. -/
theorem Balanced.change (h : Balanced given back p)
    (hchange : p.Change added removed f p')
    (hnew : ((given ++ added).map Request.id).Nodup) :
    Balanced (given ++ added) (back ++ removed) p' := by
  refine ⟨h.keyed.change hchange, ?_⟩
  have hperm := h.perm
  cases hchange with
  | track s =>
    -- The identifier is new to the map, so nothing is replaced.
    have hfree : p.get? s.id = none := by
      refine Option.eq_none_iff_forall_ne_some.2 fun r hr => ?_
      obtain ⟨hr, hid⟩ := h.keyed.get?_eq_some_iff.1 hr
      have hgiven : s.id ∈ given.map Request.id :=
        h.ids.mem_iff.1 (hid ▸ List.mem_map_of_mem (List.mem_append_right _ hr))
      rw [List.map_append, List.nodup_append] at hnew
      exact hnew.2.2 _ hgiven _ (List.mem_singleton_self _) rfl
    rw [PendingRequests.track, Dict.values_insert hfree, List.append_nil]
    simpa only [List.map_append, List.append_assoc] using
      hperm.append_right ([s].map Request.unbound)
  | bind m node =>
    have hsame : (p.adjust m fun r => r.bound node).values.map Request.unbound
        = p.values.map Request.unbound := Dict.map_values_adjust p m fun r => rfl
    rw [List.append_nil, List.append_nil, List.map_append, hsame, ← List.map_append]
    exact hperm
  | takeOut _ hkept =>
    rw [List.append_nil, List.append_assoc]
    exact ((hkept.append_left back).map _).symm.trans hperm

/-- The accounts balance after every run. -/
theorem balanced_run (part : Part) (os : List Operation) (h : Balanced given back (t.held part))
    (hnew : ((given ++ tracked part os).map Request.id).Nodup) :
    Balanced (given ++ tracked part os) (back ++ t.returned part os) ((t.run os).held part) := by
  induction os generalizing t given back with
  | nil =>
    rw [tracked, List.flatMap_nil, returned, List.append_nil, List.append_nil]
    exact h
  | cons o os ih =>
    rw [tracked_cons, ← List.append_assoc] at hnew ⊢
    rw [returned, ← List.append_assoc]
    have hone : ((given ++ o.tracked part).map Request.id).Nodup := by
      rw [List.map_append] at hnew
      exact (List.nodup_append.1 hnew).1
    exact ih (h.change (change_apply part t o) hone) hnew

/-- What is found after a run under an identifier that no request tracked in it has. -/
theorem get?_run (h : (t.held part).Keyed) {m : MessageId}
    (hm : m ∉ (tracked part os).map Request.id) :
    ((t.run os).held part).get? m = if m ∈ (t.returned part os).map Request.id then none
      else ((t.held part).get? m).map (rebound part os) := by
  induction os generalizing t with
  | nil =>
    show _ = if m ∈ [] then none else ((t.held part).get? m).map fun r => r
    rw [if_neg List.not_mem_nil, Option.map_id']
    rfl
  | cons o os ih =>
    rw [tracked_cons, List.map_append, List.mem_append, not_or] at hm
    have hchange := change_apply part t o
    rw [returned, List.map_append]
    show (((o.apply t).2.run os).held part).get? m = _
    rw [ih (h.change hchange) hm.2, hchange.get?_eq h hm.1]
    by_cases hone : m ∈ (o.returned part t).map Request.id
    · -- What has been given back is not found again, since its identifier is not tracked again.
      rw [if_pos hone, if_pos (List.mem_append_left _ hone), Option.map_none, ite_self]
    · rw [if_neg hone, Option.map_map]
      simp only [List.mem_append, hone, false_or]
      rfl

/-- A request that was tracked is found until it is given back. -/
theorem get?_of_tracked {before after : List Operation}
    (hids : ((tracked part (before ++ .track part r :: after)).map Request.id).Nodup) :
    ((empty.run (before ++ .track part r :: after)).held part).get? r.id
      = if r.id ∈ (empty.returned part (before ++ .track part r :: after)).map Request.id then none
        else some (rebound part after r) := by
  have hone : Operation.tracked part (.track part r) = [r] := if_pos rfl
  rw [tracked_append, tracked_cons, hone, List.map_append, List.nodup_append, List.map_append,
    List.map_singleton, List.singleton_append, List.nodup_cons] at hids
  obtain ⟨hfirst, ⟨hlater, -⟩, hapart⟩ := hids
  have hbalanced : Balanced (tracked part before) (empty.returned part before)
      ((empty.run before).held part) := balanced_run part before (balanced_empty part) hfirst
  -- Nothing of its identifier was given back before it was tracked.
  have hback : r.id ∉ (empty.returned part before).map Request.id := by
    intro hin
    have hgiven := hbalanced.ids.mem_iff.1 (List.map_append ▸ List.mem_append_left _ hin)
    exact hapart _ hgiven _ List.mem_cons_self rfl
  let t := (empty.run before).track part r
  have hkeyed : (t.held part).Keyed :=
    hbalanced.keyed.change (change_apply part (empty.run before) (.track part r))
  have hfound : (t.held part).get? r.id = some r := by
    show (((empty.run before).track part r).held part).get? r.id = some r
    rw [track_eq, held_put, PendingRequests.track, Dict.get?_insert, if_pos rfl]
  have hreturned : empty.returned part (before ++ .track part r :: after)
      = empty.returned part before ++ t.returned part after := by
    rw [returned_append, returned, Operation.returned, Operation.apply, ite_self]
    rfl
  have hrest := get?_run hkeyed hlater
  rw [hfound, Option.map_some] at hrest
  rw [run_append, hreturned, List.map_append]
  simp only [List.mem_append, hback, false_or]
  exact hrest

/-- **A tracker loses nothing and gives nothing back twice.**  After any sequence of operations on a
new tracker, as long as no two requests tracked in one of its maps share their identifier: what this
map holds and what it has given back are together what was tracked in it, up to the nodes that PINGs
have been bound to since, and no two of them share their identifier.  A request is found in the map
from the moment at which it was tracked until it is given back and never again, and all that has
become of it is that it may have been bound.  A datagram takes out a request exactly if it answers
one that the same map holds, and then this one; otherwise nothing changes.  When the time is over
for some requests, exactly these are taken out, the oldest first, and it is the same if their
identifiers are collected first, in any order, and they are removed one after the other.  Both leave
the other requests of the map, and the other map, as they are. -/
theorem conservation (os : List Operation) (part : Part) :
    let t := empty.run os
    let back := empty.returned part os
    ((tracked part os).map Request.id).Nodup →
    ((back ++ (t.held part).values).map Request.unbound).Perm
        ((tracked part os).map Request.unbound) ∧
      ((back ++ (t.held part).values).map Request.id).Nodup ∧
      (∀ before r after, os = before ++ .track part r :: after →
        (t.held part).get? r.id
          = if r.id ∈ back.map Request.id then none else some (rebound part after r)) ∧
      (∀ d r t', t.take part d = (some r, t') ↔
        r ∈ (t.held part).values ∧ r.Asks d ∧
          t' = t.put part ((t.held part).erase d.message.id)) ∧
      (∀ d t', t.take part d = (none, t') ↔ (∀ r ∈ (t.held part).values, ¬ r.Asks d) ∧ t' = t) ∧
      ∀ now ties,
        let drained := t.drain part now ties
        drained.1.Perm ((t.held part).values.filter (·.Due now)) ∧
          drained.1.Pairwise (fun r r' => r.createdAt ≤ r'.createdAt) ∧
          drained.2 = t.put part ((t.held part).filter fun _ r => !decide (r.Due now)) ∧
          ∀ rs, rs.Perm drained.1 →
            (t.held part).removeAll (rs.map Request.id) = (rs, drained.2.held part) := by
  intro t back hids
  have hbalanced : Balanced (tracked part os) back (t.held part) :=
    balanced_run part os (balanced_empty part) hids
  have hkeyed := hbalanced.keyed
  have htake : ∀ d r t', t.take part d = (some r, t') ↔
      r ∈ (t.held part).values ∧ r.Asks d ∧
        t' = t.put part ((t.held part).erase d.message.id) := by
    intro d r t'
    rw [take_eq_some_iff, hkeyed.get?_eq_some_iff, and_assoc]
    refine and_congr_right fun _ => ⟨fun h => h.2, fun h => ⟨h.1.id.symm, h⟩⟩
  refine ⟨hbalanced.perm, hbalanced.ids.nodup_iff.2 hids, ?_, htake, ?_, ?_⟩
  · rintro before r after rfl
    exact get?_of_tracked hids
  · intro d t'
    rw [take_eq_none_iff]
    refine and_congr_left fun _ => ⟨fun h r hr hasks => ?_, fun h r hr => ?_⟩
    · exact h r (hkeyed.get?_eq_some_iff.2 ⟨hr, hasks.id.symm⟩) hasks
    · exact h r (hkeyed.get?_eq_some_iff.1 hr).1
  · intro now ties drained
    have hdrained : drained = (((t.held part).drain now ties).1,
        t.put part ((t.held part).drain now ties).2) := drain_eq now ties
    have hexpired : drained.1.Perm ((t.held part).values.filter (·.Due now)) := by
      rw [hdrained, PendingRequests.drain_eq]
      exact Request.perm_oldestFirst ties _
    refine ⟨hexpired, ?_, ?_, ?_⟩
    · rw [hdrained]
      exact Request.pairwise_oldestFirst ties _
    · rw [hdrained, PendingRequests.drain_eq]
    · intro rs hrs
      rw [hkeyed.removeAll_due (hrs.trans hexpired) ties, hdrained, held_put]

open Sample in
/-- A PING that is bound to a node does not heed anyone else and is given back when its time is
over, while one that was made later is held, and the FIND_NODE in the other map has been answered.
-/
theorem bound_ping_is_given_back_late :
    let node : Node := ⟨nodeId 0x80, .ofAddress (address 1)⟩
    let ping : Nat → Request := fun n => ⟨⟨messageId 0 n, nodeId 0, some 0, .ping ⟨"", 0⟩⟩,
      address 1, .pong, .ofMillis (500 * n), 1000, none, 1⟩
    let find : Request := ⟨⟨messageId 0 2, nodeId 0, some 0, .findNode (nodeId 0)⟩,
      address 1, .neighbors, .ofMillis 0, 1000, some node, 1⟩
    let pong : Datagram := ⟨⟨messageId 0 0, nodeId 0x40, some 0, .pong⟩, address 1⟩
    let neighbors : Datagram := ⟨⟨messageId 0 2, nodeId 0x80, some 0, .neighbors []⟩, address 1⟩
    let before : List Operation := [.track .pings (ping 0), .track .finds find,
      .bind (messageId 0 0) node, .take .pings pong]
    let after : List Operation := [.take .finds neighbors, .drain .pings (.ofMillis 1000) []]
    let os := before ++ .track .pings (ping 1) :: after
    let t := empty.run os
    ((tracked .pings os).map Request.id).Nodup ∧
      empty.returned .pings os = [(ping 0).bound node] ∧ empty.returned .finds os = [find] ∧
      (t.held .pings).get? (messageId 0 0) = none ∧
      (t.held .pings).get? (messageId 0 1) = some (ping 1) ∧
      (t.drain .pings (.ofMillis 1500) []).1.Perm [ping 1] := by
  intro node ping find pong neighbors before after os t
  have hids : ((tracked .pings os).map Request.id).Nodup := by decide +kernel
  have hback : empty.returned .pings os = [(ping 0).bound node] := by decide +kernel
  obtain ⟨-, -, hlife, -, -, hdrain⟩ := conservation os .pings hids
  have hfirst := hlife [] (ping 0) (before.tail ++ .track .pings (ping 1) :: after) rfl
  have hsecond := hlife before (ping 1) after rfl
  rw [hback] at hfirst hsecond
  have hdue : (t.held .pings).values.filter (·.Due (.ofMillis 1500)) = [ping 1] := by
    decide +kernel
  have hdrained := (hdrain (.ofMillis 1500) []).1
  rw [hdue] at hdrained
  refine ⟨hids, hback, by decide +kernel, ?_, ?_, hdrained⟩
  · exact hfirst.trans (if_pos (by decide +kernel))
  · exact hsecond.trans (if_neg (by decide +kernel))

end RequestTracker
end NodeDiscovery
