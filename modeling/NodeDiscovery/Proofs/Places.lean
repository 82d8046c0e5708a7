import NodeDiscovery.Proofs.Coherence

/-!
# Who finds a place

A peer that has answered is established at once if it is established already or if its bucket has
room.  Otherwise the incumbent of its bucket is challenged, or nothing happens at all.  A peer that
finds a place keeps finding one, whatever it says.

## Main definitions

* `Registry.Welcomes` — a peer finds a place.

## Main results

* `Explorer.enroll_outcomes` — what the admission of a peer comes to.
* `Explorer.established_enroll` — a peer that finds a place is established once it has answered.
* `Explorer.Effect.welcomes` — its messages do not cost it its place.
-/

namespace NodeDiscovery

/-- A peer that is established, or whose bucket has room, finds a place. -/
def Registry.Welcomes (id : NodeId) (r : Registry) : Prop :=
  r.established.contains id = true ∨ (r.table.bucketFor id).isFull r.table.bucketSize = false

namespace Explorer

variable {e : Explorer} {d : Datagram}

/-! ### The admission of a peer -/

theorem vacate_frame (node : Node) (e : Explorer) :
    (e.vacate node).outbox = e.outbox ∧ (e.vacate node).requests = e.requests ∧
    (e.vacate node).challenges = e.challenges ∧ (e.vacate node).config = e.config := by
  rcases vacate_cases node e with h | ⟨prior, -, -, -, h⟩ <;> rw [h] <;> exact ⟨rfl, rfl, rfl, rfl⟩

/-- A peer that has answered is established, unless it is a stranger whose bucket is full: then
the incumbent, who is somebody else, may be challenged, and nothing else happens. -/
theorem enroll_outcomes (h : e.registry.Coherent) {id : NodeId} (hself : id ≠ e.localId)
    (now : Timestamp) (a : SocketAddress) :
    (∃ table, e.enroll now id a
      = (e.vacate ⟨id, .ofAddress a⟩).establish ⟨id, .ofAddress a⟩ table) ∨
    ((e.vacate ⟨id, .ofAddress a⟩).established.contains id = false ∧
      ((e.vacate ⟨id, .ofAddress a⟩).table.bucketFor id).isFull
        (e.vacate ⟨id, .ofAddress a⟩).table.bucketSize = true ∧
      (e.enroll now id a = e.vacate ⟨id, .ofAddress a⟩ ∨
        ∃ incumbent, incumbent.id ≠ id ∧ e.enroll now id a
          = (e.vacate ⟨id, .ofAddress a⟩).challenge now incumbent ⟨id, .ofAddress a⟩)) := by
  have hvacated := coherent_vacate h ⟨id, .ofAddress a⟩
  have henroll : e.enroll now id a
      = (e.vacate ⟨id, .ofAddress a⟩).place now ⟨id, .ofAddress a⟩ := by
    rw [enroll, if_neg hself]
  have hlocal : (e.vacate ⟨id, .ofAddress a⟩).table.localId = e.localId := by
    have hkeeper : (e.vacate ⟨id, .ofAddress a⟩).table.localId
      = (e.vacate ⟨id, .ofAddress a⟩).config.localId := hvacated.keeper
    rw [hkeeper, (vacate_frame _ e).2.2.2]
    rfl
  rw [henroll]
  unfold place
  rcases DistanceTable.add_cases (e.vacate ⟨id, .ofAddress a⟩).table ⟨id, .ofAddress a⟩ now with
    ⟨hid, -⟩ | ⟨-, -, hadd⟩ | ⟨-, habsent, hfull, hconflict⟩ | ⟨-, -, -, hadd⟩
  · exact absurd (hid.trans hlocal) hself
  · rw [hadd]
    exact .inl ⟨_, rfl⟩
  · -- A node that is not in its bucket is not established, and so the oldest one is somebody else.
    have hstranger : (e.vacate ⟨id, .ofAddress a⟩).established.contains id = false := by
      have hstored : ((e.vacate ⟨id, .ofAddress a⟩).table.node? id).isSome
        = (e.vacate ⟨id, .ofAddress a⟩).established.contains id := hvacated.stored id
      rw [← hstored, DistanceTable.isSome_node?]
      exact habsent
    refine .inr ⟨hstranger, hfull, ?_⟩
    rcases hconflict with ⟨incumbent, holdest, hadd⟩ | hadd
    · rw [hadd]
      refine .inr ⟨incumbent, ?_, rfl⟩
      rintro rfl
      rw [Bucket.contains_of_oldest? holdest] at habsent
      cases habsent
    · rw [hadd]
      exact .inl rfl
  · rw [hadd]
    exact .inl ⟨_, rfl⟩

/-- Challenging an incumbent means to pursue it, unless it is challenged already or has no
address. -/
theorem challenge_cases (now : Timestamp) (incumbent challenger : Node) (e : Explorer) :
    e.challenge now incumbent challenger = e ∨
    ∃ cache a c, c.incumbent = incumbent ∧
      e.challenge now incumbent challenger = { e with addresses := cache }.pursue now a 1 c := by
  unfold challenge Challenges.start?
  split
  · exact .inl rfl
  · next c hc =>
    split at hc
    · cases hc
    · cases hc
      split
      · next a cache _ => exact .inr ⟨cache, a, _, rfl, rfl⟩
      · next hresolve => exact .inl (eq_of_unresolved hresolve)

/-! ### Peers that find a place -/

theorem welcomes_forget {id id' : NodeId} (h : e.registry.Welcomes id) (hid : id ≠ id') :
    (e.forget id').registry.Welcomes id := by
  rcases h with h | h
  · left
    show (e.established.erase id').contains id = true
    have h : e.established.contains id = true := h
    rw [Dict.contains_erase, h]
    simpa using hid
  · right
    exact DistanceTable.isFull_remove h id'

theorem welcomes_vacate {id : NodeId} (h : e.registry.Welcomes id) (endpoint : Endpoint) :
    (e.vacate ⟨id, endpoint⟩).registry.Welcomes id := by
  rcases vacate_cases ⟨id, endpoint⟩ e with hv | ⟨prior, -, -, hprior, hv⟩
  · rw [hv]; exact h
  · rw [hv]; exact welcomes_forget h hprior.symm

/-- A peer that finds a place is established once it has answered. -/
theorem established_enroll (h : e.registry.Coherent) {id : NodeId} (hself : id ≠ e.localId)
    (hwelcome : e.registry.Welcomes id) (now : Timestamp) (a : SocketAddress) :
    (e.enroll now id a).established.contains id = true := by
  rcases enroll_outcomes h hself now a with ⟨table, he⟩ | ⟨hstranger, hfull, -⟩
  · rw [he]
    show ((e.vacate ⟨id, .ofAddress a⟩).established.insert id ⟨id, .ofAddress a⟩).contains id = true
    rw [Dict.contains_insert, decide_eq_true rfl, Bool.true_or]
  · rcases welcomes_vacate hwelcome (.ofAddress a) with hin | hroom
    · exact absurd (hstranger.symm.trans hin) Bool.false_ne_true
    · exact absurd (hroom.symm.trans hfull) Bool.false_ne_true

/-- A peer that finds a place finds one after each of its messages. -/
theorem Effect.welcomes {now : Timestamp} {r : Registry} (heffect : e.Effect now (.receive d) r)
    (h : e.registry.Coherent) (hself : d.message.sender ≠ e.localId)
    (hwelcome : e.registry.Welcomes d.message.sender) : r.Welcomes d.message.sender := by
  have hrefresh : ∀ node : Node, Registry.Welcomes d.message.sender
      { e.registry with table := (e.table.refresh node now).2 } := by
    intro node
    refine hwelcome.imp id fun hroom => ?_
    show ((e.table.refresh node now).2.bucketFor d.message.sender).isFull
      (e.table.refresh node now).2.bucketSize = false
    rw [DistanceTable.isFull_refresh, DistanceTable.bucketSize_refresh]
    exact hroom
  cases heffect with
  | none => exact hwelcome
  | seen _ =>
    unfold refreshPeer
    split
    · next node _ => exact hrefresh node
    · exact hwelcome
  | defended _ c _ => exact hrefresh c.incumbent
  | admitted _ _ => exact .inl (established_enroll h hself hwelcome now d.address)

end Explorer
end NodeDiscovery
