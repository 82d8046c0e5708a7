import NodeDiscovery.Proofs.Coherence

/-!
# Where the table stores the established peers

An established peer is stored twice, in the map of established nodes and in the table.  Whatever
marks a peer as seen copies the established node into the table, with one exception: the answer of
an incumbent to a challenge puts back the node that the challenge began with.  If the incumbent
has been established at another endpoint in the meantime, the table and the map disagree.  This is
the only way in which they ever do.

## Main definitions

* `Explorer.EndpointsAgree` — the table stores every established peer at its endpoint.
* `Explorer.DefendsElsewhere` — a call is the answer of an incumbent that has moved since it was
  challenged.

## Main results

* `Explorer.endpointsAgree_perform_iff` — a call keeps the agreement unless it is such an answer.
* `Explorer.endpoints_agree_iff` — a run keeps it throughout exactly if it has no such answer.
* `Explorer.endpoints_disagree` — a run that has one.
-/

namespace NodeDiscovery

/-- The table stores every established node as it is established. -/
def Registry.Agrees (r : Registry) : Prop :=
  ∀ id node, r.established.get? id = some node → r.table.node? id = some node

namespace Explorer

/-- The table stores every established peer, at the host and the port at which it is
established. -/
def EndpointsAgree (e : Explorer) : Prop :=
  ∀ id node, e.established.get? id = some node →
    ∃ stored, e.table.node? id = some stored ∧ stored.endpoint = node.endpoint

/-- A call is the answer of the incumbent of a challenge, who has been established elsewhere since
the challenge began. -/
def DefendsElsewhere (e : Explorer) (call : Call) : Prop :=
  ∃ d c node, call = .receive d ∧ e.Defends d c ∧
    e.established.get? c.incumbent.id = some node ∧ node.endpoint ≠ c.incumbent.endpoint

variable {e : Explorer}

theorem ext_node {a b : Node} (hid : a.id = b.id) (hendpoint : a.endpoint = b.endpoint) :
    a = b := by
  cases a
  cases b
  cases hid
  cases hendpoint
  rfl

/-- Nodes under the same identifier that agree on the endpoint are the same. -/
theorem endpointsAgree_iff (h : e.registry.Coherent) :
    e.EndpointsAgree ↔ e.registry.Agrees := by
  constructor
  · intro hagree id node hn
    obtain ⟨stored, hstored, hendpoint⟩ := hagree id node hn
    have hsame : stored.id = node.id :=
      (DistanceTable.id_of_node? hstored).trans (h.own_id id node hn).symm
    rw [← ext_node hsame hendpoint]
    exact hstored
  · intro hagree id node hn
    exact ⟨node, hagree id node hn, rfl⟩

/-! ### The elementary changes -/

theorem agrees_forget (h : e.registry.Coherent) (hagree : e.registry.Agrees) (id : NodeId) :
    (e.forget id).registry.Agrees := by
  intro i node hn
  have hsound : e.table.Sound := h.sound
  obtain ⟨hi, hn⟩ := Dict.get?_erase_eq_some.1 hn
  show (e.table.remove id).2.node? i = some node
  rw [DistanceTable.node?_remove hsound, if_neg hi]
  exact hagree i node hn

theorem agrees_forgetAll (ids : List NodeId) (h : e.registry.Coherent)
    (hagree : e.registry.Agrees) :
    (ids.foldl (fun e id => e.forget id) e).registry.Agrees := by
  induction ids generalizing e with
  | nil => exact hagree
  | cons id ids ih => exact ih (coherent_forget h id) (agrees_forget h hagree id)

/-- Marking a node as seen keeps the agreement if the node is as it is established. -/
theorem agrees_refresh (h : e.registry.Coherent) (hagree : e.registry.Agrees) {node : Node}
    (hnode : ∀ n, e.established.get? node.id = some n → n = node) (now : Timestamp) :
    Registry.Agrees { e.registry with table := (e.table.refresh node now).2 } := by
  intro i n hn
  have hsound : e.table.Sound := h.sound
  have hn : e.established.get? i = some n := hn
  show (e.table.refresh node now).2.node? i = some n
  rw [DistanceTable.node?_refresh hsound]
  split
  · next hi => rw [hnode n (hi.1 ▸ hn)]
  · exact hagree i n hn

theorem agrees_refreshPeer (h : e.registry.Coherent) (hagree : e.registry.Agrees) (id : NodeId)
    (now : Timestamp) : (e.refreshPeer id now).registry.Agrees := by
  unfold refreshPeer
  split
  · next node hnode =>
    refine agrees_refresh h hagree (fun n hn => ?_) now
    rw [h.own_id id node hnode] at hn
    exact Option.some.inj (hn.symm.trans hnode)
  · exact hagree

theorem agrees_establish (h : e.registry.Coherent) (hagree : e.registry.Agrees) {node : Node}
    {now : Timestamp} {o : Admission} {table : DistanceTable}
    (hadd : e.table.add node now = (.ok o, table)) (ho : o.isSuccess = true) :
    (e.establish node table).registry.Agrees := by
  have hsound : e.table.Sound := h.sound
  obtain ⟨-, -, -, -, hnode⟩ := DistanceTable.add_of_isSuccess hsound hadd ho
  intro i n hn
  have hn : (e.established.insert node.id node).get? i = some n := hn
  show table.node? i = some n
  rw [hnode i]
  rw [Dict.get?_insert] at hn
  split at hn
  · next hi => rw [if_pos hi]; exact hn
  · next hi => rw [if_neg hi]; exact hagree i n hn

theorem agrees_enroll (h : e.registry.Coherent) (hagree : e.registry.Agrees) (now : Timestamp)
    (id : NodeId) (a : SocketAddress) : (e.enroll now id a).registry.Agrees := by
  have hv : (e.vacate ⟨id, .ofAddress a⟩).registry.Agrees := by
    rcases vacate_cases ⟨id, .ofAddress a⟩ e with hv | ⟨prior, -, -, -, hv⟩
    · rw [hv]; exact hagree
    · rw [hv]; exact agrees_forget h hagree prior
  rcases enroll_cases now id a e with ⟨-, he⟩ | ⟨-, he⟩ | ⟨-, o, table, hadd, ho, he⟩
  · rw [he]; exact hagree
  · rw [he]; exact hv
  · rw [he]; exact agrees_establish (coherent_vacate h _) hv hadd ho

/-! ### Calls -/

/-- A call keeps the agreement unless an incumbent answers that has moved. -/
theorem Effect.agrees {now : Timestamp} {call : Call} {r : Registry}
    (heffect : e.Effect now call r) (h : e.registry.Coherent) (hagree : e.registry.Agrees)
    (hcall : ¬ e.DefendsElsewhere call) : r.Agrees := by
  cases heffect with
  | none => exact hagree
  | seen d => exact agrees_refreshPeer h hagree d.message.sender now
  | defended d c hc =>
    -- The table takes the node from the challenge, and that is the established one.
    refine agrees_refresh h hagree (fun n hn => ?_) now
    refine ext_node (h.own_id _ n hn) ?_
    by_contra hne
    exact hcall ⟨d, c, n, rfl, hc, hn, hne⟩
  | admitted d _ => exact agrees_enroll h hagree now d.message.sender d.address
  | gaveUp _ ids => exact agrees_forgetAll ids h hagree

/-- After the answer of an incumbent that has moved, the table stores it where it was. -/
theorem not_endpointsAgree_of_defendsElsewhere (h : e.registry.Coherent) {call : Call}
    (hcall : e.DefendsElsewhere call) (bans : Bans) (now : Timestamp) :
    ¬ (e.perform bans now call).explorer.EndpointsAgree := by
  obtain ⟨d, c, node, rfl, hc, hn, hne⟩ := hcall
  have hsound : e.table.Sound := h.sound
  have hstored : (e.table.node? c.incumbent.id).isSome = true := by
    have hsame : (e.table.node? c.incumbent.id).isSome = e.established.contains c.incumbent.id :=
      h.stored _
    rw [hsame, Dict.contains, hn]
    rfl
  rw [hc.perform_eq]
  intro hagree
  obtain ⟨stored, hfound, hendpoint⟩ := hagree c.incumbent.id node hn
  -- The incumbent is still in the table, and so it is stored as the challenge found it.
  have hfound : (e.table.refresh c.incumbent now).2.node? c.incumbent.id = some stored := hfound
  rw [DistanceTable.node?_refresh hsound, if_pos ⟨rfl, hstored⟩] at hfound
  cases hfound
  exact hne hendpoint.symm

/-- A call keeps the agreement exactly if it is no answer of an incumbent that has moved. -/
theorem endpointsAgree_perform_iff (h : e.registry.Coherent) (hagree : e.EndpointsAgree)
    (bans : Bans) (now : Timestamp) (call : Call) :
    (e.perform bans now call).explorer.EndpointsAgree ↔ ¬ e.DefendsElsewhere call := by
  have heffect := perform_effect bans now call e
  constructor
  · intro hafter hcall
    exact not_endpointsAgree_of_defendsElsewhere h hcall bans now hafter
  · intro hcall
    rw [endpointsAgree_iff (heffect.coherent h)]
    exact heffect.agrees h ((endpointsAgree_iff h).1 hagree) hcall

/-! ### Runs -/

/-- **The table and the established nodes agree on the endpoint of every peer throughout a run
exactly if no incumbent of a challenge answers in it that has been established elsewhere since the
challenge began.**  Nothing else ever puts an earlier endpoint of a peer back into the table. -/
theorem endpoints_agree_iff (config : Config) (system : SystemLookup) (random : RandomSource)
    (occasions : List Occasion) :
    (∀ i, i ≤ occasions.length →
      (stateAt occasions (create config system random) i).EndpointsAgree) ↔
    ∀ i o, occasions[i]? = some o →
      ¬ (stateAt occasions (create config system random) i).DefendsElsewhere o.call := by
  have hcoherent : ∀ i, (stateAt occasions (create config system random) i).registry.Coherent :=
    fun i => ((Reachable.create config system random).stateAt occasions i).coherent
  constructor
  · intro hagree i o ho
    have hi : i < occasions.length := (List.getElem?_eq_some_iff.1 ho).1
    have hnext := hagree (i + 1) hi
    rw [stateAt_succ ho] at hnext
    exact (endpointsAgree_perform_iff (hcoherent i) (hagree i (Nat.le_of_lt hi)) _ _ _).1 hnext
  · intro hcalls
    refine stateAt_induction (fun id node hn => by cases hn) ?_
    intro i o ho hagree
    exact (endpointsAgree_perform_iff (hcoherent i) hagree _ _ _).2 (hcalls i o ho)

open Sample in
/-- A peer answers at two addresses, and in between the second place in its bucket is asked for:
it is challenged at the first address, established at the second, and then answers the challenge.
Its answer puts the first address back into the table. -/
theorem endpoints_disagree :
    let e := (run
      [starts, pinged 0x80 1, pinged 0x80 9, ponged 0x80 1 (messageId 0 0),
        pinged 0x81 2, ponged 0x81 2 (messageId 0 2), ponged 0x80 9 (messageId 0 1),
        ponged 0x80 1 (messageId 0 3)] (explorer 0 3)).1
    e.established.get? (nodeId 0x80) = some ⟨nodeId 0x80, .ofAddress (address 9)⟩ ∧
    e.table.node? (nodeId 0x80) = some ⟨nodeId 0x80, .ofAddress (address 1)⟩ := by
  decide +kernel

end Explorer
end NodeDiscovery
