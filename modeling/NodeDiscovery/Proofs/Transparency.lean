import Mathlib.Data.List.Dedup
import NodeDiscovery.Node
import NodeDiscovery.Proofs.AddressMemory

/-!
# What a cache answers and what it holds

A cache of addresses cannot be told from none by its answers, as long as the system finds the same
address for an endpoint whenever it is asked: whatever is held is what would be found now.  All that
the cache decides is which names are known without asking the system.  These are the endpoints that
were asked for most recently, as many as there is room for, since an answer that is used goes to the
front and the one at the end is forgotten.

## Main definitions

* `AddressCache.plainLookup` — the address of an endpoint without a cache.
* `AddressCache.Truthful` — whatever is held would be found now.
* `AddressCache.Query` — what a cache can be asked.
* `AddressCache.uses` — the endpoints of a sequence of queries that found their address.
* `AddressCache.recent` — the endpoints used most recently.
* `AddressCache.Recalls` — what a cache holds after some uses.

## Main results

* `AddressCache.Truthful.lookup_eq` — a truthful cache answers as if there were none.
* `AddressCache.recalls_apply`, `AddressCache.recalls_askAll` — what is held after queries.
* `AddressCache.transparency` — both, for every sequence of queries to a new cache.
-/

namespace NodeDiscovery

/-! ### Distinct members, the latest last -/

section Distinct

variable {α : Type} [DecidableEq α]

/-- One more member is the latest. -/
theorem dedup_concat (l : List α) (a : α) :
    (l ++ [a]).dedup = (l.dedup.filter fun b => decide (b ≠ a)) ++ [a] := by
  induction l with
  | nil => simp
  | cons b l ih =>
    by_cases hb : b ∈ l
    · rw [List.cons_append, List.dedup_cons_of_mem (List.mem_append_left _ hb),
        List.dedup_cons_of_mem hb, ih]
    · rw [List.dedup_cons_of_notMem hb]
      by_cases hab : b = a
      · rw [List.cons_append, List.dedup_cons_of_mem (by simp [hab]), ih,
          List.filter_cons_of_neg (by simp [hab])]
      · rw [List.cons_append, List.dedup_cons_of_notMem (by simp [hab, hb]), ih,
          List.filter_cons_of_pos (by simp [hab]), List.cons_append]

/-- One of distinct members can be left out after the list has been cut or before, if the cut takes
it into account. -/
theorem take_filter_ne {l : List α} (hl : l.Nodup) (a : α) (k : Nat) :
    ((l.take (k + 1)).filter fun b => decide (b ≠ a)).take k
      = (l.filter fun b => decide (b ≠ a)).take k := by
  induction l generalizing k with
  | nil => simp
  | cons b l ih =>
    obtain ⟨hb, hl⟩ := List.nodup_cons.1 hl
    rw [List.take_succ_cons]
    by_cases hab : b = a
    · -- It does not occur again.
      have hall : ∀ l' : List α, l'.Sublist l → l'.filter (fun b => decide (b ≠ a)) = l' := by
        intro l' hsub
        refine List.filter_eq_self.2 fun c hc => decide_eq_true ?_
        rintro rfl
        exact hb (hab ▸ hsub.subset hc)
      rw [List.filter_cons_of_neg (by simp [hab]), List.filter_cons_of_neg (by simp [hab]),
        hall _ (List.take_sublist k l), hall l (List.Sublist.refl l), List.take_take, Nat.min_self]
    · rw [List.filter_cons_of_pos (by simp [hab]), List.filter_cons_of_pos (by simp [hab])]
      cases k with
      | zero => rfl
      | succ k => rw [List.take_succ_cons, List.take_succ_cons, ih hl k]

end Distinct

namespace AddressCache

/-! ### Answers -/

/-- The address of an endpoint without a cache: the IP address that its host is the text of, or
what the system finds for it. -/
def plainLookup (system : SystemLookup) (e : Endpoint) : Except AddressError SocketAddress :=
  match IpAddress.parse? e.host with
  | some ip => .ok (.ofIp ip e.port)
  | none =>
    match system e with
    | some a => .ok a
    | none => .error (.unresolvable e.key)

/-- The address of an endpoint that is given as a text, without a cache. -/
def plainLookupText (system : SystemLookup) (text : String) : Except AddressError SocketAddress :=
  match Endpoint.parse text with
  | .ok e => plainLookup system e
  | .error err => .error err

/-- Whatever is held for an endpoint would be found now. -/
def Truthful (system : SystemLookup) (c : AddressCache) : Prop :=
  ∀ (e : Endpoint) a, c.find? e.key = some a → plainLookup system e = .ok a

variable {system : SystemLookup} {c cache : AddressCache} {e : Endpoint} {a : SocketAddress}

theorem plainLookup_of_literal {ip : IpAddress} (h : IpAddress.parse? e.host = some ip)
    (system : SystemLookup) : plainLookup system e = .ok (.ofIp ip e.port) := by
  simp only [plainLookup, h]

theorem plainLookup_of_name (h : IpAddress.parse? e.host = none) :
    plainLookup system e = .ok a ↔ system e = some a := by
  simp only [plainLookup, h]
  cases system e <;> simp

theorem truthful_ofCapacity (system : SystemLookup) (capacity : Nat) :
    (ofCapacity capacity).Truthful system := by
  intro e a ha
  cases ha

/-- A cache stays truthful if what is put in would be found. -/
theorem Truthful.record (h : c.Truthful system) (ha : plainLookup system e = .ok a) :
    (c.record e.key a).Truthful system := by
  intro e' a' ha'
  rcases find?_record ha' with ⟨hkey, rfl⟩ | ha'
  · obtain rfl := Endpoint.key_injective hkey
    exact ha
  · exact h e' a' ha'

/-- If the system is asked, the answer is that without a cache. -/
theorem Truthful.lookup_eq (h : c.Truthful system) (e : Endpoint) :
    c.lookup system e = (plainLookup system e,
      match plainLookup system e with
      | .ok a => c.record e.key a
      | .error _ => c) := by
  unfold lookup resolve
  cases hheld : c.find? e.key with
  | some held =>
    rw [h e held hheld]
  | none =>
    unfold plainLookup
    cases IpAddress.parse? e.host with
    | some ip => rfl
    | none => cases system e <;> rfl

theorem Truthful.lookup_eq_ok_iff (h : c.Truthful system) :
    c.lookup system e = (.ok a, cache) ↔
      plainLookup system e = .ok a ∧ cache = c.record e.key a := by
  rw [h.lookup_eq e, Prod.mk.injEq]
  refine and_congr_right fun ha => ?_
  rw [ha]
  exact eq_comm

theorem Truthful.lookupText_eq (h : c.Truthful system) (text : String) :
    (c.lookupText system text).1 = plainLookupText system text := by
  unfold AddressCache.lookupText plainLookupText
  cases Endpoint.parse text with
  | error err => rfl
  | ok e => exact congrArg Prod.fst (h.lookup_eq e)

/-- What is found without asking the system is found with asking it. -/
theorem lookup_of_resolve (h : c.resolve e = (.ok a, cache)) (system : SystemLookup) :
    c.lookup system e = (.ok a, cache) := by
  rw [lookup, h]

theorem Truthful.of_resolve (h : c.Truthful system) (hresolve : (c.resolve e).1 = .ok a) :
    plainLookup system e = .ok a :=
  (h.lookup_eq_ok_iff.1 (lookup_of_resolve (Prod.ext hresolve rfl) system)).1

/-- Without asking the system only the text of an IP address is known, and what is held. -/
theorem resolve_eq_ok_iff :
    (∃ a, (c.resolve e).1 = .ok a) ↔
      c.contains e = true ∨ (IpAddress.parse? e.host).isSome = true := by
  unfold resolve contains
  cases c.find? e.key with
  | some held => simp
  | none => cases IpAddress.parse? e.host <;> simp

/-- The text of an IP address leads to this address. -/
theorem Truthful.resolve_literal (h : c.Truthful system) {ip : IpAddress}
    (hip : IpAddress.parse? e.host = some ip) : (c.resolve e).1 = .ok (.ofIp ip e.port) := by
  obtain ⟨a, hresolve⟩ := resolve_eq_ok_iff.2 (.inr (Option.isSome_iff_exists.2 ⟨ip, hip⟩))
  rw [hresolve, ← h.of_resolve hresolve, plainLookup_of_literal hip]

/-- Any other endpoint is reported as one whose address is not known. -/
theorem resolve_of_unknown (hheld : ¬ c.contains e = true)
    (hip : IpAddress.parse? e.host = none) :
    c.resolve e = (.error (.unresolvedHostname e.key), c) := by
  have hnone : c.find? e.key = none := by simpa [contains] using hheld
  simp only [resolve, hnone, hip]

/-! ### Queries -/

/-- What a cache can be asked. -/
inductive Query where
  /-- The address of an endpoint, without asking the system. -/
  | resolve (e : Endpoint)
  /-- The address of a node, without asking the system. -/
  | resolveNode (n : Node)
  /-- The address of an endpoint. -/
  | lookup (e : Endpoint)
  /-- The address of an endpoint that is given as a text. -/
  | lookupText (text : String)
  /-- Whether an answer is held for an endpoint. -/
  | contains (e : Endpoint)

/-- An endpoint, if an address has been found for it. -/
def found (e : Endpoint) (r : Except AddressError SocketAddress × AddressCache) :
    Option Endpoint × AddressCache :=
  (r.1.toOption.map fun _ => e, r.2)

namespace Query

/-- The endpoint for which a query has found an address, if it asks for one and succeeds, and the
cache afterwards. -/
def ask (system : SystemLookup) (c : AddressCache) : Query → Option Endpoint × AddressCache
  | resolve e => found e (c.resolve e)
  | resolveNode n => found n.endpoint (c.resolve n.endpoint)
  | lookup e => found e (c.lookup system e)
  | lookupText text =>
    match Endpoint.parse text with
    | .ok e => found e (c.lookupText system text)
    | .error _ => (none, (c.lookupText system text).2)
  | contains _ => (none, c)

/-- The endpoint for which a query has found an address. -/
def found? (system : SystemLookup) (c : AddressCache) (q : Query) : Option Endpoint :=
  (q.ask system c).1

/-- The cache after a query. -/
def apply (system : SystemLookup) (c : AddressCache) (q : Query) : AddressCache :=
  (q.ask system c).2

end Query

/-- The cache after a sequence of queries. -/
def askAll (system : SystemLookup) (c : AddressCache) (qs : List Query) : AddressCache :=
  qs.foldl (Query.apply system) c

/-- The endpoints for which a sequence of queries has found an address, in order. -/
def uses (system : SystemLookup) (c : AddressCache) : List Query → List Endpoint
  | [] => []
  | q :: qs => (q.found? system c).toList ++ uses system (q.apply system c) qs

/-- The distinct endpoints among some, the latest first, up to a number. -/
def recent (n : Nat) (used : List Endpoint) : List Endpoint :=
  used.dedup.reverse.take n

variable {q : Query} {used : List Endpoint}

theorem found_eq_some {e' : Endpoint} {r : Except AddressError SocketAddress × AddressCache}
    (h : found e' r = (some e, cache)) : e' = e ∧ ∃ a, r = (.ok a, cache) := by
  obtain ⟨_ | a, c'⟩ := r <;> cases h
  exact ⟨rfl, a, rfl⟩

theorem found_eq_none {r : Except AddressError SocketAddress × AddressCache}
    (h : found e r = (none, cache)) : ∃ err, r = (.error err, cache) := by
  obtain ⟨err | _, c'⟩ := r <;> cases h
  exact ⟨err, rfl⟩

/-- Whatever finds an address finds the one that a lookup finds. -/
theorem lookup_of_ask (h : q.ask system c = (some e, cache)) :
    ∃ a, c.lookup system e = (.ok a, cache) := by
  cases q with
  | resolve e' =>
    obtain ⟨rfl, a, hresolve⟩ := found_eq_some h
    exact ⟨a, lookup_of_resolve hresolve system⟩
  | resolveNode n =>
    obtain ⟨rfl, a, hresolve⟩ := found_eq_some h
    exact ⟨a, lookup_of_resolve hresolve system⟩
  | lookup e' =>
    obtain ⟨rfl, hlookup⟩ := found_eq_some h
    exact hlookup
  | lookupText text =>
    simp only [Query.ask] at h
    split at h
    · next e' hparse =>
      obtain ⟨rfl, hlookup⟩ := found_eq_some h
      simpa only [lookupText, hparse] using hlookup
    · cases h
  | contains e' => cases h

/-- A query that finds no address leaves the cache as it is. -/
theorem cache_of_ask_none (h : q.ask system c = (none, cache)) : cache = c := by
  cases q with
  | resolve e' =>
    obtain ⟨err, hresolve⟩ := found_eq_none h
    exact cache_of_resolve_error hresolve
  | resolveNode n =>
    obtain ⟨err, hresolve⟩ := found_eq_none h
    exact cache_of_resolve_error hresolve
  | lookup e' =>
    obtain ⟨err, hlookup⟩ := found_eq_none h
    exact cache_of_lookup_error hlookup
  | lookupText text =>
    simp only [Query.ask] at h
    split at h
    · obtain ⟨err, hlookup⟩ := found_eq_none h
      exact cache_of_lookupText_error hlookup
    · next err hparse =>
      cases h
      rw [lookupText, hparse]
  | contains e' =>
    cases h
    rfl

/-- A query that finds an address uses it. -/
theorem Truthful.of_ask (h : c.Truthful system) (hask : q.ask system c = (some e, cache)) :
    ∃ a, plainLookup system e = .ok a ∧ cache = c.record e.key a := by
  obtain ⟨a, ha⟩ := lookup_of_ask hask
  exact ⟨a, h.lookup_eq_ok_iff.1 ha⟩

/-- One more use is the latest. -/
theorem recent_concat {n : Nat} (hn : 0 < n) (used : List Endpoint) (e : Endpoint) :
    recent n (used ++ [e]) = (e :: (recent n used).filter fun e' => decide (e' ≠ e)).take n := by
  obtain ⟨k, rfl⟩ : ∃ k, n = k + 1 := ⟨n - 1, by omega⟩
  have hnodup : used.dedup.reverse.Nodup := List.nodup_reverse.2 (List.nodup_dedup used)
  rw [recent, dedup_concat, List.reverse_concat, ← List.filter_reverse, List.take_succ_cons,
    List.take_succ_cons, recent, take_filter_ne hnodup]

/-- What a cache holds after some uses: the answers for the latest of them. -/
structure Recalls (system : SystemLookup) (used : List Endpoint) (c : AddressCache) : Prop where
  /-- Whatever is held would be found now. -/
  truthful : c.Truthful system
  /-- The endpoints used last are held, the latest first. -/
  keys : c.entries.map Prod.fst = (recent c.capacity used).map Endpoint.key

theorem recalls_ofCapacity (system : SystemLookup) (capacity : Nat) :
    (ofCapacity capacity).Recalls system [] :=
  ⟨truthful_ofCapacity system capacity, by simp [ofCapacity, recent]⟩

/-- A cache recalls what it has recorded. -/
theorem Recalls.record (h : c.Recalls system used) (ha : plainLookup system e = .ok a) :
    (c.record e.key a).Recalls system (used ++ [e]) := by
  refine ⟨h.truthful.record ha, ?_⟩
  -- Their texts tell endpoints apart, so leaving out one is leaving out the other.
  have hother : ∀ l : List Endpoint, (l.map Endpoint.key).filter (fun key => decide (key ≠ e.key))
      = (l.filter fun e' => decide (e' ≠ e)).map Endpoint.key := by
    intro l
    rw [List.filter_map]
    refine congrArg _ (List.filter_congr fun e' _ => decide_eq_decide.2 (not_congr ?_))
    exact ⟨fun hkey => Endpoint.key_injective hkey, congrArg Endpoint.key⟩
  have hkeys : (c.entries.filter fun entry => decide (entry.1 ≠ e.key)).map Prod.fst
      = (c.entries.map Prod.fst).filter fun key => decide (key ≠ e.key) := by
    rw [List.filter_map]
    rfl
  show List.map Prod.fst (List.take c.capacity (_ :: _)) = (recent c.capacity (used ++ [e])).map _
  rw [recent_concat c.capacity_pos, List.map_take, List.map_take, List.map_cons, List.map_cons,
    hkeys, h.keys, hother]

/-- A query adds to the uses the endpoint for which it finds an address. -/
theorem recalls_apply (h : c.Recalls system used) (q : Query) :
    (q.apply system c).Recalls system (used ++ (q.found? system c).toList) ∧
      (q.apply system c).capacity = c.capacity := by
  unfold Query.apply Query.found?
  rcases hask : q.ask system c with ⟨_ | e, cache⟩
  · obtain rfl := cache_of_ask_none hask
    rw [Option.toList_none, List.append_nil]
    exact ⟨h, rfl⟩
  · obtain ⟨a, ha, rfl⟩ := h.truthful.of_ask hask
    exact ⟨h.record ha, rfl⟩

theorem recalls_askAll (h : c.Recalls system used) (qs : List Query) :
    (c.askAll system qs).Recalls system (used ++ c.uses system qs) ∧
      (c.askAll system qs).capacity = c.capacity := by
  induction qs generalizing c used with
  | nil =>
    rw [uses, List.append_nil]
    exact ⟨h, rfl⟩
  | cons q qs ih =>
    obtain ⟨hone, hcapacity⟩ := recalls_apply h q
    obtain ⟨hall, hcapacity'⟩ := ih hone
    rw [uses, ← List.append_assoc]
    exact ⟨hall, hcapacity'.trans hcapacity⟩

/-! ### What is held -/

/-- An answer is held for an endpoint if its text is among those of the entries. -/
theorem contains_iff_mem : c.contains e = true ↔ e.key ∈ c.entries.map Prod.fst := by
  rw [contains, Option.isSome_iff_exists, List.mem_map]
  constructor
  · rintro ⟨a, ha⟩
    exact ⟨_, AddressCache.find?_eq_some_iff.1 ha, rfl⟩
  · rintro ⟨⟨key, a⟩, ha, rfl⟩
    exact ⟨a, AddressCache.find?_eq_some_iff.2 ha⟩

theorem Recalls.contains_iff (h : c.Recalls system used) :
    c.contains e = true ↔ e ∈ recent c.capacity used := by
  rw [contains_iff_mem, h.keys, List.mem_map]
  constructor
  · rintro ⟨e', he', hkey⟩
    exact Endpoint.key_injective hkey ▸ he'
  · intro he
    exact ⟨e, he, rfl⟩

theorem Recalls.find?_eq_some_iff (h : c.Recalls system used) :
    c.find? e.key = some a ↔ e ∈ recent c.capacity used ∧ plainLookup system e = .ok a := by
  rw [← h.contains_iff, contains, Option.isSome_iff_exists]
  constructor
  · intro ha
    exact ⟨⟨a, ha⟩, h.truthful e a ha⟩
  · rintro ⟨⟨b, hb⟩, ha⟩
    rw [hb, Except.ok.inj ((h.truthful e b hb).symm.trans ha)]

/-- **A cache cannot be told from none, and holds what was used last.**  After any queries to a new
cache it holds the answers for the distinct endpoints that queries have found an address for most
recently, as many as there is room for but at least one, the latest first.  A query that fails or
asks only what is held changes nothing.  The text of an IP address always leads to this address; if
the system may be asked, the answer is that without a cache, whatever has been asked before; and
otherwise the address of a name is known exactly if it is held, and is what the system finds.  No
two endpoints are held under one text. -/
theorem transparency (system : SystemLookup) (capacity : Nat) (qs : List Query) :
    let c := (ofCapacity capacity).askAll system qs
    let held := recent (max capacity 1) ((ofCapacity capacity).uses system qs)
    c.entries.map Prod.fst = held.map Endpoint.key ∧
      (∀ e a, c.find? e.key = some a ↔ e ∈ held ∧ plainLookup system e = .ok a) ∧
      (∀ e, c.contains e = true ↔ e ∈ held) ∧
      (∀ q : Query, q.found? system c = none → q.apply system c = c) ∧
      (∀ e ip, IpAddress.parse? e.host = some ip →
        (c.resolve e).1 = .ok (.ofIp ip e.port)) ∧
      (∀ e, (c.lookup system e).1 = plainLookup system e) ∧
      (∀ text, (c.lookupText system text).1 = plainLookupText system text) ∧
      (∀ e, IpAddress.parse? e.host = none →
        ((∃ a, (c.resolve e).1 = .ok a) ↔ e ∈ held) ∧
          (∀ a, (c.resolve e).1 = .ok a → system e = some a) ∧
          (e ∉ held → c.resolve e = (.error (.unresolvedHostname e.key), c))) ∧
      ∀ e e' : Endpoint, e.key = e'.key → e = e' := by
  intro c held
  obtain ⟨h, hcapacity⟩ :=
    recalls_askAll (recalls_ofCapacity system capacity) qs
  rw [List.nil_append] at h
  have hheld : recent c.capacity ((ofCapacity capacity).uses system qs) = held := by
    rw [show c.capacity = max capacity 1 from hcapacity]
  have hcontains : ∀ e, c.contains e = true ↔ e ∈ held := fun e => hheld ▸ h.contains_iff
  refine ⟨hheld ▸ h.keys, fun e a => hheld ▸ h.find?_eq_some_iff, hcontains, ?_, ?_,
    ?_, ?_, ?_, fun _ _ => Endpoint.key_injective⟩
  · intro q hq
    exact cache_of_ask_none (Prod.ext hq rfl)
  · exact fun _ _ => h.truthful.resolve_literal
  · intro e
    rw [h.truthful.lookup_eq]
  · exact h.truthful.lookupText_eq
  · intro e hip
    refine ⟨?_, ?_, ?_⟩
    · rw [resolve_eq_ok_iff, hcontains, hip]
      simp
    · intro a hresolve
      exact (plainLookup_of_name hip).1 (h.truthful.of_resolve hresolve)
    · intro he
      exact resolve_of_unknown (fun hin => he ((hcontains e).1 hin)) hip

end AddressCache
end NodeDiscovery
