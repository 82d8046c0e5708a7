import NodeDiscovery.Explorer.State
import NodeDiscovery.Proofs.AddressText

/-!
# What is remembered for an endpoint

An endpoint whose host is the text of an IP address has just one address, and the cache never says
anything else: it does not matter whether the answer is remembered, or which answers have been
forgotten since.  The system is asked about other hosts only.  So a peer that is kept at the
endpoint of an observed address is reached at that address again.

## Main definitions

* `AddressCache.Faithful` — what is remembered for the text of an IP address is this address.

## Main results

* `AddressCache.Faithful.resolve`, `AddressCache.Faithful.lookup` — looking an endpoint up keeps the
  cache faithful.
* `AddressCache.Faithful.resolve_ofAddress` — the endpoint of an address leads back to it.
* `Explorer.faithful_create` — the bootstrap entries leave the cache faithful.
-/

namespace NodeDiscovery
namespace AddressCache

/-- What is remembered for an endpoint whose host is the text of an IP address is this address. -/
def Faithful (c : AddressCache) : Prop :=
  ∀ (endpoint : Endpoint) ip a, IpAddress.parse? endpoint.host = some ip →
    c.find? endpoint.key = some a → a = .ofIp ip endpoint.port

variable {c cache : AddressCache} {endpoint : Endpoint} {a : SocketAddress}

/-- An answer is held under a text exactly if it is among the entries, since no text occurs
twice. -/
theorem find?_eq_some_iff {key : String} : c.find? key = some a ↔ (key, a) ∈ c.entries := by
  have hkeys := c.nodup_keys
  unfold find?
  generalize c.entries = entries at hkeys
  induction entries with
  | nil => simp
  | cons entry entries ih =>
    obtain ⟨key', a'⟩ := entry
    obtain ⟨hnew, hkeys⟩ := List.nodup_cons.1 hkeys
    by_cases hkey : key' = key
    · subst hkey
      have hlater : (key', a) ∉ entries :=
        fun hin => hnew (List.mem_map.2 ⟨(key', a), hin, rfl⟩)
      simp [hlater, eq_comm]
    · have hne : (key, a) ≠ (key', a') := fun h => hkey (congrArg Prod.fst h).symm
      simpa [List.find?_cons, hkey, hne] using ih hkeys

/-- What is held after an answer was put in is this answer or was held before. -/
theorem find?_record {key key' : String} {a' : SocketAddress}
    (h : (c.record key a).find? key' = some a') :
    key' = key ∧ a' = a ∨ c.find? key' = some a' := by
  rw [find?_eq_some_iff] at h ⊢
  rcases List.mem_cons.1 (List.mem_of_mem_take h) with h | h
  · cases h
    exact .inl ⟨rfl, rfl⟩
  · exact .inr (List.mem_filter.1 h).1

theorem faithful_ofCapacity (capacity : Nat) : (ofCapacity capacity).Faithful := by
  intro endpoint ip a _ ha
  cases ha

/-- A cache stays faithful if the address put in is the right one for the text of an IP address. -/
theorem Faithful.record (h : c.Faithful)
    (ha : ∀ ip, IpAddress.parse? endpoint.host = some ip → a = .ofIp ip endpoint.port) :
    (c.record endpoint.key a).Faithful := by
  intro endpoint' ip a' hip ha'
  rcases find?_record ha' with ⟨hkey, rfl⟩ | ha'
  · -- The text of an endpoint determines it.
    obtain rfl := Endpoint.key_injective hkey
    exact ha ip hip
  · exact h endpoint' ip a' hip ha'

/-- Looking an endpoint up keeps a cache faithful. -/
theorem Faithful.resolve (h : c.Faithful) (hresolve : c.resolve endpoint = (.ok a, cache)) :
    cache.Faithful := by
  unfold AddressCache.resolve at hresolve
  split at hresolve
  · next held hheld =>
    cases hresolve
    exact h.record fun ip hip => h endpoint ip a hip hheld
  · split at hresolve
    · next ip hip =>
      cases hresolve
      refine h.record fun ip' hip' => ?_
      rw [hip] at hip'
      cases hip'
      rfl
    · cases hresolve

/-- The host of an endpoint whose address is not known is not the text of an IP address. -/
theorem parse?_of_resolve_error {error : AddressError}
    (hresolve : c.resolve endpoint = (.error error, cache)) :
    IpAddress.parse? endpoint.host = none := by
  unfold AddressCache.resolve at hresolve
  split at hresolve
  · cases hresolve
  · split at hresolve
    · cases hresolve
    · assumption

theorem Faithful.lookup (h : c.Faithful) {system : SystemLookup}
    (hlookup : c.lookup system endpoint = (.ok a, cache)) : cache.Faithful := by
  unfold AddressCache.lookup at hlookup
  split at hlookup
  · next b c' hresolve =>
    cases hlookup
    exact h.resolve hresolve
  · next error c' hresolve =>
    obtain rfl := cache_of_resolve_error hresolve
    split at hlookup
    · cases hlookup
      refine h.record fun ip hip => ?_
      -- The system is not asked about the text of an IP address.
      rw [parse?_of_resolve_error hresolve] at hip
      cases hip
    · cases hlookup

theorem Faithful.lookupText (h : c.Faithful) {system : SystemLookup} {text : String}
    (hlookup : c.lookupText system text = (.ok a, cache)) : cache.Faithful := by
  unfold AddressCache.lookupText at hlookup
  split at hlookup
  · exact h.lookup hlookup
  · cases hlookup

/-- The endpoint of an address leads back to the address, up to its scope. -/
theorem Faithful.resolve_ofAddress (h : c.Faithful) (a : SocketAddress) :
    c.resolve (.ofAddress a)
      = (.ok (.ofIp a.ip a.port), c.record (Endpoint.ofAddress a).key (.ofIp a.ip a.port)) := by
  have hip : IpAddress.parse? (Endpoint.ofAddress a).host = some a.ip := IpAddress.parse?_text a.ip
  unfold AddressCache.resolve
  cases hheld : c.find? (Endpoint.ofAddress a).key with
  | some held =>
    obtain rfl := h (.ofAddress a) a.ip held hip hheld
    rfl
  | none => simp only [hip]; rfl

end AddressCache

namespace Explorer

theorem faithful_lookupAll (system : SystemLookup) (texts : List String) {c : AddressCache}
    (h : c.Faithful) (found : AddressSet) : (lookupAll system texts c found).1.Faithful := by
  induction texts generalizing c found with
  | nil => exact h
  | cons text texts ih =>
    unfold lookupAll
    split
    · next a cache hlookup => exact ih (h.lookupText hlookup) _
    · next error cache hlookup =>
      obtain rfl := AddressCache.cache_of_lookupText_error hlookup
      exact ih h found

/-- The bootstrap entries leave the cache faithful. -/
theorem faithful_create (config : Config) (system : SystemLookup) (random : RandomSource) :
    (create config system random).addresses.Faithful :=
  faithful_lookupAll system _ (AddressCache.faithful_ofCapacity _) _

end Explorer
end NodeDiscovery
