import NodeDiscovery.Net.Endpoint

/-!
# The address cache

Endpoints are turned into socket addresses through a cache that holds a bounded number of answers
and forgets the one used least recently.  While peers are talked to, only remembered answers and
the texts of IP addresses count, so that no message can make the program wait for a name service;
names are looked up for bootstrap entries, before any peer is heard.

## Main definitions

* `AddressCache` — the answers, the one used last first.
* `AddressCache.resolve` — the address of an endpoint without a look-up.
* `AddressCache.lookup`, `AddressCache.lookupText` — with a look-up for names.

An endpoint that leads to no address leaves the cache as it is
(`AddressCache.cache_of_resolve_error` and its two companions).
-/

namespace NodeDiscovery

/-- How the system finds an address for an endpoint whose host is a name. -/
abbrev SystemLookup := Endpoint → Option SocketAddress

/-- Answers by the text of their endpoint, the one used last first. -/
structure AddressCache where
  /-- How many answers are held at most. -/
  capacity : Nat
  /-- The answers under the text of their endpoint, the one used last first. -/
  entries : List (String × SocketAddress)
  /-- At least one answer is held. -/
  capacity_pos : 0 < capacity
  /-- No more answers are held than there is room for. -/
  length_le : entries.length ≤ capacity
  /-- No text occurs twice. -/
  nodup_keys : (entries.map Prod.fst).Nodup

namespace AddressCache

/-- The number of answers held where nothing else is asked for. -/
def defaultCapacity : Nat := 200

/-- A cache for the given number of answers, at least one. -/
def ofCapacity (capacity : Nat) : AddressCache where
  capacity := max capacity 1
  entries := []
  capacity_pos := by omega
  length_le := by simp
  nodup_keys := by simp

instance : Inhabited AddressCache := ⟨ofCapacity defaultCapacity⟩

/-- The number of answers held. -/
def size (c : AddressCache) : Nat :=
  c.entries.length

/-- The answer held under a text. -/
def find? (c : AddressCache) (key : String) : Option SocketAddress :=
  (c.entries.find? (·.1 = key)).map Prod.snd

/-- Whether an answer for an endpoint is held.  Asking does not count as a use. -/
def contains (c : AddressCache) (e : Endpoint) : Bool :=
  (c.find? e.key).isSome

/-- Puts an answer first, in place of any other under its text, and forgets the last one when
there is no room. -/
def record (key : String) (a : SocketAddress) (c : AddressCache) : AddressCache where
  capacity := c.capacity
  entries := ((key, a) :: c.entries.filter fun e => e.1 ≠ key).take c.capacity
  capacity_pos := c.capacity_pos
  length_le := by
    rw [List.length_take]
    exact Nat.min_le_left _ _
  nodup_keys := by
    refine List.Nodup.sublist ((List.take_sublist _ _).map Prod.fst) ?_
    rw [List.map_cons, List.nodup_cons]
    refine ⟨?_, c.nodup_keys.sublist (List.filter_sublist.map _)⟩
    intro h
    obtain ⟨e, he, hk⟩ := List.mem_map.1 h
    simpa [hk] using (List.mem_filter.1 he).2

/-- The address of an endpoint: the answer held for it, or the IP address that its host is the
text of.  Success counts as a use. -/
def resolve (e : Endpoint) (c : AddressCache) :
    Except AddressError SocketAddress × AddressCache :=
  match c.find? e.key with
  | some a => (.ok a, c.record e.key a)
  | none =>
    match IpAddress.parse? e.host with
    | some ip => (.ok (.ofIp ip e.port), c.record e.key (.ofIp ip e.port))
    | none => (.error (.unresolvedHostname e.key), c)

/-- Like `resolve`, but asks the system about a host that is a name, and remembers the answer. -/
def lookup (system : SystemLookup) (e : Endpoint) (c : AddressCache) :
    Except AddressError SocketAddress × AddressCache :=
  match c.resolve e with
  | (.ok a, c) => (.ok a, c)
  | (.error _, c) =>
    match system e with
    | some a => (.ok a, c.record e.key a)
    | none => (.error (.unresolvable e.key), c)

/-- The address of an endpoint given as a text. -/
def lookupText (system : SystemLookup) (text : String) (c : AddressCache) :
    Except AddressError SocketAddress × AddressCache :=
  match Endpoint.parse text with
  | .ok e => c.lookup system e
  | .error err => (.error err, c)

/-! ### Failure -/

variable {c c' : AddressCache} {e : Endpoint} {err : AddressError} {system : SystemLookup}

/-- An endpoint without an address leaves the cache as it is. -/
theorem cache_of_resolve_error (h : c.resolve e = (.error err, c')) : c' = c := by
  unfold resolve at h
  split at h
  · cases h
  · split at h <;> cases h
    rfl

theorem cache_of_lookup_error (h : c.lookup system e = (.error err, c')) : c' = c := by
  unfold lookup at h
  split at h
  · cases h
  · next hresolve =>
    obtain rfl := cache_of_resolve_error hresolve
    split at h <;> cases h
    rfl

theorem cache_of_lookupText_error {text : String}
    (h : c.lookupText system text = (.error err, c')) : c' = c := by
  unfold lookupText at h
  split at h
  · exact cache_of_lookup_error h
  · cases h
    rfl

end AddressCache
end NodeDiscovery
