/-!
# Finite maps

A finite map is a list of entries with pairwise distinct keys.  Entries stand in the order in
which their keys were last inserted, so a listing of the map is a history of it.

## Main definitions

* `Dict` — the map.
* `Dict.get?`, `Dict.insert`, `Dict.erase`, `Dict.filter`, `Dict.adjust` — its operations, each
  with the equation that says what `get?` finds afterwards.
-/

namespace NodeDiscovery

/-- A finite map, as a list of entries with pairwise distinct keys. -/
structure Dict (κ α : Type) where
  /-- The entries, the one inserted last at the end. -/
  entries : List (κ × α)
  /-- No two entries share a key. -/
  nodup_keys : (entries.map Prod.fst).Nodup

namespace Dict

variable {κ α : Type}

/-- The map without entries. -/
def empty : Dict κ α := ⟨[], by simp⟩

instance : Inhabited (Dict κ α) := ⟨empty⟩

/-- The keys, the one inserted last at the end. -/
def keys (d : Dict κ α) : List κ :=
  d.entries.map Prod.fst

/-- The values, the one inserted last at the end. -/
def values (d : Dict κ α) : List α :=
  d.entries.map Prod.snd

/-- The number of entries. -/
def size (d : Dict κ α) : Nat :=
  d.entries.length

/-- Keeps the entries that satisfy `p`. -/
def filter (p : κ → α → Bool) (d : Dict κ α) : Dict κ α where
  entries := d.entries.filter fun e => p e.1 e.2
  nodup_keys := d.nodup_keys.sublist (List.filter_sublist.map _)

variable [DecidableEq κ]

/-- The first value under a key in a list of entries. -/
def lookup (k : κ) : List (κ × α) → Option α
  | [] => none
  | (k', a) :: rest => if k' = k then some a else lookup k rest

/-- The value under a key. -/
def get? (d : Dict κ α) (k : κ) : Option α :=
  lookup k d.entries

/-- Whether there is a value under a key. -/
def contains (d : Dict κ α) (k : κ) : Bool :=
  (d.get? k).isSome

/-- Removes the value under a key. -/
def erase (k : κ) (d : Dict κ α) : Dict κ α :=
  d.filter fun k' _ => k' ≠ k

/-- Puts a value under a key, in place of any value that was there. -/
def insert (k : κ) (a : α) (d : Dict κ α) : Dict κ α where
  entries := (d.erase k).entries ++ [(k, a)]
  nodup_keys := by
    rw [List.map_append, List.nodup_append]
    refine ⟨(d.erase k).nodup_keys, by simp, ?_⟩
    intro x hx y hy
    simp only [List.map_cons, List.map_nil, List.mem_singleton] at hy
    subst hy
    obtain ⟨e, he, rfl⟩ := List.mem_map.1 hx
    simpa using (List.mem_filter.1 he).2

/-- Changes the value under a key, if there is one, and leaves it in its place. -/
def adjust (k : κ) (f : α → α) (d : Dict κ α) : Dict κ α where
  entries := d.entries.map fun e => if e.1 = k then (e.1, f e.2) else e
  nodup_keys := by
    have h : (fun e : κ × α => (if e.1 = k then (e.1, f e.2) else e).1) = Prod.fst := by
      funext e; split <;> rfl
    rw [List.map_map, show Prod.fst ∘ (fun e : κ × α => if e.1 = k then (e.1, f e.2) else e)
      = fun e => (if e.1 = k then (e.1, f e.2) else e).1 from rfl, h]
    exact d.nodup_keys

/-! ### What is found after an operation -/

@[simp] theorem get?_empty (k : κ) : (empty : Dict κ α).get? k = none := rfl

theorem lookup_append (k : κ) (l r : List (κ × α)) :
    lookup k (l ++ r) = (lookup k l).or (lookup k r) := by
  induction l with
  | nil => rfl
  | cons e l ih =>
    simp only [List.cons_append, lookup]
    split <;> simp [ih]

theorem lookup_filter_ne (k k' : κ) (l : List (κ × α)) :
    lookup k (l.filter fun e => decide (e.1 ≠ k')) = if k = k' then none else lookup k l := by
  induction l with
  | nil => simp [lookup]
  | cons e l ih =>
    by_cases he : e.1 = k'
    · rw [List.filter_cons_of_neg (by simp [he]), ih]
      by_cases hk : k = k'
      · simp [hk]
      · simp [lookup, he, hk, Ne.symm hk]
    · rw [List.filter_cons_of_pos (by simp [he])]
      simp only [lookup]
      by_cases hek : e.1 = k
      · simp [hek, show k ≠ k' from hek ▸ he]
      · rw [if_neg hek, if_neg hek, ih]

@[simp] theorem get?_erase (d : Dict κ α) (k k' : κ) :
    (d.erase k').get? k = if k = k' then none else d.get? k :=
  lookup_filter_ne k k' d.entries

@[simp] theorem get?_insert (d : Dict κ α) (k k' : κ) (a : α) :
    (d.insert k' a).get? k = if k = k' then some a else d.get? k := by
  show lookup k ((d.erase k').entries ++ [(k', a)]) = _
  rw [lookup_append, show lookup k (d.erase k').entries = (d.erase k').get? k from rfl, get?_erase]
  by_cases h : k = k'
  · simp [h, lookup]
  · simp [h, Ne.symm h, lookup]

end Dict
end NodeDiscovery
