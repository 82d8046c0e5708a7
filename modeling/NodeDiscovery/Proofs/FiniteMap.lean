import NodeDiscovery.Dict

/-!
# The entries of a finite map

`Dict.get?` is the interface of a finite map, its list of entries the implementation.  Since no
two entries share a key, the two say the same, and every operation is known by what `get?` finds
after it.

## Main results

* `Dict.mem_entries` — the entries are what `get?` finds.
* `Dict.get?_filter`, `Dict.get?_adjust` — the equations of the operations that keep places.
* `Dict.values_perm_erase`, `Dict.size_erase` — what is left when an entry is removed.
-/

namespace NodeDiscovery
namespace Dict

variable {κ α : Type}

theorem filter_true (d : Dict κ α) : d.filter (fun _ _ => true) = d := by
  have hentries : (d.entries.filter fun _ => true) = d.entries :=
    List.filter_eq_self.2 fun _ _ => rfl
  unfold filter
  simp only [hentries]

theorem filter_filter (p q : κ → α → Bool) (d : Dict κ α) :
    (d.filter p).filter q = d.filter fun k a => p k a && q k a := by
  unfold filter
  simp only [List.filter_filter, Bool.and_comm]

/-- A condition on the values. -/
theorem values_filter (q : α → Bool) (d : Dict κ α) :
    (d.filter fun _ a => q a).values = d.values.filter q :=
  List.filter_map.symm

variable [DecidableEq κ]

/-! ### Entries, keys and values -/

theorem lookup_eq_some {k : κ} {a : α} : ∀ {l : List (κ × α)}, (l.map Prod.fst).Nodup →
    (lookup k l = some a ↔ (k, a) ∈ l) := by
  intro l
  induction l with
  | nil => simp [lookup]
  | cons e l ih =>
    intro hl
    rw [List.map_cons, List.nodup_cons] at hl
    obtain ⟨hnew, hl⟩ := hl
    by_cases he : e.1 = k
    · have hk : (k, a) ∉ l := fun h => hnew (List.mem_map.2 ⟨(k, a), h, he.symm⟩)
      subst he
      simp only [lookup, if_true, Option.some.injEq, List.mem_cons, hk, or_false]
      constructor
      · rintro rfl; rfl
      · intro h; rw [← h]
    · have hne : (k, a) ≠ e := fun h => he (h ▸ rfl)
      simp [lookup, he, ih hl, hne]

/-- The entries are what `get?` finds. -/
theorem mem_entries {d : Dict κ α} {k : κ} {a : α} :
    (k, a) ∈ d.entries ↔ d.get? k = some a :=
  (lookup_eq_some d.nodup_keys).symm

theorem mem_values {d : Dict κ α} {a : α} : a ∈ d.values ↔ ∃ k, d.get? k = some a := by
  unfold values
  rw [List.mem_map]
  constructor
  · rintro ⟨⟨k, b⟩, hmem, rfl⟩
    exact ⟨k, mem_entries.1 hmem⟩
  · rintro ⟨k, hk⟩
    exact ⟨(k, a), mem_entries.2 hk, rfl⟩

theorem contains_iff {d : Dict κ α} {k : κ} : d.contains k = true ↔ ∃ a, d.get? k = some a := by
  rw [contains, Option.isSome_iff_exists]

theorem contains_eq_false {d : Dict κ α} {k : κ} : d.contains k = false ↔ d.get? k = none := by
  rw [contains, Option.isSome_eq_false_iff, Option.isNone_iff_eq_none]

theorem mem_keys {d : Dict κ α} {k : κ} : k ∈ d.keys ↔ d.contains k = true := by
  unfold keys
  rw [List.mem_map, contains_iff]
  constructor
  · rintro ⟨⟨k', a⟩, hmem, rfl⟩
    exact ⟨a, mem_entries.1 hmem⟩
  · rintro ⟨a, ha⟩
    exact ⟨(k, a), mem_entries.2 ha, rfl⟩

/-! ### What is found after an operation -/

theorem get?_filter (p : κ → α → Bool) (d : Dict κ α) (k : κ) :
    (d.filter p).get? k = (d.get? k).filter (p k) := by
  apply Option.ext
  intro a
  have hiff : (d.filter p).get? k = some a ↔ d.get? k = some a ∧ p k a = true := by
    rw [← mem_entries, ← mem_entries, filter, List.mem_filter]
  rw [hiff, Option.filter_eq_some_iff]

theorem get?_filter_eq_some {p : κ → α → Bool} {d : Dict κ α} {k : κ} {a : α} :
    (d.filter p).get? k = some a ↔ d.get? k = some a ∧ p k a = true := by
  rw [get?_filter, Option.filter_eq_some_iff]

/-- Where two conditions agree on all entries, they keep the same ones. -/
theorem filter_congr {p q : κ → α → Bool} {d : Dict κ α}
    (h : ∀ k a, d.get? k = some a → p k a = q k a) : d.filter p = d.filter q := by
  have hentries : (d.entries.filter fun e => p e.1 e.2) = d.entries.filter fun e => q e.1 e.2 :=
    List.filter_congr fun e he => h e.1 e.2 (mem_entries.1 he)
  unfold filter
  simp only [hentries]

/-- Where all entries satisfy `p`, all of them are kept. -/
theorem filter_eq_self {p : κ → α → Bool} {d : Dict κ α}
    (h : ∀ k a, d.get? k = some a → p k a = true) : d.filter p = d :=
  (filter_congr h).trans (filter_true d)

theorem get?_erase_eq_some {d : Dict κ α} {k k' : κ} {a : α} :
    (d.erase k').get? k = some a ↔ k ≠ k' ∧ d.get? k = some a := by
  rw [get?_erase]
  by_cases h : k = k' <;> simp [h]

theorem lookup_adjust (k k' : κ) (f : α → α) (l : List (κ × α)) :
    lookup k' (l.map fun e => if e.1 = k then (e.1, f e.2) else e)
      = if k' = k then (lookup k' l).map f else lookup k' l := by
  induction l with
  | nil => simp [lookup]
  | cons e l ih =>
    rw [List.map_cons]
    by_cases he : e.1 = k
    · by_cases hk : k' = k
      · simp [lookup, he, hk]
      · simp [lookup, he, hk, Ne.symm hk, ih]
    · by_cases hk : k' = k
      · subst hk; simp [lookup, he, ih]
      · by_cases hek : e.1 = k' <;> simp [lookup, he, hk, hek, ih]

theorem get?_adjust (d : Dict κ α) (k k' : κ) (f : α → α) :
    (d.adjust k f).get? k' = if k' = k then (d.get? k').map f else d.get? k' :=
  lookup_adjust k k' f d.entries

@[simp] theorem contains_insert (d : Dict κ α) (k k' : κ) (a : α) :
    (d.insert k' a).contains k = (decide (k = k') || d.contains k) := by
  unfold contains
  rw [get?_insert]
  by_cases h : k = k' <;> simp [h]

@[simp] theorem contains_erase (d : Dict κ α) (k k' : κ) :
    (d.erase k').contains k = (!decide (k = k') && d.contains k) := by
  unfold contains
  rw [get?_erase]
  by_cases h : k = k' <;> simp [h]

/-! ### Values after an operation -/

/-- A value under a new key is added at the end. -/
theorem values_insert {d : Dict κ α} {k : κ} (h : d.get? k = none) (a : α) :
    (d.insert k a).values = d.values ++ [a] := by
  have hkept : (d.erase k).entries = d.entries := by
    refine List.filter_eq_self.2 fun entry hentry => decide_eq_true fun hk => ?_
    rw [← hk, mem_entries.1 hentry] at h
    cases h
  show List.map Prod.snd ((d.erase k).entries ++ [(k, a)]) = _
  rw [hkept, List.map_append]
  rfl

/-- A change of a value that `g` does not see. -/
theorem map_values_adjust {β : Type} (d : Dict κ α) (k : κ) {f : α → α} {g : α → β}
    (h : ∀ a, g (f a) = g a) : (d.adjust k f).values.map g = d.values.map g := by
  unfold values adjust
  rw [List.map_map, List.map_map, List.map_map]
  refine List.map_congr_left fun entry _ => ?_
  show g (if entry.1 = k then (entry.1, f entry.2) else entry).2 = g entry.2
  split
  · exact h entry.2
  · rfl

/-- The values are the one under a key and the others. -/
theorem values_perm_erase {d : Dict κ α} {k : κ} {a : α} (h : d.get? k = some a) :
    d.values.Perm (a :: (d.erase k).values) := by
  have hnodup : ∀ d : Dict κ α, d.entries.Nodup := fun d =>
    List.Pairwise.of_map Prod.fst (fun _ _ hne h => hne (congrArg Prod.fst h)) d.nodup_keys
  have hperm : d.entries.Perm ((k, a) :: (d.erase k).entries) := by
    refine (List.perm_ext_iff_of_nodup (hnodup d) (List.nodup_cons.2 ⟨?_, hnodup _⟩)).2 ?_
    · intro hmem
      exact (get?_erase_eq_some.1 (mem_entries.1 hmem)).1 rfl
    · rintro ⟨k', a'⟩
      rw [List.mem_cons, mem_entries, mem_entries, get?_erase_eq_some, Prod.mk.injEq]
      by_cases hk : k' = k
      · subst hk
        simp [h, eq_comm]
      · simp [hk]
  exact hperm.map Prod.snd

/-! ### Sizes -/

/-- An entry that is removed counts no more. -/
theorem size_erase {d : Dict κ α} {k : κ} {a : α} (h : d.get? k = some a) :
    (d.erase k).size + 1 = d.size := by
  have hlength := (values_perm_erase h).length_eq
  simpa only [values, size, List.length_map, List.length_cons] using hlength.symm

end Dict
end NodeDiscovery
