import Mathlib.Data.List.Nodup
import Mathlib.Data.List.Sort
import NodeDiscovery.Net.SocketAddress

/-!
# Sets of addresses

The numbers by which addresses are ordered determine the address, so that of two addresses one
comes first unless they are the same.  An address that is put into a set is therefore in it
afterwards, wherever its place is, and a set lists none of its members twice.

## Main results

* `SocketAddress.sortKey_injective` — the order tells all addresses apart.
* `AddressSet.mem_insert` — the members after an address has been added.
* `AddressSet.ext_mem` — a set is determined by its members.
* `AddressSet.nodup_toList`, `AddressSet.length_insert_le` — how many there are.
-/

namespace NodeDiscovery

namespace SocketAddress

/-- The order tells all addresses apart. -/
theorem sortKey_injective : Function.Injective sortKey := by
  intro a b h
  cases a with
  | v4 ip port =>
    cases b with
    | v4 ip' port' =>
      obtain ⟨a, b, c, d⟩ := ip
      obtain ⟨a', b', c', d'⟩ := ip'
      simpa [sortKey, Ipv4.octets, UInt8.toNat_inj, UInt16.toNat_inj, and_assoc] using h
    | v6 ip' port' scope' => simp [sortKey] at h
  | v6 ip port scope =>
    cases b with
    | v4 ip' port' => simp [sortKey] at h
    | v6 ip' port' scope' =>
      have hlength : (ip.groups.map UInt16.toNat).length = (ip'.groups.map UInt16.toNat).length := by
        rw [List.length_map, List.length_map, ip.length_groups, ip'.length_groups]
      obtain ⟨hgroups, hrest⟩ := List.append_inj (List.cons.inj h).2 hlength
      have hip : ip.groups = ip'.groups :=
        List.map_injective_iff.2 (fun _ _ => UInt16.toNat_inj.1) hgroups
      cases ip
      cases ip'
      simpa [UInt16.toNat_inj, UInt32.toNat_inj] using And.intro hip hrest

/-- Of two addresses one comes first unless they are the same. -/
theorem eq_of_not_lt {a b : SocketAddress} (h : ¬ a < b) (h' : ¬ b < a) : a = b :=
  sortKey_injective (List.le_antisymm (List.not_lt.1 h') (List.not_lt.1 h))

theorem lt_irrefl (a : SocketAddress) : ¬ a < a :=
  List.lt_irrefl a.sortKey

instance : Std.Irrefl fun a b : SocketAddress => a < b :=
  ⟨lt_irrefl⟩

instance : Std.Antisymm fun a b : SocketAddress => a < b :=
  ⟨fun a _ hab hba => absurd (List.lt_trans (α := Nat) hab hba) (lt_irrefl a)⟩

end SocketAddress

namespace AddressSet

variable {s t : AddressSet} {a x : SocketAddress}

/-- A set is determined by the list of its members. -/
theorem ext_toList (h : s.toList = t.toList) : s = t := by
  obtain ⟨l, _⟩ := s
  obtain rfl : l = t.toList := h
  rfl

theorem mem_insertSorted_iff {l : List SocketAddress} : x ∈ insertSorted a l ↔ x = a ∨ x ∈ l := by
  refine ⟨mem_insertSorted, ?_⟩
  induction l with
  | nil => simp [insertSorted]
  | cons b l ih =>
    intro h
    unfold insertSorted
    split
    · exact List.mem_cons.2 h
    · next hab =>
      split
      · rw [List.mem_cons] at h ⊢
        rcases h with rfl | rfl | h
        · exact .inr (ih (.inl rfl))
        · exact .inl rfl
        · exact .inr (ih (.inr h))
      · next hba =>
        obtain rfl := SocketAddress.eq_of_not_lt hab hba
        exact h.elim (fun h => h ▸ List.mem_cons_self) id

theorem length_insertSorted_le (a : SocketAddress) (l : List SocketAddress) :
    (insertSorted a l).length ≤ l.length + 1 := by
  induction l with
  | nil => exact Nat.le_refl 1
  | cons b l ih =>
    unfold insertSorted
    split
    · exact Nat.le_refl _
    · split
      · exact Nat.succ_le_succ ih
      · exact Nat.le_succ _

/-- The members after an address has been added. -/
theorem mem_insert : x ∈ (s.insert a).toList ↔ x = a ∨ x ∈ s.toList :=
  mem_insertSorted_iff

/-- There is one more at most. -/
theorem length_insert_le (s : AddressSet) (a : SocketAddress) :
    (s.insert a).toList.length ≤ s.toList.length + 1 :=
  length_insertSorted_le a s.toList

/-- No member is listed twice. -/
theorem nodup_toList (s : AddressSet) : s.toList.Nodup := by
  refine s.ascending.imp ?_
  rintro a _ hlt rfl
  exact SocketAddress.lt_irrefl a hlt

/-- A set is determined by its members: they have one ascending order. -/
theorem ext_mem (h : ∀ a, a ∈ s.toList ↔ a ∈ t.toList) : s = t :=
  ext_toList (s.ascending.eq_of_mem_iff t.ascending h)

end AddressSet
end NodeDiscovery
