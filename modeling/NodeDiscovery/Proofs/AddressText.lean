import Mathlib.Tactic.IntervalCases
import NodeDiscovery.Net.Endpoint

/-!
# The texts of addresses

An IP address is read back from its text, and the text `host:port` of an endpoint determines both
parts, whatever the host is.  Both rest on the same two facts: digits are never separators, and a
text is cut again where its pieces were joined.

## Main results

* `Numeral.value_write`, `Numeral.readDecimal?_decimal` — numbers are read back from their digits.
* `splitAt_append`, `SocketAddress.cutAtLast_append` — pieces that were joined are cut apart again.
* `IpAddress.parse?_text` — an IP address is read back from its text.
* `Endpoint.key_injective` — an endpoint is determined by its text.
-/

namespace NodeDiscovery

/-! ### Digits -/

namespace Numeral

theorem digitValue?_digit {d : Nat} (h : d < 16) : Hex.digitValue? (Hex.digit d) = some d := by
  interval_cases d <;> decide

theorem isDigit_digit {d : Nat} (h : d < 10) : isDigit (Hex.digit d) = true := by
  interval_cases d <;> decide

theorem isHexDigit_digit {d : Nat} (h : d < 16) : isHexDigit (Hex.digit d) = true := by
  rw [isHexDigit, digitValue?_digit h]
  rfl

/-- The bound on the number of digits plays no role as long as it is large enough. -/
theorem writeBefore_eq {base : Nat} (hbase : 2 ≤ base) (n : Nat) :
    ∀ k, n < k → ∀ tail, writeBefore base k n tail = write base n ++ tail := by
  induction n using Nat.strong_induction_on with
  | _ n ih =>
    intro k hk tail
    obtain ⟨k, rfl⟩ : ∃ k', k = k' + 1 := ⟨k - 1, by omega⟩
    unfold write
    by_cases hn : n < base
    · simp [writeBefore, hn]
    · have hlt : n / base < n := Nat.div_lt_self (by omega) hbase
      simp only [writeBefore, if_neg hn]
      rw [ih _ hlt k (by omega), ih _ hlt n hlt]
      simp

theorem write_of_lt {base n : Nat} (h : n < base) : write base n = [Hex.digit n] := by
  simp [write, writeBefore, h]

theorem write_of_le {base n : Nat} (hbase : 2 ≤ base) (h : base ≤ n) :
    write base n = write base (n / base) ++ [Hex.digit (n % base)] := by
  have hlt : n / base < n := Nat.div_lt_self (by omega) hbase
  conv_lhs => rw [write, writeBefore, if_neg (by omega)]
  exact writeBefore_eq hbase (n / base) n hlt _

theorem value_concat (base : Nat) (l : List Char) (c : Char) :
    value base (l ++ [c]) = base * value base l + digitValue c := by
  simp [value]

/-- A number is read back from its digits. -/
theorem value_write {base : Nat} (hbase : 2 ≤ base) (hsixteen : base ≤ 16) (n : Nat) :
    value base (write base n) = n := by
  have hdigit : ∀ d, d < base → digitValue (Hex.digit d) = d := by
    intro d hd
    rw [digitValue, digitValue?_digit (by omega)]
    rfl
  induction n using Nat.strong_induction_on with
  | _ n ih =>
    by_cases hn : n < base
    · rw [write_of_lt hn]
      simp [value, hdigit n hn]
    · have hlt : n / base < n := Nat.div_lt_self (by omega) hbase
      rw [write_of_le hbase (by omega), value_concat, ih _ hlt,
        hdigit _ (Nat.mod_lt n (by omega)), Nat.div_add_mod]

/-- What holds of every digit of a base holds of all digits of a number. -/
theorem all_write {base : Nat} (hbase : 2 ≤ base) {p : Char → Bool}
    (hp : ∀ d, d < base → p (Hex.digit d) = true) (n : Nat) : (write base n).all p = true := by
  induction n using Nat.strong_induction_on with
  | _ n ih =>
    by_cases hn : n < base
    · rw [write_of_lt hn]
      simp [hp n hn]
    · have hlt : n / base < n := Nat.div_lt_self (by omega) hbase
      rw [write_of_le hbase (by omega), List.all_append, ih _ hlt]
      simp [hp _ (Nat.mod_lt n (show 0 < base by omega))]

theorem write_ne_nil (base n : Nat) (hbase : 2 ≤ base) : write base n ≠ [] := by
  by_cases hn : n < base
  · rw [write_of_lt hn]
    exact List.cons_ne_nil _ _
  · rw [write_of_le hbase (by omega)]
    exact List.append_ne_nil_of_right_ne_nil _ (List.cons_ne_nil _ _)

theorem length_write_le {base : Nat} (hbase : 2 ≤ base) (k : Nat) :
    ∀ n, n < base ^ (k + 1) → (write base n).length ≤ k + 1 := by
  induction k with
  | zero =>
    intro n hn
    rw [write_of_lt (by simpa using hn)]
    simp
  | succ k ih =>
    intro n hn
    by_cases hlt : n < base
    · rw [write_of_lt hlt]
      simp
    · have hdiv : n / base < base ^ (k + 1) := by
        rw [Nat.div_lt_iff_lt_mul (by omega), ← Nat.pow_succ]
        exact hn
      have hlength := ih _ hdiv
      rw [write_of_le hbase (by omega), List.length_append]
      simpa using hlength

theorem all_decimal (n : Nat) : (decimal n).all isDigit = true :=
  all_write (by decide) (fun _ hd => isDigit_digit hd) n

theorem readDecimal?_decimal (n : Nat) : readDecimal? (decimal n) = some n := by
  have hne : decimal n ≠ [] := write_ne_nil 10 n (by decide)
  rw [readDecimal?, if_pos ⟨hne, all_decimal n⟩, decimal, value_write (by decide) (by decide)]

theorem decimal_injective {n n' : Nat} (h : decimal n = decimal n') : n = n' := by
  have hread := readDecimal?_decimal n
  rw [h, readDecimal?_decimal] at hread
  exact (Option.some.inj hread).symm

/-- A character that is no digit does not occur in a number. -/
theorem notMem_decimal {c : Char} (hc : isDigit c = false) (n : Nat) : c ∉ decimal n := by
  intro hin
  have hdigit := List.all_eq_true.1 (all_decimal n) c hin
  rw [hc] at hdigit
  cases hdigit

end Numeral

/-! ### Cutting texts apart -/

theorem splitAt_of_notMem {sep : Char} {l : List Char} (h : sep ∉ l) : splitAt sep l = [l] := by
  induction l with
  | nil => rfl
  | cons c l ih =>
    rw [List.mem_cons, not_or] at h
    rw [splitAt, if_neg (Ne.symm h.1), ih h.2]

theorem splitAt_append {sep : Char} {l : List Char} (h : sep ∉ l) (r : List Char) :
    splitAt sep (l ++ sep :: r) = l :: splitAt sep r := by
  induction l with
  | nil => simp [splitAt]
  | cons c l ih =>
    rw [List.mem_cons, not_or] at h
    rw [List.cons_append, splitAt, if_neg (Ne.symm h.1), ih h.2]

/-- Every character but the separator stands in one of the pieces. -/
theorem mem_of_splitAt {sep c : Char} {l : List Char} (hc : c ∈ l) (hne : c ≠ sep) :
    ∃ piece ∈ splitAt sep l, c ∈ piece := by
  induction l with
  | nil => cases hc
  | cons b l ih =>
    rw [splitAt]
    by_cases hb : b = sep
    · rw [if_pos hb]
      rcases List.mem_cons.1 hc with rfl | hc
      · exact absurd hb hne
      · obtain ⟨piece, hpiece, hin⟩ := ih hc
        exact ⟨piece, List.mem_cons_of_mem _ hpiece, hin⟩
    · rw [if_neg hb]
      cases hsplit : splitAt sep l with
      | nil =>
        rw [hsplit] at ih
        rcases List.mem_cons.1 hc with rfl | hc
        · exact ⟨[c], List.mem_singleton.2 rfl, List.mem_singleton.2 rfl⟩
        · obtain ⟨piece, hpiece, -⟩ := ih hc
          cases hpiece
      | cons first rest =>
        rw [hsplit] at ih
        rcases List.mem_cons.1 hc with rfl | hc
        · exact ⟨c :: first, List.mem_cons_self, List.mem_cons_self⟩
        · obtain ⟨piece, hpiece, hin⟩ := ih hc
          rcases List.mem_cons.1 hpiece with rfl | hpiece
          · exact ⟨b :: piece, List.mem_cons_self, List.mem_cons_of_mem _ hin⟩
          · exact ⟨piece, List.mem_cons_of_mem _ hpiece, hin⟩

namespace SocketAddress

theorem cutAtLast_of_notMem {sep : Char} {l : List Char} (h : sep ∉ l) :
    cutAtLast sep l = none := by
  induction l with
  | nil => rfl
  | cons c l ih =>
    rw [List.mem_cons, not_or] at h
    rw [cutAtLast, ih h.2, if_neg (Ne.symm h.1)]

theorem cutAtLast_append {sep : Char} (l : List Char) {r : List Char} (h : sep ∉ r) :
    cutAtLast sep (l ++ sep :: r) = some (l, r) := by
  induction l with
  | nil => rw [List.nil_append, cutAtLast, cutAtLast_of_notMem h, if_pos rfl]
  | cons c l ih => rw [List.cons_append, cutAtLast, ih]

end SocketAddress

/-! ### IPv4 -/

namespace Ipv4

theorem readOctet?_decimal (n : UInt8) : readOctet? (Numeral.decimal n.toNat) = some n := by
  have hlt : n.toNat < 256 := n.toNat_lt
  rw [readOctet?, Numeral.readDecimal?_decimal]
  simp [hlt]

/-- An address is read back from its dotted form. -/
theorem parse?_render (ip : Ipv4) : parse? ip.render = some ip := by
  have hdot : ∀ n, '.' ∉ Numeral.decimal n := Numeral.notMem_decimal (by decide)
  have hpieces : splitAt '.' ip.render = [Numeral.decimal ip.a.toNat, Numeral.decimal ip.b.toNat,
      Numeral.decimal ip.c.toNat, Numeral.decimal ip.d.toNat] := by
    simp only [render, List.append_assoc, List.cons_append]
    rw [splitAt_append (hdot _), splitAt_append (hdot _), splitAt_append (hdot _),
      splitAt_of_notMem (hdot _)]
  simp [parse?, hpieces, readOctet?_decimal]

theorem notMem_render {c : Char} (hc : Numeral.isDigit c = false) (hdot : c ≠ '.') (ip : Ipv4) :
    c ∉ ip.render := by
  have hdigits := Numeral.notMem_decimal hc
  simp [render, hdigits, hdot]

/-- No text with a colon in it is a dotted form. -/
theorem parse?_of_colon {text : List Char} (h : ':' ∈ text) : parse? text = none := by
  have hoctet : ∀ piece, ':' ∈ piece → readOctet? piece = none := by
    intro piece hin
    have hnone : Numeral.readDecimal? piece = none := by
      rw [Numeral.readDecimal?, if_neg]
      rintro ⟨-, hall⟩
      exact absurd (List.all_eq_true.1 hall ':' hin) (by decide)
    rw [readOctet?, hnone]
  obtain ⟨piece, hpiece, hin⟩ := mem_of_splitAt h (show ':' ≠ '.' by decide)
  unfold parse?
  split
  · next a b c d hpieces =>
    split
    · next ha hb hc hd =>
      rw [hpieces] at hpiece
      simp only [List.mem_cons, List.not_mem_nil, or_false] at hpiece
      rcases hpiece with rfl | rfl | rfl | rfl
      · rw [hoctet _ hin] at ha; cases ha
      · rw [hoctet _ hin] at hb; cases hb
      · rw [hoctet _ hin] at hc; cases hc
      · rw [hoctet _ hin] at hd; cases hd
    · rfl
  · rfl

end Ipv4

/-! ### IPv6 -/

namespace Ipv6

theorem all_renderGroup (g : UInt16) : (renderGroup g).all Numeral.isHexDigit = true :=
  Numeral.all_write (by decide) (fun _ hd => Numeral.isHexDigit_digit hd) g.toNat

theorem notMem_renderGroup {c : Char} (hc : Numeral.isHexDigit c = false) (g : UInt16) :
    c ∉ renderGroup g := by
  intro hin
  have hdigit := List.all_eq_true.1 (all_renderGroup g) c hin
  rw [hc] at hdigit
  cases hdigit

theorem renderGroup_ne_nil (g : UInt16) : renderGroup g ≠ [] :=
  Numeral.write_ne_nil 16 g.toNat (by decide)

theorem readGroup?_renderGroup (g : UInt16) : readGroup? (renderGroup g) = some g := by
  have hlength : (renderGroup g).length ≤ 4 :=
    Numeral.length_write_le (by decide) 3 g.toNat g.toNat_lt
  have hvalue : Numeral.value 16 (renderGroup g) = g.toNat :=
    Numeral.value_write (by decide) (by decide) g.toNat
  rw [readGroup?, if_pos ⟨renderGroup_ne_nil g, hlength, all_renderGroup g⟩, hvalue,
    UInt16.ofNat_toNat]

theorem colon_notMem_renderGroup (g : UInt16) : ':' ∉ renderGroup g :=
  notMem_renderGroup (by decide) g

theorem renderGroups_cons (g g' : UInt16) (rest : List UInt16) :
    renderGroups (g :: g' :: rest) = renderGroup g ++ ':' :: renderGroups (g' :: rest) := rfl

/-- A text that starts with a group does not start with a colon. -/
theorem renderGroups_append_ne (g : UInt16) (rest : List UInt16) (t t' : List Char) :
    renderGroups (g :: rest) ++ t ≠ ':' :: t' := by
  have hgroup : ∃ t'', renderGroups (g :: rest) = renderGroup g ++ t'' := by
    cases rest with
    | nil => exact ⟨[], by simp [renderGroups]⟩
    | cons g' rest => exact ⟨_, renderGroups_cons g g' rest⟩
  obtain ⟨t'', hgroup⟩ := hgroup
  obtain ⟨c, digits, hdigits⟩ := List.exists_cons_of_ne_nil (renderGroup_ne_nil g)
  rw [hgroup, hdigits]
  intro h
  have hc : c = ':' := (List.cons.inj h).1
  exact colon_notMem_renderGroup g (hdigits ▸ hc ▸ List.mem_cons_self)

theorem pieces_renderGroups (groups : List UInt16) :
    pieces (renderGroups groups) = groups.map renderGroup := by
  have hsplit : ∀ (g : UInt16) (rest : List UInt16),
      splitAt ':' (renderGroups (g :: rest)) = (g :: rest).map renderGroup := by
    intro g rest
    induction rest generalizing g with
    | nil => exact splitAt_of_notMem (colon_notMem_renderGroup g)
    | cons g' rest ih =>
      rw [renderGroups_cons, splitAt_append (colon_notMem_renderGroup g), ih g']
      rfl
  cases groups with
  | nil => rfl
  | cons g rest =>
    have hne : renderGroups (g :: rest) ≠ [] := by
      cases rest with
      | nil => exact renderGroup_ne_nil g
      | cons g' rest => simp [renderGroups]
    rw [pieces, if_neg hne, hsplit]

theorem readGroups?_map (groups : List UInt16) :
    readGroups? (groups.map renderGroup) = some groups := by
  induction groups with
  | nil => rfl
  | cons g rest ih => simp [readGroups?, readGroup?_renderGroup, ih]

theorem readTail?_map (groups : List UInt16) :
    readTail? (groups.map renderGroup) = some groups := by
  induction groups with
  | nil => rfl
  | cons g rest ih =>
    cases rest with
    | nil => simp [readTail?, readGroup?_renderGroup]
    | cons g' rest => simp_all [readTail?, readGroup?_renderGroup]

/-! #### The gap -/

theorem cutAtGap_append {l : List Char} (hl : ':' ∉ l) (r : List Char) :
    cutAtGap (l ++ r) = (cutAtGap r).map fun cut => (l ++ cut.1, cut.2) := by
  induction l with
  | nil => simp
  | cons c l ih =>
    rw [List.mem_cons, not_or] at hl
    have hcons : cutAtGap (c :: (l ++ r))
        = (cutAtGap (l ++ r)).map fun cut => (c :: cut.1, cut.2) := by
      cases h : l ++ r with
      | nil => simp [cutAtGap]
      | cons c' rest => simp [cutAtGap, Ne.symm hl.1]
    rw [List.cons_append, hcons, ih hl.2, Option.map_map]
    rfl

/-- A colon that none follows is no gap. -/
theorem cutAtGap_colon {r : List Char} (hr : ∀ rest, r ≠ ':' :: rest) :
    cutAtGap (':' :: r) = (cutAtGap r).map fun cut => (':' :: cut.1, cut.2) := by
  cases r with
  | nil => simp [cutAtGap]
  | cons c rest =>
    have hc : c ≠ ':' := fun h => hr rest (h ▸ rfl)
    simp [cutAtGap, hc]

/-- There is no gap within groups, whatever follows them. -/
theorem cutAtGap_renderGroups (groups : List UInt16) (t : List Char) :
    cutAtGap (renderGroups groups ++ t)
      = (cutAtGap t).map fun cut => (renderGroups groups ++ cut.1, cut.2) := by
  induction groups with
  | nil => simp [renderGroups]
  | cons g rest ih =>
    cases rest with
    | nil => exact cutAtGap_append (colon_notMem_renderGroup g) t
    | cons g' rest =>
      rw [renderGroups_cons, List.append_assoc, List.cons_append,
        cutAtGap_append (colon_notMem_renderGroup g),
        cutAtGap_colon (renderGroups_append_ne g' rest t), ih, Option.map_map, Option.map_map]
      simp [Function.comp_def]

/-- A place in an address and a number of zero groups that stand there. -/
def IsZeroRun (groups : List UInt16) (run : Nat × Nat) : Prop :=
  run.1 + run.2 ≤ groups.length ∧ (groups.drop run.1).take run.2 = List.replicate run.2 0

theorem isZeroRun_zeroRun (groups : List UInt16) (at_ : Nat) (h : at_ ≤ groups.length) :
    IsZeroRun groups (at_, zeroRun (groups.drop at_)) := by
  have htake : (groups.drop at_).take (zeroRun (groups.drop at_))
      = (groups.drop at_).takeWhile (· == 0) :=
    (List.prefix_iff_eq_take.1 (List.takeWhile_prefix _)).symm
  have hlength := (List.takeWhile_prefix (l := groups.drop at_) (· == 0)).length_le
  rw [List.length_drop] at hlength
  refine ⟨by unfold zeroRun; omega, ?_⟩
  rw [htake, List.eq_replicate_iff]
  refine ⟨rfl, fun g hg => ?_⟩
  simpa using List.all_eq_true.1 List.all_takeWhile g hg

/-- The longest run of zero groups is one. -/
theorem isZeroRun_longest (groups : List UInt16) :
    ∀ (n at_ : Nat) (best : Nat × Nat), at_ + n = groups.length → IsZeroRun groups best →
      IsZeroRun groups (longestZeroRun (groups.drop at_) at_ best) := by
  intro n
  induction n with
  | zero =>
    intro at_ best hat hbest
    rw [List.drop_of_length_le (by omega)]
    exact hbest
  | succ n ih =>
    intro at_ best hat hbest
    have hlt : at_ < groups.length := by omega
    have hrun := isZeroRun_zeroRun groups at_ (by omega)
    rw [List.drop_eq_getElem_cons hlt] at hrun ⊢
    rw [longestZeroRun]
    refine ih (at_ + 1) _ (by omega) ?_
    split
    · exact hrun
    · exact hbest

/-- An address is its groups before a run of zeros, the zeros, and its groups after them. -/
theorem IsZeroRun.eq_append {groups : List UInt16} {run : Nat × Nat} (h : IsZeroRun groups run) :
    groups.take run.1 ++ List.replicate run.2 0 ++ groups.drop (run.1 + run.2) = groups := by
  rw [← h.2, ← List.drop_drop, List.append_assoc, List.take_append_drop, List.take_append_drop]

theorem ofGroups?_groups (ip : Ipv6) : ofGroups? ip.groups = some ip := by
  rw [ofGroups?, dif_pos ip.length_groups]

/-! #### Addresses that stand for IPv4 ones -/

theorem word_eq (g : UInt16) :
    UInt16.ofNat (256 * (g >>> 8).toUInt8.toNat + g.toUInt8.toNat) = g := by
  have hlt : g.toNat < 65536 := g.toNat_lt
  have hhigh : (g >>> 8).toUInt8.toNat = g.toNat / 256 := by
    simp [Nat.shiftRight_eq_div_pow]
    omega
  have hlow : g.toUInt8.toNat = g.toNat % 256 := by simp
  rw [hhigh, hlow, Nat.div_add_mod, UInt16.ofNat_toNat]

/-- The IPv4 address that an address stands for has its last two groups. -/
theorem groups_of_mapped {ip : Ipv6} {v4 : Ipv4} (h : ip.mappedIpv4? = some v4) :
    ip.groups = [0, 0, 0, 0, 0, 0xffff] ++ v4.toGroups := by
  unfold mappedIpv4? at h
  split at h
  · next g h' hgroups =>
    cases h
    rw [hgroups, Ipv4.toGroups, word_eq, word_eq]
    rfl
  · cases h

/-! #### Reading what was written -/

theorem parse?_mapped {ip : Ipv6} {v4 : Ipv4} (h : ip.mappedIpv4? = some v4) :
    parse? ([':', ':', 'f', 'f', 'f', 'f', ':'] ++ v4.render) = some ip := by
  have hcolon : ':' ∉ v4.render := Ipv4.notMem_render (by decide) (by decide) v4
  have hpieces : pieces (['f', 'f', 'f', 'f', ':'] ++ v4.render)
      = [['f', 'f', 'f', 'f'], v4.render] := by
    have hsplit := @splitAt_append ':' ['f', 'f', 'f', 'f'] (by decide) v4.render
    rw [splitAt_of_notMem hcolon] at hsplit
    exact hsplit
  have hdotted : readGroup? v4.render = none := by
    rw [readGroup?, if_neg]
    rintro ⟨-, -, hall⟩
    have hdot : '.' ∈ v4.render := by simp [Ipv4.render]
    exact absurd (List.all_eq_true.1 hall '.' hdot) (by decide)
  have htail : readTail? [['f', 'f', 'f', 'f'], v4.render] = some (0xffff :: v4.toGroups) := by
    have hffff : readGroup? ['f', 'f', 'f', 'f'] = some 0xffff := by decide
    simp [readTail?, hffff, hdotted, Ipv4.parse?_render]
  have hcut : cutAtGap ([':', ':', 'f', 'f', 'f', 'f', ':'] ++ v4.render)
      = some ([], ['f', 'f', 'f', 'f', ':'] ++ v4.render) := rfl
  have hgroups := groups_of_mapped h
  rw [parse?, hcut]
  simp only [hpieces, htail, show readGroups? (pieces []) = some [] from rfl]
  rw [if_pos (by simp [Ipv4.toGroups]), ← ofGroups?_groups ip, hgroups]
  rfl

/-- An address is read back from its text. -/
theorem parse?_render (ip : Ipv6) : parse? ip.render = some ip := by
  unfold render
  cases hmapped : ip.mappedIpv4? with
  | some v4 => exact parse?_mapped hmapped
  | none =>
    have hrun : IsZeroRun ip.groups (longestZeroRun ip.groups 0 (0, 0)) :=
      isZeroRun_longest ip.groups ip.groups.length 0 (0, 0) (by omega) ⟨by simp, by simp⟩
    have hlength := ip.length_groups
    generalize longestZeroRun ip.groups 0 (0, 0) = run at hrun
    dsimp only
    split
    · have hcut : cutAtGap (renderGroups (ip.groups.take run.1) ++ ':' :: ':' ::
            renderGroups (ip.groups.drop (run.1 + run.2)))
          = some (renderGroups (ip.groups.take run.1),
              renderGroups (ip.groups.drop (run.1 + run.2))) := by
        rw [cutAtGap_renderGroups]
        simp [cutAtGap]
      have hfit := hrun.1
      have hzeros : 8 - (ip.groups.take run.1).length - (ip.groups.drop (run.1 + run.2)).length
          = run.2 := by
        rw [List.length_take, List.length_drop]
        omega
      rw [parse?, hcut]
      simp only [pieces_renderGroups, readGroups?_map, readTail?_map, hzeros, hrun.eq_append]
      rw [if_pos (by rw [List.length_take, List.length_drop]; omega)]
      exact ofGroups?_groups ip
    · have hcut : cutAtGap (renderGroups ip.groups) = none := by
        have hnone := cutAtGap_renderGroups ip.groups []
        rw [List.append_nil] at hnone
        exact hnone
      rw [parse?, hcut]
      simp only [pieces_renderGroups, readTail?_map, Option.bind_some]
      exact ofGroups?_groups ip

theorem colon_mem_render (ip : Ipv6) : ':' ∈ ip.render := by
  unfold render
  cases ip.mappedIpv4? with
  | some v4 => simp
  | none =>
    dsimp only
    split
    · simp
    · -- Eight groups are separated by colons.
      have hlength := ip.length_groups
      match h : ip.groups with
      | [] => simp [h] at hlength
      | [g] => simp [h] at hlength
      | g :: g' :: rest => simp [renderGroups_cons]

end Ipv6

/-! ### Either family -/

namespace IpAddress

/-- An address is read back from its text. -/
theorem parse?_text (ip : IpAddress) : parse? ip.text = some ip := by
  rw [parse?, text, String.toList_ofList]
  unfold read?
  cases ip with
  | v4 ip =>
    rw [render, Ipv4.parse?_render]
  | v6 ip =>
    rw [render, Ipv4.parse?_of_colon (Ipv6.colon_mem_render ip), Ipv6.parse?_render]
    rfl

end IpAddress

/-! ### Endpoints -/

namespace Endpoint

/-- An endpoint is determined by its text, even if colons stand in its host. -/
theorem key_injective {e e' : Endpoint} (h : e.key = e'.key) : e = e' := by
  have hcolon : ∀ n, ':' ∉ Numeral.decimal n := Numeral.notMem_decimal (by decide)
  have hcut : ∀ e : Endpoint, SocketAddress.cutAtLast ':' e.key.toList
      = some (e.host.toList, Numeral.decimal e.port.toNat) := by
    intro e
    rw [key, String.toList_ofList]
    exact SocketAddress.cutAtLast_append _ (hcolon _)
  have hparts := hcut e
  rw [h, hcut e'] at hparts
  obtain ⟨hhost, hport⟩ := Prod.mk.inj (Option.some.inj hparts)
  obtain ⟨host, port⟩ := e
  obtain ⟨host', port'⟩ := e'
  have hhost : host' = host := String.toList_inj.1 hhost
  have hport : port' = port := UInt16.toNat_inj.1 (Numeral.decimal_injective hport)
  rw [hhost, hport]

end Endpoint

end NodeDiscovery
