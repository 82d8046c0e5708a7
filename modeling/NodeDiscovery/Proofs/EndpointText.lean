import Mathlib.Data.List.DropRight
import NodeDiscovery.Proofs.IdentifierText
import NodeDiscovery.Proofs.Transparency

/-!
# The texts of endpoints

The text of an endpoint is a host, a colon and a port.  There may be white space around the whole
and brackets around the host, and nothing else is read.  Colons may stand in the host, since none
stands in the port.  So an observed address is read back from what is printed for it, with brackets
or without, and every spelling of it is remembered under the same text.

## Main definitions

* `Trims` — a text is another one between characters to be left out.
* `Numeral.SpellsPort`, `Endpoint.SpellsHost`, `Endpoint.Spells` — the texts of a port, of a host
  and of an endpoint.
* `Endpoint.Surrounds` — a text has white space around it.
* `AddressCache.Reachable` — the caches that queries lead to.

## Main results

* `rdropWhile_dropWhile_eq_iff` — what is left between characters that are left out.
* `Numeral.readPort?_eq_some_iff`, `Endpoint.parse_eq_ok_iff` — exactly the texts of ports and of
  endpoints are read.
* `IpAddress.notMem_render` — the characters in the text of an IP address.
* `Endpoint.spells_text` — an IP address and a port spell their endpoint.
* `AddressCache.endpoint_texts` — addresses are read back from all their texts.
-/

namespace NodeDiscovery

/-! ### Leaving out what stands around a text -/

/-- A text is another one between characters of two kinds that are to be left out: the other text
neither starts with the first kind nor ends with the second. -/
def Trims {α : Type} (p q : α → Bool) (text core : List α) : Prop :=
  ∃ before after, text = before ++ core ++ after ∧
    (∀ c ∈ before, p c = true) ∧ (∀ c ∈ after, q c = true) ∧
    (∀ c ∈ core.head?, p c = false) ∧ ∀ c ∈ core.getLast?, q c = false

section Trims

variable {α : Type} {p q : α → Bool} {text core : List α}

theorem dropTrailing_eq_rdropWhile (p : α → Bool) (l : List α) :
    dropTrailing p l = l.rdropWhile p := rfl

/-- What is left of a text when characters are left out at both of its ends. -/
theorem rdropWhile_dropWhile_eq_iff :
    (text.dropWhile p).rdropWhile q = core ↔ Trims p q text core := by
  constructor
  · rintro rfl
    have hrest : (text.dropWhile p).rdropWhile q ++ (text.dropWhile p).rtakeWhile q
        = text.dropWhile p := List.rdropWhile_append_rtakeWhile ..
    refine ⟨text.takeWhile p, (text.dropWhile p).rtakeWhile q, ?_, ?_, ?_, ?_, ?_⟩
    · rw [List.append_assoc, hrest, List.takeWhile_append_dropWhile]
    · exact fun c hc => List.mem_takeWhile_imp hc
    · exact fun c hc => List.mem_rtakeWhile_imp hc
    · -- What is left starts as the text does without the first kind of characters.
      intro c hc
      have hnot := List.head?_dropWhile_not p text
      rwa [← hrest, List.head?_append, Option.mem_def.1 hc] at hnot
    · intro c hc
      obtain ⟨hne, rfl⟩ := List.mem_getLast?_eq_getLast hc
      simpa using List.rdropWhile_last_not q _ hne
  · rintro ⟨before, after, rfl, hbefore, hafter, hhead, hlast⟩
    rw [List.append_assoc, List.dropWhile_append_of_pos hbefore]
    cases core with
    | nil =>
      -- Nothing is left of what is to be left out.
      exact List.rdropWhile_eq_nil_iff.2
        fun c hc => hafter c ((List.dropWhile_suffix p).subset hc)
    | cons c core =>
      have hself : (c :: core).rdropWhile q = c :: core := by
        rw [List.rdropWhile_eq_self_iff]
        intro hne
        simp [hlast _ (List.getLast?_eq_some_getLast hne)]
      rw [List.cons_append, List.dropWhile_cons_of_neg (by simp [hhead c rfl]),
        ← List.cons_append, List.rdropWhile, List.reverse_append,
        List.dropWhile_append_of_pos (by simpa using hafter)]
      exact hself

/-- A text in which nothing is to be left out is what is left between characters that are. -/
theorem trims_of_forall {before after : List α} (hbefore : ∀ c ∈ before, p c = true)
    (hafter : ∀ c ∈ after, q c = true) (hp : ∀ c ∈ core, p c = false)
    (hq : ∀ c ∈ core, q c = false) : Trims p q (before ++ core ++ after) core :=
  ⟨before, after, rfl, hbefore, hafter, fun c hc => hp c (List.mem_of_head? hc),
    fun c hc => hq c (List.mem_of_getLast? hc)⟩

end Trims

/-! ### The text of a port -/

namespace Numeral

variable {text : List Char} {port : UInt16}

/-- The decimal digits of a port after an optional plus sign. -/
def SpellsPort (text : List Char) (port : UInt16) : Prop :=
  ∃ sign digits, text = sign ++ digits ∧ (sign = [] ∨ sign = ['+']) ∧ digits ≠ [] ∧
    (∀ c ∈ digits, '0' ≤ c ∧ c ≤ '9') ∧ value 10 digits = port.toNat

theorem readDecimal?_eq_some_iff {n : Nat} : readDecimal? text = some n ↔
    text ≠ [] ∧ (∀ c ∈ text, '0' ≤ c ∧ c ≤ '9') ∧ value 10 text = n := by
  unfold readDecimal?
  split
  · next h => simpa [isDigit, h.1] using fun _ => h.2
  · next h =>
    simp only [reduceCtorEq, false_iff]
    rintro ⟨hne, hdigits, -⟩
    exact h ⟨hne, by simpa [isDigit] using hdigits⟩

/-- A sign before digits is left out, and nothing else. -/
theorem dropPlus_eq_iff {digits : List Char} (h : ∀ c ∈ digits, '0' ≤ c ∧ c ≤ '9') :
    dropPlus text = digits ↔ ∃ sign, text = sign ++ digits ∧ (sign = [] ∨ sign = ['+']) := by
  constructor
  · rintro rfl
    unfold dropPlus
    split
    · exact ⟨['+'], rfl, .inr rfl⟩
    · exact ⟨[], rfl, .inl rfl⟩
  · rintro ⟨sign, rfl, rfl | rfl⟩
    · refine dropPlus.eq_2 digits ?_
      rintro rest rfl
      exact absurd (h '+' List.mem_cons_self) (by decide)
    · rfl

/-- Exactly the texts of a port are read. -/
theorem readPort?_eq_some_iff : readPort? text = some port ↔ SpellsPort text port := by
  constructor
  · intro h
    unfold readPort? at h
    split at h
    · next n hread =>
      obtain ⟨hne, hdigits, hvalue⟩ := readDecimal?_eq_some_iff.1 hread
      obtain ⟨sign, htext, hsign⟩ := (dropPlus_eq_iff hdigits).1 rfl
      split at h
      · next hlt =>
        cases h
        refine ⟨sign, dropPlus text, htext, hsign, hne, hdigits, ?_⟩
        rw [hvalue, UInt16.toNat_ofNat_of_lt' hlt]
      · cases h
    · cases h
  · rintro ⟨sign, digits, htext, hsign, hne, hdigits, hvalue⟩
    have hdrop : dropPlus text = digits := (dropPlus_eq_iff hdigits).2 ⟨sign, htext, hsign⟩
    have hread : readDecimal? digits = some port.toNat :=
      readDecimal?_eq_some_iff.2 ⟨hne, hdigits, hvalue⟩
    have hlt : port.toNat < 65536 := port.toNat_lt
    simp only [readPort?, hdrop, hread, if_pos hlt, UInt16.ofNat_toNat]

end Numeral

/-! ### The text of an endpoint -/

namespace SocketAddress

theorem notMem_of_cutAtLast {sep : Char} {text : List Char} (h : cutAtLast sep text = none) :
    sep ∉ text := by
  induction text with
  | nil => simp
  | cons c text ih =>
    rw [cutAtLast] at h
    split at h
    · cases h
    · next hcut =>
      split at h
      · cases h
      · next hc =>
        rw [List.mem_cons, not_or]
        exact ⟨Ne.symm hc, ih hcut⟩

/-- A text is cut at its last separator. -/
theorem cutAtLast_eq_some_iff {sep : Char} {text u v : List Char} :
    cutAtLast sep text = some (u, v) ↔ text = u ++ sep :: v ∧ sep ∉ v := by
  constructor
  · intro h
    induction text generalizing u with
    | nil => cases h
    | cons c text ih =>
      rw [cutAtLast] at h
      split at h
      · next before after hcut =>
        cases h
        obtain ⟨htext, hv⟩ := ih hcut
        exact ⟨congrArg (c :: ·) htext, hv⟩
      · next hcut =>
        split at h
        · next hc =>
          cases h
          exact ⟨by rw [hc, List.nil_append], notMem_of_cutAtLast hcut⟩
        · cases h
  · rintro ⟨rfl, hv⟩
    exact cutAtLast_append u hv

end SocketAddress

namespace Endpoint

variable {text : String} {e : Endpoint}

/-- A host that is not empty, with any brackets that open before it and close behind it. -/
def SpellsHost (text : List Char) (host : String) : Prop :=
  host ≠ "" ∧ Trims (· == '[') (· == ']') text host.toList

/-- A host, a colon and a port, with any white space around them. -/
def Spells (text : String) (e : Endpoint) : Prop :=
  ∃ core u v, Trims isWhiteSpace isWhiteSpace text.toList core ∧ core = u ++ ':' :: v ∧ ':' ∉ v ∧
    SpellsHost u e.host ∧ Numeral.SpellsPort v e.port

theorem unbracket_eq_iff {host : List Char} {name : String} :
    unbracket host ≠ [] ∧ String.ofList (unbracket host) = name ↔ SpellsHost host name := by
  unfold SpellsHost
  rw [← rdropWhile_dropWhile_eq_iff, ← dropTrailing_eq_rdropWhile, ← unbracket]
  constructor
  · rintro ⟨hne, rfl⟩
    exact ⟨by simpa using hne, by simp⟩
  · rintro ⟨hne, hname⟩
    rw [hname]
    exact ⟨by simpa using hne, by simp⟩

theorem split?_eq_some_iff {core : List Char} : split? core = some e ↔
    ∃ u v, core = u ++ ':' :: v ∧ ':' ∉ v ∧ SpellsHost u e.host ∧ Numeral.SpellsPort v e.port := by
  constructor
  · intro h
    unfold split? at h
    split at h
    · cases h
    · next u v hcut =>
      obtain ⟨hcore, hv⟩ := SocketAddress.cutAtLast_eq_some_iff.1 hcut
      split at h
      · cases h
      · next port hport =>
        split at h
        · cases h
        · next hne =>
          cases h
          exact ⟨u, v, hcore, hv, unbracket_eq_iff.1 ⟨hne, rfl⟩,
            Numeral.readPort?_eq_some_iff.1 hport⟩
  · rintro ⟨u, v, hcore, hv, hhost, hport⟩
    obtain ⟨hne, hname⟩ := unbracket_eq_iff.2 hhost
    have hcut := SocketAddress.cutAtLast_eq_some_iff.2 ⟨hcore, hv⟩
    simp only [split?, hcut, Numeral.readPort?_eq_some_iff.2 hport, if_neg hne, hname]

/-- Exactly the texts of endpoints are read. -/
theorem parse_eq_ok_iff : parse text = .ok e ↔ Spells text e := by
  have htrim : ∀ core, trimWhiteSpace text.toList = core ↔
      Trims isWhiteSpace isWhiteSpace text.toList core := fun core => by
    rw [trimWhiteSpace, dropTrailing_eq_rdropWhile, rdropWhile_dropWhile_eq_iff]
  have hparse : parse text = .ok e ↔ split? (trimWhiteSpace text.toList) = some e := by
    unfold parse
    cases split? (trimWhiteSpace text.toList) <;> simp
  rw [hparse, split?_eq_some_iff]
  constructor
  · rintro ⟨u, v, hparts⟩
    exact ⟨_, u, v, (htrim _).1 rfl, hparts⟩
  · rintro ⟨core, u, v, hcore, hparts⟩
    rw [(htrim core).2 hcore]
    exact ⟨u, v, hparts⟩

/-- Any other text is reported as it was given. -/
theorem parse_eq_error (h : ¬ ∃ e, Spells text e) : parse text = .error (.unresolvable text) := by
  cases hparse : parse text with
  | ok e => exact absurd ⟨e, parse_eq_ok_iff.1 hparse⟩ h
  | error err =>
    unfold parse at hparse
    split at hparse
    · cases hparse
    · exact hparse.symm

end Endpoint

/-! ### The characters in the text of an address -/

theorem isDigit_eq_false {c : Char} (h : Numeral.isHexDigit c = false) :
    Numeral.isDigit c = false := by
  cases hc : Numeral.isDigit c with
  | false => rfl
  | true =>
    have hrange : '0' ≤ c ∧ c ≤ '9' := by simpa [Numeral.isDigit] using hc
    have hhex : Numeral.isHexDigit c = true := Hex.isSome_digitValue?_iff.2 (.inl hrange)
    rw [h] at hhex
    cases hhex

theorem isHexDigit_of_isWhiteSpace {c : Char} (h : isWhiteSpace c = true) :
    Numeral.isHexDigit c = false := by
  cases hc : Numeral.isHexDigit c with
  | false => rfl
  | true =>
    have hlt : c.toNat < 128 := (Hex.isSome_digitValue?_iff.1 hc).toNat_lt
    have hall : ∀ n < 128, Numeral.isHexDigit (Char.ofNat n) = true →
        isWhiteSpace (Char.ofNat n) = false := by decide
    have hnone := hall c.toNat hlt
    rw [Char.ofNat_toNat, h] at hnone
    cases hnone hc

namespace Ipv6

theorem notMem_renderGroups {c : Char} (hc : Numeral.isHexDigit c = false) (hcolon : c ≠ ':')
    (groups : List UInt16) : c ∉ renderGroups groups := by
  induction groups with
  | nil => simp [renderGroups]
  | cons g rest ih =>
    cases rest with
    | nil => exact notMem_renderGroup hc g
    | cons g' rest =>
      rw [renderGroups_cons, List.mem_append, List.mem_cons]
      simp [notMem_renderGroup hc g, hcolon, ih]

theorem notMem_render {c : Char} (hc : Numeral.isHexDigit c = false) (hdot : c ≠ '.')
    (hcolon : c ≠ ':') (ip : Ipv6) : c ∉ ip.render := by
  have hgroups := notMem_renderGroups hc hcolon
  unfold render
  cases ip.mappedIpv4? with
  | some v4 =>
    have hf : c ≠ 'f' := by
      rintro rfl
      exact absurd hc (by decide)
    have hv4 := Ipv4.notMem_render (isDigit_eq_false hc) hdot v4
    simp [hcolon, hf, hv4]
  | none =>
    dsimp only
    split
    · simp [hgroups, hcolon]
    · exact hgroups _

end Ipv6

namespace IpAddress

/-- There is nothing but hexadecimal digits, dots and colons in the text of an IP address. -/
theorem notMem_render {c : Char} (hc : Numeral.isHexDigit c = false) (hdot : c ≠ '.')
    (hcolon : c ≠ ':') (ip : IpAddress) : c ∉ ip.render := by
  cases ip with
  | v4 ip => exact Ipv4.notMem_render (isDigit_eq_false hc) hdot ip
  | v6 ip => exact Ipv6.notMem_render hc hdot hcolon ip

theorem render_ne_nil (ip : IpAddress) : ip.render ≠ [] := by
  intro hnil
  have hempty : parse? (String.ofList []) = none := by decide
  have hparse := parse?_text ip
  rw [text, hnil, hempty] at hparse
  cases hparse

end IpAddress

/-! ### The texts of an address -/

namespace Endpoint

/-- A text with white space around it. -/
def Surrounds (text core : String) : Prop :=
  ∃ before after, text.toList = before ++ core.toList ++ after ∧
    (∀ c ∈ before, isWhiteSpace c = true) ∧ ∀ c ∈ after, isWhiteSpace c = true

/-- The text of an IP address is a host, with brackets around it or without. -/
theorem spellsHost_text (ip : IpAddress) {opening closing : List Char}
    (hopening : ∀ c ∈ opening, c = '[') (hclosing : ∀ c ∈ closing, c = ']') :
    SpellsHost (opening ++ ip.render ++ closing) ip.text := by
  have hne : ∀ c ∈ ip.render, ∀ b, Numeral.isHexDigit b = false → b ≠ '.' → b ≠ ':' → c ≠ b := by
    rintro c hc b hb hdot hcolon rfl
    exact ip.notMem_render hb hdot hcolon hc
  refine ⟨fun hempty => ?_, ?_⟩
  · have hnil : ip.render = [] := by simpa [IpAddress.text] using hempty
    exact ip.render_ne_nil hnil
  · rw [IpAddress.text, String.toList_ofList]
    refine trims_of_forall (by simpa using hopening) (by simpa using hclosing) ?_ ?_
    · intro c hc
      simpa using hne c hc '[' (by decide) (by decide) (by decide)
    · intro c hc
      simpa using hne c hc ']' (by decide) (by decide) (by decide)

theorem spellsPort_decimal (port : UInt16) :
    Numeral.SpellsPort (Numeral.decimal port.toNat) port := by
  obtain ⟨hne, hdigits, hvalue⟩ :=
    Numeral.readDecimal?_eq_some_iff.1 (Numeral.readDecimal?_decimal port.toNat)
  exact ⟨[], _, rfl, .inl rfl, hne, hdigits, hvalue⟩

/-- The text of an IP address and a port is that of an endpoint, with brackets or white space
around it or without. -/
theorem spells_text {text core : String} (ip : IpAddress) (port : UInt16)
    (opening closing : List Char) (hopening : ∀ c ∈ opening, c = '[')
    (hclosing : ∀ c ∈ closing, c = ']') (htext : Surrounds text core)
    (hcore : core.toList = opening ++ ip.render ++ closing ++ ':' :: Numeral.decimal port.toNat) :
    Spells text ⟨ip.text, port⟩ := by
  obtain ⟨before, after, htext, hbefore, hafter⟩ := htext
  rw [hcore] at htext
  have hcolon : ':' ∉ Numeral.decimal port.toNat := Numeral.notMem_decimal (by decide) _
  refine ⟨_, _, _, ?_, rfl, hcolon, spellsHost_text ip hopening hclosing, spellsPort_decimal port⟩
  rw [htext]
  have hblack : ∀ c ∈ opening ++ ip.render ++ closing ++ ':' :: Numeral.decimal port.toNat,
      isWhiteSpace c = false := by
    intro c hc
    cases hwhite : isWhiteSpace c with
    | false => rfl
    | true =>
      have hhex := isHexDigit_of_isWhiteSpace hwhite
      have hne : ∀ b, isWhiteSpace b = false → c ≠ b := by
        rintro b hb rfl
        rw [hwhite] at hb
        cases hb
      have hip := ip.notMem_render hhex (hne _ (by decide)) (hne _ (by decide))
      have hport := Numeral.notMem_decimal (isDigit_eq_false hhex) port.toNat
      simp only [List.mem_append, List.mem_cons] at hc
      rcases hc with ((hc | hc) | hc) | hc | hc
      · exact absurd (hopening c hc) (hne _ (by decide))
      · exact absurd hc hip
      · exact absurd (hclosing c hc) (hne _ (by decide))
      · exact absurd hc (hne _ (by decide))
      · exact absurd hc hport
  exact trims_of_forall hbefore hafter hblack hblack

/-- The text printed for an address and the text of its endpoint spell this endpoint. -/
theorem spells_ofIp {text core : String} {ip : IpAddress} {port : UInt16}
    (h : core = (SocketAddress.ofIp ip port).text ∨ core = (ofAddress (.ofIp ip port)).key)
    (htext : Surrounds text core) : Spells text ⟨ip.text, port⟩ := by
  rcases h with rfl | rfl
  · cases ip with
    | v4 ip =>
      refine spells_text (.v4 ip) port [] [] (by simp) (by simp) htext ?_
      simp [SocketAddress.text, SocketAddress.ofIp, SocketAddress.render, IpAddress.render]
    | v6 ip =>
      refine spells_text (.v6 ip) port ['['] [']'] (by simp) (by simp) htext ?_
      simp [SocketAddress.text, SocketAddress.ofIp, SocketAddress.render, IpAddress.render]
  · refine spells_text ip port [] [] (by simp) (by simp) htext ?_
    simp [key, render, ofAddress, IpAddress.text]

end Endpoint

/-! ### The caches that queries lead to -/

namespace AddressCache

variable {system : SystemLookup} {c : AddressCache}

/-- The caches that queries lead to, whatever the system finds at each of them. -/
inductive Reachable : AddressCache → Prop where
  /-- A new cache. -/
  | ofCapacity (capacity : Nat) : Reachable (ofCapacity capacity)
  /-- One more query. -/
  | apply {c : AddressCache} (system : SystemLookup) (q : Query) :
      Reachable c → Reachable (q.apply system c)

theorem Faithful.apply (h : c.Faithful) (system : SystemLookup) (q : Query) :
    (q.apply system c).Faithful := by
  unfold Query.apply
  rcases hask : q.ask system c with ⟨_ | e, cache⟩
  · obtain rfl := cache_of_ask_none hask
    exact h
  · obtain ⟨a, hlookup⟩ := lookup_of_ask hask
    exact h.lookup hlookup

theorem Reachable.faithful (h : c.Reachable) : c.Faithful := by
  induction h with
  | ofCapacity capacity => exact faithful_ofCapacity capacity
  | apply system q _ ih => exact ih.apply system q

/-- **Addresses are read back from all their texts, and endpoints from exactly their texts.**  What
is printed for an IP address and a port, with brackets around an IPv6 address or without, and with
any white space around it, leads to this address in every cache that queries lead to, and is
remembered under one and the same text.  A text is read as an endpoint exactly if, without the white
space around it, it is a host that is not empty, with any brackets around it, a colon, and decimal
digits for a port, with an optional plus sign before them; any other text is reported as it was
given. -/
theorem endpoint_texts :
    (∀ (system : SystemLookup) (c : AddressCache), c.Reachable →
      ∀ (ip : IpAddress) (port : UInt16) (text core : String),
        let a := SocketAddress.ofIp ip port
        core = a.text ∨ core = (Endpoint.ofAddress a).key → Endpoint.Surrounds text core →
          c.lookupText system text = (.ok a, c.record (Endpoint.ofAddress a).key a)) ∧
      (∀ text e, Endpoint.parse text = .ok e ↔ Endpoint.Spells text e) ∧
      ∀ text, (¬ ∃ e, Endpoint.Spells text e) →
        Endpoint.parse text = .error (.unresolvable text) := by
  refine ⟨?_, fun _ _ => Endpoint.parse_eq_ok_iff, fun _ => Endpoint.parse_eq_error⟩
  intro system c hc ip port text core a hcore htext
  have hparse : Endpoint.parse text = .ok (Endpoint.ofAddress a) := by
    rw [Endpoint.ofAddress, SocketAddress.ip_ofIp, SocketAddress.port_ofIp]
    exact Endpoint.parse_eq_ok_iff.2 (Endpoint.spells_ofIp hcore htext)
  have hresolve := hc.faithful.resolve_ofAddress a
  rw [SocketAddress.ip_ofIp, SocketAddress.port_ofIp] at hresolve
  simp only [lookupText, hparse]
  exact lookup_of_resolve hresolve system

/-- A loopback address in brackets and white space is read, and a text without a port is not. -/
theorem loopback_in_brackets :
    let a := SocketAddress.ofIp (.v6 ⟨[0, 0, 0, 0, 0, 0, 0, 1], rfl⟩) 30303
    (ofCapacity 1).lookupText (fun _ => none) "\t[::1]:30303 "
        = (.ok a, (ofCapacity 1).record "::1:30303" a) ∧
      Endpoint.parse "localhost" = .error (.unresolvable "localhost") := by
  intro a
  obtain ⟨hread, -, herror⟩ := endpoint_texts
  have htext : a.text = "[::1]:30303" := by decide
  have hkey : (Endpoint.ofAddress a).key = "::1:30303" := by decide
  refine ⟨?_, herror _ ?_⟩
  · rw [← hkey]
    refine hread (fun _ => none) (ofCapacity 1) (.ofCapacity 1) _ 30303 _ a.text (.inl rfl) ?_
    rw [htext]
    exact ⟨['\t'], [' '], rfl, List.forall_mem_singleton.2 rfl, List.forall_mem_singleton.2 rfl⟩
  · rintro ⟨e, core, u, v, ⟨before, after, htext, -⟩, rfl, -⟩
    have hcolon : ':' ∈ "localhost".toList := by rw [htext]; simp
    exact absurd hcolon (by decide)

end AddressCache
end NodeDiscovery
