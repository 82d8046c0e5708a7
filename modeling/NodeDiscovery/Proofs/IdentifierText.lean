import NodeDiscovery.NodeId
import NodeDiscovery.Proofs.AddressText

/-!
# The texts of identifiers

An identifier is read back from its 64 digits, and apart from the case of its digits and the marks
before them it has no other text.  A mark ends in a character that is no digit, so taking marks away
stops before the first digit, however many zeros an identifier begins with.

## Main definitions

* `Hex.IsDigit` — the hexadecimal digits of either case.
* `NodeId.marks` — a number of `0x` marks.
* `NodeId.Spelling` — a text consists of marks and 64 digits.

## Main results

* `Hex.decode?_encode`, `Hex.encode_of_decode?` — bytes are read back, and from no other digits.
* `NodeId.dropMarks_marks`, `NodeId.eq_marks_append` — taking marks away.
* `NodeId.hex_codec` — the texts of an identifier.
-/

namespace NodeDiscovery

/-! ### Digits -/

namespace Hex

/-- The hexadecimal digits of either case. -/
def IsDigit (c : Char) : Prop :=
  '0' ≤ c ∧ c ≤ '9' ∨ 'a' ≤ c ∧ c ≤ 'f' ∨ 'A' ≤ c ∧ c ≤ 'F'

instance (c : Char) : Decidable (IsDigit c) :=
  inferInstanceAs (Decidable (_ ∨ _ ∨ _))

variable {c : Char} {d : Nat} {digits : List Char} {bytes : List UInt8}

theorem isSome_digitValue?_iff : (digitValue? c).isSome = true ↔ IsDigit c := by
  unfold digitValue? IsDigit
  split
  · simp_all
  · split
    · simp_all
    · split <;> simp_all

theorem IsDigit.toNat_lt (h : IsDigit c) : c.toNat < 128 := by
  have hlast : ∀ last : Char, c ≤ last → c.toNat ≤ last.toNat :=
    fun _ hle => UInt32.le_iff_toNat_le.1 hle
  rcases h with h | h | h
  · exact Nat.lt_of_le_of_lt (hlast _ h.2) (by decide)
  · exact Nat.lt_of_le_of_lt (hlast _ h.2) (by decide)
  · exact Nat.lt_of_le_of_lt (hlast _ h.2) (by decide)

/-- The digit written for the value of a digit is the same digit in lowercase. -/
theorem digit_of_digitValue? (h : digitValue? c = some d) : d < 16 ∧ digit d = c.toLower := by
  have hdigit : IsDigit c := isSome_digitValue?_iff.1 (h ▸ rfl)
  have hall : ∀ n < 128, ∀ d ∈ digitValue? (Char.ofNat n),
      d < 16 ∧ digit d = (Char.ofNat n).toLower := by decide
  have hc := hall c.toNat hdigit.toNat_lt d
  rw [Char.ofNat_toNat] at hc
  exact hc h

theorem length_encode (bytes : List UInt8) : (encode bytes).length = 2 * bytes.length := by
  induction bytes with
  | nil => rfl
  | cons b bytes ih =>
    rw [encode_cons, List.length_cons, List.length_cons, List.length_cons, ih]
    omega

/-- Bytes are read back from their digits. -/
theorem decode?_encode (bytes : List UInt8) : decode? (encode bytes) = some bytes := by
  induction bytes with
  | nil => rfl
  | cons b bytes ih =>
    have hlt : b.toNat < 256 := b.toNat_lt
    have hhalves : 16 * (b.toNat / 16) + b.toNat % 16 = b.toNat := Nat.div_add_mod _ _
    rw [encode_cons, decode?, Numeral.digitValue?_digit (by omega),
      Numeral.digitValue?_digit (by omega), ih]
    simp only [hhalves, UInt8.ofNat_toNat, Option.map_some]

/-- Bytes are read from nothing but their digits, in either case. -/
theorem encode_of_decode? (h : decode? digits = some bytes) :
    (∀ c ∈ digits, IsDigit c) ∧ encode bytes = digits.map Char.toLower := by
  fun_induction decode? digits generalizing bytes with
  | case1 =>
    cases h
    exact ⟨by simp, rfl⟩
  | case2 c => cases h
  | case3 hi lo rest high low hlow hhigh ih =>
    obtain ⟨others, hothers, rfl⟩ := Option.map_eq_some_iff.1 h
    obtain ⟨hdigits, hencode⟩ := ih hothers
    obtain ⟨hhigh_lt, hhi⟩ := digit_of_digitValue? hhigh
    obtain ⟨hlow_lt, hlo⟩ := digit_of_digitValue? hlow
    -- The two halves of the byte are the two values.
    have hbyte : (UInt8.ofNat (16 * high + low)).toNat = 16 * high + low := by
      rw [UInt8.toNat_ofNat']
      omega
    refine ⟨?_, ?_⟩
    · have hhi_digit : IsDigit hi := isSome_digitValue?_iff.1 (hhigh ▸ rfl)
      have hlo_digit : IsDigit lo := isSome_digitValue?_iff.1 (hlow ▸ rfl)
      simp only [List.mem_cons, forall_eq_or_imp]
      exact ⟨hhi_digit, hlo_digit, hdigits⟩
    · rw [encode_cons, hbyte, show (16 * high + low) / 16 = high by omega,
        show (16 * high + low) % 16 = low by omega, hhi, hlo, hencode]
      rfl
  | case4 hi lo rest hnone => cases h

/-- Any even number of digits is read. -/
theorem exists_decode? (n : Nat) :
    ∀ {digits : List Char}, digits.length = 2 * n → (∀ c ∈ digits, IsDigit c) →
      ∃ bytes, decode? digits = some bytes := by
  induction n with
  | zero =>
    intro digits hlength _
    obtain rfl : digits = [] := List.eq_nil_of_length_eq_zero hlength
    exact ⟨[], rfl⟩
  | succ n ih =>
    intro digits hlength hdigits
    match digits with
    | [] => simp at hlength
    | [c] => simp at hlength; omega
    | hi :: lo :: rest =>
      obtain ⟨high, hhigh⟩ :=
        Option.isSome_iff_exists.1 (isSome_digitValue?_iff.2 (hdigits hi (by simp)))
      obtain ⟨low, hlow⟩ :=
        Option.isSome_iff_exists.1 (isSome_digitValue?_iff.2 (hdigits lo (by simp)))
      have hrest : rest.length = 2 * n := by
        simp at hlength
        omega
      obtain ⟨others, hothers⟩ := ih hrest fun c hc => hdigits c (by simp [hc])
      refine ⟨UInt8.ofNat (16 * high + low) :: others, ?_⟩
      rw [decode?, hhigh, hlow, hothers]
      rfl

end Hex

/-! ### Marks -/

namespace NodeId

/-- A number of `0x` marks. -/
def marks : Nat → List Char
  | 0 => []
  | n + 1 => '0' :: 'x' :: marks n

/-- A text consists of any number of marks and 64 hexadecimal digits of either case. -/
structure Spelling (text : String) (digits : List Char) : Prop where
  /-- There is nothing but marks before the digits. -/
  text_eq : ∃ n, text.toList = marks n ++ digits
  /-- There are 64 digits. -/
  length_eq : digits.length = 64
  /-- They are digits. -/
  isDigit : ∀ c ∈ digits, Hex.IsDigit c

/-- Only marks are taken away. -/
theorem eq_marks_append (text : List Char) : ∃ n, text = marks n ++ dropMarks text := by
  fun_induction dropMarks text with
  | case1 rest ih =>
    obtain ⟨n, hn⟩ := ih
    refine ⟨n + 1, ?_⟩
    conv_lhs => rw [hn]
    rfl
  | case2 text _ => exact ⟨0, rfl⟩

/-- All marks are taken away, and no digit is. -/
theorem dropMarks_marks (n : Nat) {digits : List Char} (h : ∀ c ∈ digits, Hex.IsDigit c) :
    dropMarks (marks n ++ digits) = digits := by
  induction n with
  | zero =>
    refine dropMarks.eq_2 digits ?_
    rintro rest rfl
    -- The second character of a mark is no digit.
    exact absurd (h 'x' (by simp)) (by decide)
  | succ n ih => exact ih

variable {text : String} {digits : List Char}

/-- An identifier is read back from its text. -/
theorem ofHex_toHex (id : NodeId) : ofHex id.toHex = .ok id := by
  have hdigits := (Hex.encode_of_decode? (Hex.decode?_encode id.bytes)).1
  have hmarks : dropMarks (Hex.encode id.bytes) = Hex.encode id.bytes := dropMarks_marks 0 hdigits
  have hbytes : ofBytes? id.bytes = some id := dif_pos id.length_bytes
  simp only [ofHex, toHex, String.toList_ofList, hmarks, Hex.decode?_encode, Option.bind_some,
    hbytes]

/-- Marks and 64 digits are read as the identifier whose text are these digits in lowercase. -/
theorem Spelling.ofHex_eq (h : Spelling text digits) :
    ∃ id, ofHex text = .ok id ∧ id.toHex = String.ofList (digits.map Char.toLower) := by
  obtain ⟨n, htext⟩ := h.text_eq
  obtain ⟨bytes, hdecode⟩ := Hex.exists_decode? 32 h.length_eq h.isDigit
  have hencode := (Hex.encode_of_decode? hdecode).2
  have hlength : bytes.length = 32 := by
    have hdouble := Hex.length_encode bytes
    rw [hencode, List.length_map, h.length_eq] at hdouble
    omega
  have hbytes : ofBytes? bytes = some ⟨bytes, hlength⟩ := dif_pos hlength
  refine ⟨⟨bytes, hlength⟩, ?_, congrArg String.ofList hencode⟩
  simp only [ofHex, htext, dropMarks_marks n h.isDigit, hdecode, Option.bind_some, hbytes]

/-- Nothing else is read. -/
theorem spelling_of_ofHex {id : NodeId} (h : ofHex text = .ok id) :
    ∃ digits, Spelling text digits := by
  unfold ofHex at h
  split at h
  · next id' hid =>
    obtain ⟨bytes, hdecode, hbytes⟩ := Option.bind_eq_some_iff.1 hid
    obtain ⟨hdigits, hencode⟩ := Hex.encode_of_decode? hdecode
    refine ⟨dropMarks text.toList, eq_marks_append text.toList, ?_, hdigits⟩
    have hlength : bytes.length = 32 := by
      by_contra hne
      rw [ofBytes?, dif_neg hne] at hbytes
      cases hbytes
    rw [← List.length_map (f := Char.toLower), ← hencode, Hex.length_encode, hlength]
  · cases h

/-- **An identifier has one text, up to the case of its digits and the marks before them.**  It is
read back from the text that is written for it.  A text is read exactly if it consists of any number
of marks and 64 digits, and then the text of what is read are these digits in lowercase; any other
text is reported as it was given.  However many marks stand before digits, taking them away leaves
all digits. -/
theorem hex_codec :
    (∀ id : NodeId, ofHex id.toHex = .ok id) ∧
      (∀ text, (∃ id, ofHex text = .ok id) ↔ ∃ digits, Spelling text digits) ∧
      (∀ text digits, Spelling text digits →
        ∃ id, ofHex text = .ok id ∧ id.toHex = String.ofList (digits.map Char.toLower)) ∧
      (∀ text, (¬ ∃ digits, Spelling text digits) → ofHex text = .error ⟨text⟩) ∧
      ∀ n digits, (∀ c ∈ digits, Hex.IsDigit c) → dropMarks (marks n ++ digits) = digits := by
  refine ⟨ofHex_toHex, ?_, fun _ _ h => h.ofHex_eq, ?_, fun n _ => dropMarks_marks n⟩
  · intro text
    constructor
    · rintro ⟨id, h⟩
      exact spelling_of_ofHex h
    · rintro ⟨digits, h⟩
      obtain ⟨id, hid, -⟩ := h.ofHex_eq
      exact ⟨id, hid⟩
  · intro text hnone
    cases h : ofHex text with
    | ok id => exact absurd (spelling_of_ofHex h) hnone
    | error err =>
      unfold ofHex at h
      split at h
      · cases h
      · exact h.symm

/-- Digits in uppercase after two marks are read, and a text with too few digits is not. -/
theorem uppercase_after_marks :
    let digits := List.replicate 62 '0' ++ ['A', 'F']
    (∃ id, ofHex (String.ofList (marks 2 ++ digits)) = .ok id ∧
        id.toHex = String.ofList (List.replicate 62 '0' ++ ['a', 'f'])) ∧
      ofHex "0x1" = .error ⟨"0x1"⟩ := by
  intro digits
  obtain ⟨-, -, hlower, herror, -⟩ := hex_codec
  have hdigit : ∀ c ∈ digits, Hex.IsDigit c := by
    intro c hc
    simp only [digits, List.mem_append, List.mem_replicate, List.mem_cons, List.not_mem_nil,
      or_false] at hc
    rcases hc with ⟨-, rfl⟩ | rfl | rfl <;> decide
  have hspelling : Spelling (String.ofList (marks 2 ++ digits)) digits :=
    ⟨⟨2, String.toList_ofList⟩, rfl, hdigit⟩
  have hdigits : digits.map Char.toLower = List.replicate 62 '0' ++ ['a', 'f'] := by decide
  refine ⟨hdigits ▸ hlower _ digits hspelling, herror _ ?_⟩
  rintro ⟨few, h⟩
  obtain ⟨n, htext⟩ := h.text_eq
  have hlength : "0x1".toList.length = (marks n ++ few).length := congrArg List.length htext
  have hthree : "0x1".toList.length = 3 := by decide
  rw [List.length_append, h.length_eq] at hlength
  omega

end NodeId
end NodeDiscovery
