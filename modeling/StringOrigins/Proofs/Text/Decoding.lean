import StringOrigins.Proofs.Text.Utf8

/-! # Which octets are UTF-8

    Octets are decoded exactly if they encode a text, and then to that text
    (`decode_eq_ok_iff`).  The fault of any others stands right behind the
    longest beginning that encodes a text (`longest_of_decode`). -/

namespace StringOrigins.Utf8

/-! ## Section 1: The characters of sequences -/

theorem toNat_ofNat {n : Nat} (valid : n < 0xD800 ∨ 0xDFFF < n ∧ n < 0x110000) :
    (Char.ofNat n).toNat = n := by
  rw [Char.ofNat, dif_pos valid]
  rfl

section characters

variable {k x y z : Nat}

/-- The character of two octets. -/
theorem encodeChar_two (hk : 2 ≤ k ∧ k < 32) (hz : z < 64) :
    String.utf8EncodeChar (Char.ofNat (k * 64 + z)) =
      [UInt8.ofNat (k + 0xC0), UInt8.ofNat (z + 0x80)] := by
  have value : (Char.ofNat (k * 64 + z)).toNat = k * 64 + z := toNat_ofNat (by omega)
  have first : (k * 64 + z) / 64 % 32 = k := by omega
  have last : (k * 64 + z) % 64 = z := by omega
  rw [encodeChar_of_two (by omega) (by omega), value, first, last]

/-- The character of three octets, unless a shorter sequence would do or it
    would be a surrogate. -/
theorem encodeChar_three (hk : k < 16) (hy : y < 64) (hz : z < 64) (overlong : k = 0 → 0x20 ≤ y)
    (surrogate : k = 13 → y < 0x20) :
    String.utf8EncodeChar (Char.ofNat ((k * 64 + y) * 64 + z)) =
      [UInt8.ofNat (k + 0xE0), UInt8.ofNat (y + 0x80), UInt8.ofNat (z + 0x80)] := by
  have value : (Char.ofNat ((k * 64 + y) * 64 + z)).toNat = (k * 64 + y) * 64 + z :=
    toNat_ofNat (by omega)
  have first : ((k * 64 + y) * 64 + z) / 4096 % 16 = k := by omega
  have second : ((k * 64 + y) * 64 + z) / 64 % 64 = y := by omega
  have last : ((k * 64 + y) * 64 + z) % 64 = z := by omega
  rw [encodeChar_of_three (by omega) (by omega), value, first, second, last]

/-- The character of four octets, unless a shorter sequence would do or its
    value is too large. -/
theorem encodeChar_four (hk : k < 5) (hx : x < 64) (hy : y < 64) (hz : z < 64)
    (overlong : k = 0 → 0x10 ≤ x) (tooLarge : k = 4 → x < 0x10) :
    String.utf8EncodeChar (Char.ofNat (((k * 64 + x) * 64 + y) * 64 + z)) =
      [UInt8.ofNat (k + 0xF0), UInt8.ofNat (x + 0x80), UInt8.ofNat (y + 0x80),
        UInt8.ofNat (z + 0x80)] := by
  have value : (Char.ofNat (((k * 64 + x) * 64 + y) * 64 + z)).toNat =
      ((k * 64 + x) * 64 + y) * 64 + z :=
    toNat_ofNat (by omega)
  have first : (((k * 64 + x) * 64 + y) * 64 + z) / 262144 % 8 = k := by omega
  have second : (((k * 64 + x) * 64 + y) * 64 + z) / 4096 % 64 = x := by omega
  have third : (((k * 64 + x) * 64 + y) * 64 + z) / 64 % 64 = y := by omega
  have last : (((k * 64 + x) * 64 + y) * 64 + z) % 64 = z := by omega
  rw [encodeChar_of_four (by omega), value, first, second, third, last]

end characters

/-! ## Section 2: What a sequence is decoded to -/

/-- A sequence is continued by an octet in its range, which adds six bits. -/
theorem exists_of_continuation {got bits wanted n : Nat} {low high : UInt8} {rest after : Octets}
    (least : 0x80 ≤ low.toNat) (most : high.toNat ≤ 0xBF)
    (continued : continuation got bits low high (wanted + 1) rest = .ok (n, after)) :
    ∃ x more, x < 64 ∧ low.toNat ≤ x + 0x80 ∧ x + 0x80 ≤ high.toNat ∧
      rest = UInt8.ofNat (x + 0x80) :: more ∧
      continuation (got + 1) (bits * 64 + x) 0x80 0xBF wanted more = .ok (n, after) := by
  cases rest with
  | nil => cases continued
  | cons b more =>
    rw [continuation] at continued
    split at continued
    · rename_i inside
      have above := UInt8.le_iff_toNat_le.1 inside.1
      have below := UInt8.le_iff_toNat_le.1 inside.2
      have back : b.toNat - 0x80 + 0x80 = b.toNat := by omega
      refine ⟨b.toNat - 0x80, more, by omega, by omega, by omega, ?_, continued⟩
      rw [back, UInt8.ofNat_toNat]
    · cases continued

section sequences

variable {k x n : Nat} {rest after : Octets}

/-- An octet above a raised lower end is above the end that one lead raises. -/
theorem raised_of_above {e bound : Nat} {b : UInt8} (value : b.toNat = bound + 0x80)
    (above : (if k = e then b else 0x80 : UInt8).toNat ≤ x + 0x80) : k = e → bound ≤ x := by
  intro special
  rw [if_pos special, value] at above
  omega

/-- And one below a lowered upper end is below the end that one lead lowers. -/
theorem lowered_of_below {e bound : Nat} {b : UInt8} (value : b.toNat + 1 = bound + 0x80)
    (below : x + 0x80 ≤ (if k = e then b else 0xBF : UInt8).toNat) : k = e → x < bound := by
  intro special
  rw [if_pos special] at below
  omega

/-- Two octets are decoded to the character that they encode. -/
theorem encodeChar_of_continuation_two (hk : 2 ≤ k ∧ k < 32)
    (continued : continuation 0 k 0x80 0xBF 1 rest = .ok (n, after)) :
    UInt8.ofNat (k + 0xC0) :: rest = String.utf8EncodeChar (Char.ofNat n) ++ after := by
  obtain ⟨z, more, hz, -, -, rfl, done⟩ :=
    exists_of_continuation (Nat.le_refl _) (Nat.le_refl _) continued
  cases done
  rw [encodeChar_two hk hz]
  rfl

/-- So are three. -/
theorem encodeChar_of_continuation_three (hk : k < 16)
    (continued : continuation 0 k (if k = 0 then 0xA0 else 0x80) (if k = 13 then 0x9F else 0xBF) 2
      rest = .ok (n, after)) :
    UInt8.ofNat (k + 0xE0) :: rest = String.utf8EncodeChar (Char.ofNat n) ++ after := by
  obtain ⟨y, more, hy, above, below, rfl, second⟩ :=
    exists_of_continuation (by split <;> decide) (by split <;> decide) continued
  obtain ⟨z, last, hz, -, -, rfl, done⟩ :=
    exists_of_continuation (Nat.le_refl _) (Nat.le_refl _) second
  cases done
  rw [encodeChar_three hk hy hz (raised_of_above rfl above) (lowered_of_below rfl below)]
  rfl

/-- So are four. -/
theorem encodeChar_of_continuation_four (hk : k < 5)
    (continued : continuation 0 k (if k = 0 then 0x90 else 0x80) (if k = 4 then 0x8F else 0xBF) 3
      rest = .ok (n, after)) :
    UInt8.ofNat (k + 0xF0) :: rest = String.utf8EncodeChar (Char.ofNat n) ++ after := by
  obtain ⟨x, more, hx, above, below, rfl, second⟩ :=
    exists_of_continuation (by split <;> decide) (by split <;> decide) continued
  obtain ⟨y, more', hy, -, -, rfl, third⟩ :=
    exists_of_continuation (Nat.le_refl _) (Nat.le_refl _) second
  obtain ⟨z, last, hz, -, -, rfl, done⟩ :=
    exists_of_continuation (Nat.le_refl _) (Nat.le_refl _) third
  cases done
  rw [encodeChar_four hk hx hy hz (raised_of_above rfl above) (lowered_of_below rfl below)]
  rfl

end sequences

/-- As many octets are taken as are wanted. -/
theorem length_of_continuation {got bits wanted n : Nat} {low high : UInt8} {rest after : Octets}
    (continued : continuation got bits low high wanted rest = .ok (n, after)) :
    rest.length = wanted + after.length := by
  induction wanted generalizing got bits low high rest with
  | zero =>
    cases continued
    simp
  | succ wanted ih =>
    cases rest with
    | nil => cases continued
    | cons b rest =>
      rw [continuation] at continued
      split at continued
      · have taken := ih continued
        simp only [List.length_cons]
        omega
      · cases continued

/-- The octets that no sequence of several octets starts with. -/
theorem lead?_outside : ∀ n < 256, n < 0xC2 ∨ 0xF4 < n → lead? (UInt8.ofNat n) = none := by
  decide +kernel

/-- What is decoded from a sequence is the character that it encodes. -/
theorem encodeChar_of_continuation {b : UInt8} {lead : Lead} {rest after : Octets} {n : Nat}
    (leads : lead? b = some lead)
    (continued : continuation 0 lead.bits lead.low lead.high lead.following rest =
      .ok (n, after)) :
    b :: rest = String.utf8EncodeChar (Char.ofNat n) ++ after := by
  have size : b.toNat < 256 := b.toNat_lt
  have same : UInt8.ofNat b.toNat = b := UInt8.ofNat_toNat
  -- The first octet tells how many follow, and which ones may be the second.
  by_cases outside : b.toNat < 0xC2 ∨ 0xF4 < b.toNat
  · have other := lead?_outside b.toNat size outside
    rw [same, leads] at other
    cases other
  · by_cases two : b.toNat < 0xE0
    · obtain ⟨k, hk⟩ : ∃ k, b.toNat = k + 0xC0 := ⟨b.toNat - 0xC0, by omega⟩
      obtain ⟨known, -⟩ := lead?_two k (by omega) (by omega)
      rw [← hk, same, leads] at known
      cases known
      have split := encodeChar_of_continuation_two (k := k) (by omega) continued
      rwa [← hk, same] at split
    · by_cases three : b.toNat < 0xF0
      · obtain ⟨k, hk⟩ : ∃ k, b.toNat = k + 0xE0 := ⟨b.toNat - 0xE0, by omega⟩
        obtain ⟨known, -⟩ := lead?_three k (by omega)
        rw [← hk, same, leads] at known
        cases known
        have split := encodeChar_of_continuation_three (k := k) (by omega) continued
        rwa [← hk, same] at split
      · obtain ⟨k, hk⟩ : ∃ k, b.toNat = k + 0xF0 := ⟨b.toNat - 0xF0, by omega⟩
        obtain ⟨known, -⟩ := lead?_four k (by omega)
        rw [← hk, same, leads] at known
        cases known
        have split := encodeChar_of_continuation_four (k := k) (by omega) continued
        rwa [← hk, same] at split

/-- So is a single octet. -/
theorem encodeChar_of_single {b : UInt8} (small : b < 0x80) :
    String.utf8EncodeChar (Char.ofNat b.toNat) = [b] := by
  have bound : b.toNat < 0x80 := UInt8.lt_iff_toNat_lt.1 small
  have value : (Char.ofNat b.toNat).toNat = b.toNat := toNat_ofNat (by omega)
  rw [encodeChar_of_one (by omega), value, UInt8.ofNat_toNat]

/-! ## Section 3: What octets are decoded to -/

/-- Faults are behind what has been decoded. -/
theorem offset_le_of_decodeFrom {offset : Nat} {done : List Char} {octets : Octets} {fault : Fault}
    (failed : decodeFrom offset done octets = .error fault) : offset ≤ fault.offset := by
  fun_induction decodeFrom offset done octets with
  | case1 offset done => cases failed
  | case2 offset done b rest small ih =>
    have later := ih failed
    omega
  | case3 offset done b rest large leads =>
    cases failed
    exact Nat.le_refl _
  | case4 offset done b rest large lead leads got reason stuck =>
    cases failed
    exact Nat.le_refl _
  | case5 offset done b rest large lead leads n after continued shorter ih =>
    have later := ih failed
    omega

theorem length_encodeChar_pos (c : Char) : 0 < (String.utf8EncodeChar c).length := by
  obtain ⟨b, single⟩ | ⟨b, rest, lead, several, -⟩ := utf8EncodeChar_cases c
  · simp [single]
  · simp [several]

/-- No character stands where a fault is. -/
theorem ne_encodeChar_of_fault {offset : Nat} {done : List Char} {octets : Octets} {fault : Fault}
    (failed : decodeFrom offset done octets = .error fault) (here : fault.offset = offset)
    (c : Char) (more : Octets) : octets ≠ String.utf8EncodeChar c ++ more := by
  intro split
  rw [split, decodeFrom_encodeChar] at failed
  have later := offset_le_of_decodeFrom failed
  have pos := length_encodeChar_pos c
  omega

/-- What comes of decoding octets behind a text that is done. -/
inductive Decoding (offset : Nat) (done : List Char) (octets : Octets) :
    Except Fault (List Char) → Prop where
  /-- They encode a text. -/
  | whole (s : List Char) (split : octets = encode s) :
      Decoding offset done octets (.ok (done.reverse ++ s))
  /-- Their beginning encodes a text, and what is left starts with no character. -/
  | stuck (s : List Char) (left : Octets) (fault : Fault) (split : octets = encode s ++ left)
      (place : fault.offset = offset + (encode s).length) (first : left.head? = some fault.first)
      (other : ∀ c more, left ≠ String.utf8EncodeChar c ++ more) :
      Decoding offset done octets (.error fault)

/-- A character is decoded together with the octets behind it. -/
theorem Decoding.cons {offset : Nat} {done : List Char} {c : Char} {octets : Octets}
    {result : Except Fault (List Char)}
    (rest : Decoding (offset + (String.utf8EncodeChar c).length) (c :: done) octets result) :
    Decoding offset done (String.utf8EncodeChar c ++ octets) result := by
  cases rest with
  | whole s split =>
    rw [List.reverse_cons, List.append_assoc, split]
    exact .whole (c :: s) rfl
  | stuck s left fault split place first other =>
    refine .stuck (c :: s) left fault ?_ ?_ first other
    · rw [split, ← List.append_assoc]
      rfl
    · have length : (encode (c :: s)).length =
          (String.utf8EncodeChar c).length + (encode s).length := List.length_append
      omega

theorem decoding_decodeFrom (offset : Nat) (done : List Char) (octets : Octets) :
    Decoding offset done octets (decodeFrom offset done octets) := by
  fun_induction decodeFrom offset done octets with
  | case1 offset done =>
    have empty : Decoding offset done [] (.ok (done.reverse ++ [])) := .whole [] rfl
    rwa [List.append_nil] at empty
  | case2 offset done b rest small ih =>
    have octet := encodeChar_of_single small
    rw [← List.singleton_append, ← octet]
    apply Decoding.cons
    rw [octet]
    exact ih
  | case3 offset done b rest large leads =>
    have failed : decodeFrom offset done (b :: rest) = .error ⟨offset, b, 0, .invalidStart⟩ :=
      decodeFrom_unknown large leads
    exact .stuck [] (b :: rest) _ rfl rfl rfl (ne_encodeChar_of_fault failed rfl)
  | case4 offset done b rest large lead leads got reason broken =>
    have failed : decodeFrom offset done (b :: rest) = .error ⟨offset, b, got, reason⟩ :=
      decodeFrom_broken large leads broken
    exact .stuck [] (b :: rest) _ rfl rfl rfl (ne_encodeChar_of_fault failed rfl)
  | case5 offset done b rest large lead leads n after continued shorter ih =>
    have split := encodeChar_of_continuation leads continued
    have length : 1 + lead.following = (String.utf8EncodeChar (Char.ofNat n)).length := by
      have taken := length_of_continuation continued
      have lengths := congrArg List.length split
      rw [List.length_cons, List.length_append, taken] at lengths
      omega
    rw [split]
    apply Decoding.cons
    rw [← length, ← Nat.add_assoc]
    exact ih

/-- Octets are decoded exactly to the text that they encode. -/
theorem decode_eq_ok_iff {octets : Octets} {s : List Char} :
    decode octets = .ok s ↔ octets = encode s := by
  constructor
  · intro done
    have decoding := decoding_decodeFrom 0 [] octets
    unfold decode at done
    rw [done] at decoding
    cases decoding with
    | whole t split => exact split
  · intro split
    rw [split]
    exact decode_encode s

/-- What goes on behind an encoded text in another one encodes a text. -/
theorem exists_encode_of_append {s t : List Char} {more : Octets}
    (joined : encode s ++ more = encode t) : ∃ u, more = encode u := by
  have whole := decode_encode t
  unfold decode at whole
  rw [← joined, decodeFrom_encode_append] at whole
  have decoding := decoding_decodeFrom (0 + (encode s).length) (s.reverse ++ []) more
  rw [whole] at decoding
  cases decoding with
  | whole u split => exact ⟨u, split⟩

/-! ## Section 4: The longest beginning that is UTF-8 -/

/-- Whether octets encode a text. -/
def IsEncoding (octets : Octets) : Prop := ∃ s, octets = encode s

/-- Of all beginnings of some octets, this is the longest that encodes a text. -/
structure IsLongest (part octets : Octets) : Prop where
  begins : part <+: octets
  encodes : IsEncoding part
  longest : ∀ other, other <+: octets → IsEncoding other → other.length ≤ part.length

/-- A fault stands behind the longest beginning that encodes a text, and it
    names the octet there. -/
theorem longest_of_decode {octets : Octets} {fault : Fault}
    (failed : decode octets = .error fault) :
    ∃ part, IsLongest part octets ∧ fault.offset = part.length ∧
      octets[fault.offset]? = some fault.first := by
  have decoding := decoding_decodeFrom 0 [] octets
  unfold decode at failed
  rw [failed] at decoding
  cases decoding with
  | stuck s left fault split place first other =>
    rw [Nat.zero_add] at place
    refine ⟨encode s, ⟨⟨left, split.symm⟩, ⟨s, rfl⟩, ?_⟩, place, ?_⟩
    · intro longer begins encodes
      apply Classical.byContradiction
      intro beyond
      -- It would go on with a character behind the text, but none stands there.
      obtain ⟨t, rfl⟩ := encodes
      obtain ⟨more, joined⟩ : encode s <+: encode t :=
        List.prefix_of_prefix_length_le ⟨left, split.symm⟩ begins (by omega)
      obtain ⟨u, rfl⟩ := exists_encode_of_append joined
      obtain ⟨rest, whole⟩ := begins
      rw [← joined, split, List.append_assoc] at whole
      have behind : encode u ++ rest = left := List.append_cancel_left whole
      cases u with
      | nil =>
        have same : encode s = encode t := by rw [← joined]; simp [encode]
        rw [same] at beyond
        exact beyond (Nat.le_refl _)
      | cons c u =>
        apply other c (encode u ++ rest)
        rw [← behind, ← List.append_assoc]
        rfl
    · rw [place, split, List.getElem?_append_right (Nat.le_refl _), Nat.sub_self,
        ← List.head?_eq_getElem?]
      exact first

end StringOrigins.Utf8
