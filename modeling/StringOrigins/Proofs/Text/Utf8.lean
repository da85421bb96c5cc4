import StringOrigins.Text.Utf8

/-! # Decoding what has been encoded

    Decoding takes the sequence of one character after another, so that an
    encoded text is decoded to itself, also in front of other octets. -/

namespace StringOrigins.Utf8

/-! ## Section 1: One step of decoding -/

theorem decodeFrom_nil (offset : Nat) (done : List Char) :
    decodeFrom offset done [] = .ok done.reverse := by
  rw [decodeFrom]

/-- A single octet. -/
theorem decodeFrom_single {offset : Nat} {done : List Char} {b : UInt8} {rest : Octets}
    (small : b < 0x80) :
    decodeFrom offset done (b :: rest) =
      decodeFrom (offset + 1) (Char.ofNat b.toNat :: done) rest := by
  rw [decodeFrom, if_pos small]

/-- A sequence of several octets. -/
theorem decodeFrom_sequence {offset n : Nat} {done : List Char} {b : UInt8}
    {rest after : Octets} {lead : Lead} (large : ¬ b < 0x80) (leads : lead? b = some lead)
    (continued : continuation 0 lead.bits lead.low lead.high lead.following rest =
      .ok (n, after)) :
    decodeFrom offset done (b :: rest) =
      decodeFrom (offset + 1 + lead.following) (Char.ofNat n :: done) after := by
  rw [decodeFrom, if_neg large, leads]
  dsimp only
  split
  · rename_i eq
    rw [continued] at eq
    cases eq
  · rename_i eq
    rw [continued] at eq
    cases eq
    rfl

/-- An octet that starts no sequence. -/
theorem decodeFrom_unknown {offset : Nat} {done : List Char} {b : UInt8} {rest : Octets}
    (large : ¬ b < 0x80) (leads : lead? b = none) :
    decodeFrom offset done (b :: rest) = .error ⟨offset, b, 0, .invalidStart⟩ := by
  rw [decodeFrom, if_neg large, leads]

/-- A sequence that is not continued to its end. -/
theorem decodeFrom_broken {offset got : Nat} {done : List Char} {b : UInt8} {rest : Octets}
    {lead : Lead} {reason : Reason} (large : ¬ b < 0x80) (leads : lead? b = some lead)
    (broken : continuation 0 lead.bits lead.low lead.high lead.following rest =
      .error (got, reason)) :
    decodeFrom offset done (b :: rest) = .error ⟨offset, b, got, reason⟩ := by
  rw [decodeFrom, if_neg large, leads]
  dsimp only
  split
  · rename_i eq
    rw [broken] at eq
    cases eq
    rfl
  · rename_i eq
    rw [broken] at eq
    cases eq

/-- An octet that continues a sequence adds six bits. -/
theorem continuation_cons {got bits x wanted : Nat} {low high : UInt8} {rest : Octets}
    (small : x < 64) (above : low.toNat ≤ x + 0x80) (below : x + 0x80 ≤ high.toNat) :
    continuation got bits low high (wanted + 1) (UInt8.ofNat (x + 0x80) :: rest) =
      continuation (got + 1) (bits * 64 + x) 0x80 0xBF wanted rest := by
  have value : (UInt8.ofNat (x + 0x80)).toNat = x + 0x80 := by
    rw [UInt8.toNat_ofNat']
    omega
  have inside : low ≤ UInt8.ofNat (x + 0x80) ∧ UInt8.ofNat (x + 0x80) ≤ high := by
    rw [UInt8.le_iff_toNat_le, UInt8.le_iff_toNat_le, value]
    exact ⟨above, below⟩
  rw [continuation, if_pos inside, value, Nat.add_sub_cancel]

/-! ## Section 2: Sequences -/

/-- What is in front of a sequence of two octets. -/
theorem lead?_two : ∀ k < 32, 2 ≤ k →
    lead? (UInt8.ofNat (k + 0xC0)) = some ⟨1, k, 0x80, 0xBF⟩ ∧
      ¬ UInt8.ofNat (k + 0xC0) < 0x80 := by decide

/-- What is in front of a sequence of three octets.  The second octet keeps
    overlong forms and surrogates out. -/
theorem lead?_three : ∀ k < 16,
    lead? (UInt8.ofNat (k + 0xE0)) =
        some ⟨2, k, if k = 0 then 0xA0 else 0x80, if k = 13 then 0x9F else 0xBF⟩ ∧
      ¬ UInt8.ofNat (k + 0xE0) < 0x80 := by decide

/-- What is in front of a sequence of four octets.  The second octet keeps
    overlong forms and values that are too large out. -/
theorem lead?_four : ∀ k < 5,
    lead? (UInt8.ofNat (k + 0xF0)) =
        some ⟨3, k, if k = 0 then 0x90 else 0x80, if k = 4 then 0x8F else 0xBF⟩ ∧
      ¬ UInt8.ofNat (k + 0xF0) < 0x80 := by decide

section sequences

variable {offset k x y z : Nat} {done : List Char} {rest : Octets}

/-- The second octet is above its range's lower end, which one lead raises. -/
theorem above_low {e bound : Nat} {b : UInt8} (value : b.toNat = bound + 0x80)
    (raised : k = e → bound ≤ x) : (if k = e then b else 0x80 : UInt8).toNat ≤ x + 0x80 := by
  split
  · rename_i special
    have le := raised special
    omega
  · exact Nat.le_add_left _ _

/-- And it is below the upper end, which one lead lowers. -/
theorem below_high {e bound : Nat} {b : UInt8} (hx : x < 64) (value : b.toNat + 1 = bound + 0x80)
    (lowered : k = e → x < bound) : x + 0x80 ≤ (if k = e then b else 0xBF : UInt8).toNat := by
  split
  · rename_i special
    have lt := lowered special
    omega
  · show x + 0x80 ≤ 0xBF
    omega

/-- The last octet of a sequence. -/
theorem continuation_last {got bits : Nat} (hz : z < 64) :
    continuation got bits 0x80 0xBF 1 (UInt8.ofNat (z + 0x80) :: rest) =
      .ok (bits * 64 + z, rest) := by
  have above : (0x80 : UInt8).toNat ≤ z + 0x80 := Nat.le_add_left _ _
  have below : z + 0x80 ≤ (0xBF : UInt8).toNat := by
    show z + 0x80 ≤ 0xBF
    omega
  rw [continuation_cons hz above below]
  rfl

/-- The last two octets of a sequence. -/
theorem continuation_last_two {got bits : Nat} (hy : y < 64) (hz : z < 64) :
    continuation got bits 0x80 0xBF 2 (UInt8.ofNat (y + 0x80) :: UInt8.ofNat (z + 0x80) :: rest) =
      .ok ((bits * 64 + y) * 64 + z, rest) := by
  have above : (0x80 : UInt8).toNat ≤ y + 0x80 := Nat.le_add_left _ _
  have below : y + 0x80 ≤ (0xBF : UInt8).toNat := by
    show y + 0x80 ≤ 0xBF
    omega
  rw [continuation_cons hy above below, continuation_last hz]

/-- A sequence of two octets is taken from the front. -/
theorem decodeFrom_two (hk : 2 ≤ k ∧ k < 32) (hz : z < 64) :
    decodeFrom offset done (UInt8.ofNat (k + 0xC0) :: UInt8.ofNat (z + 0x80) :: rest) =
      decodeFrom (offset + 2) (Char.ofNat (k * 64 + z) :: done) rest := by
  obtain ⟨leads, large⟩ := lead?_two k hk.2 hk.1
  exact decodeFrom_sequence large leads (continuation_last hz)

/-- A sequence of three octets, unless a shorter one would do or it encodes a
    surrogate. -/
theorem decodeFrom_three (hk : k < 16) (hy : y < 64) (hz : z < 64)
    (overlong : k = 0 → 0x20 ≤ y) (surrogate : k = 13 → y < 0x20) :
    decodeFrom offset done
        (UInt8.ofNat (k + 0xE0) :: UInt8.ofNat (y + 0x80) :: UInt8.ofNat (z + 0x80) :: rest) =
      decodeFrom (offset + 3) (Char.ofNat ((k * 64 + y) * 64 + z) :: done) rest := by
  obtain ⟨leads, large⟩ := lead?_three k hk
  have above : (if k = 0 then 0xA0 else 0x80 : UInt8).toNat ≤ y + 0x80 := above_low rfl overlong
  have below : y + 0x80 ≤ (if k = 13 then 0x9F else 0xBF : UInt8).toNat :=
    below_high hy rfl surrogate
  refine decodeFrom_sequence large leads ?_
  exact (continuation_cons hy above below).trans (continuation_last hz)

/-- A sequence of four octets, unless a shorter one would do or its value is
    too large. -/
theorem decodeFrom_four (hk : k < 5) (hx : x < 64) (hy : y < 64) (hz : z < 64)
    (overlong : k = 0 → 0x10 ≤ x) (tooLarge : k = 4 → x < 0x10) :
    decodeFrom offset done
        (UInt8.ofNat (k + 0xF0) :: UInt8.ofNat (x + 0x80) :: UInt8.ofNat (y + 0x80) ::
          UInt8.ofNat (z + 0x80) :: rest) =
      decodeFrom (offset + 4) (Char.ofNat (((k * 64 + x) * 64 + y) * 64 + z) :: done) rest := by
  obtain ⟨leads, large⟩ := lead?_four k hk
  have above : (if k = 0 then 0x90 else 0x80 : UInt8).toNat ≤ x + 0x80 := above_low rfl overlong
  have below : x + 0x80 ≤ (if k = 4 then 0x8F else 0xBF : UInt8).toNat :=
    below_high hx rfl tooLarge
  refine decodeFrom_sequence large leads ?_
  exact (continuation_cons hx above below).trans (continuation_last_two hy hz)

end sequences

/-! ## Section 3: Texts -/

/-- A character is a value on either side of the surrogates. -/
theorem toNat_range (c : Char) : c.toNat < 0xD800 ∨ 0xDFFF < c.toNat ∧ c.toNat < 0x110000 :=
  c.valid

/-- A character below U+0080 is one octet. -/
theorem encodeChar_of_one {c : Char} (high : c.toNat ≤ 0x7F) :
    String.utf8EncodeChar c = [UInt8.ofNat c.toNat] := if_pos high

/-- A character below U+0800 is at most two octets. -/
theorem encodeChar_of_two {c : Char} (low : ¬ c.toNat ≤ 0x7F) (high : c.toNat ≤ 0x7FF) :
    String.utf8EncodeChar c =
      [UInt8.ofNat (c.toNat / 64 % 32 + 0xC0), UInt8.ofNat (c.toNat % 64 + 0x80)] :=
  (if_neg low).trans (if_pos high)

/-- A character below U+10000 is at most three octets. -/
theorem encodeChar_of_three {c : Char} (low : ¬ c.toNat ≤ 0x7FF) (high : c.toNat ≤ 0xFFFF) :
    String.utf8EncodeChar c =
      [UInt8.ofNat (c.toNat / 4096 % 16 + 0xE0), UInt8.ofNat (c.toNat / 64 % 64 + 0x80),
        UInt8.ofNat (c.toNat % 64 + 0x80)] := by
  have low' : ¬ c.toNat ≤ 0x7F := by omega
  exact (if_neg low').trans ((if_neg low).trans (if_pos high))

/-- Any other character is four octets. -/
theorem encodeChar_of_four {c : Char} (low : ¬ c.toNat ≤ 0xFFFF) :
    String.utf8EncodeChar c =
      [UInt8.ofNat (c.toNat / 262144 % 8 + 0xF0), UInt8.ofNat (c.toNat / 4096 % 64 + 0x80),
        UInt8.ofNat (c.toNat / 64 % 64 + 0x80), UInt8.ofNat (c.toNat % 64 + 0x80)] := by
  have low' : ¬ c.toNat ≤ 0x7F := by omega
  have low'' : ¬ c.toNat ≤ 0x7FF := by omega
  exact (if_neg low').trans ((if_neg low'').trans (if_neg low))

/-- Decoding takes an encoded character from the front. -/
theorem decodeFrom_encodeChar (offset : Nat) (done : List Char) (c : Char) (rest : Octets) :
    decodeFrom offset done (String.utf8EncodeChar c ++ rest) =
      decodeFrom (offset + (String.utf8EncodeChar c).length) (c :: done) rest := by
  have range := toNat_range c
  have same : Char.ofNat c.toNat = c := Char.ofNat_toNat c
  -- The four lengths of a sequence, and in each the bits put together again.
  by_cases one : c.toNat ≤ 0x7F
  · have value : (UInt8.ofNat c.toNat).toNat = c.toNat := by
      rw [UInt8.toNat_ofNat']
      omega
    have small : UInt8.ofNat c.toNat < 0x80 := by
      rw [UInt8.lt_iff_toNat_lt, value]
      exact Nat.lt_succ_of_le one
    rw [encodeChar_of_one one, List.singleton_append, decodeFrom_single small, value, same]
    rfl
  · by_cases two : c.toNat ≤ 0x7FF
    · have bits : c.toNat / 64 % 32 * 64 + c.toNat % 64 = c.toNat := by omega
      rw [encodeChar_of_two one two]
      refine (decodeFrom_two (by omega) (by omega)).trans ?_
      rw [bits, same]
      rfl
    · by_cases three : c.toNat ≤ 0xFFFF
      · have bits : (c.toNat / 4096 % 16 * 64 + c.toNat / 64 % 64) * 64 + c.toNat % 64 =
            c.toNat := by
          omega
        rw [encodeChar_of_three two three]
        refine (decodeFrom_three (by omega) (by omega) (by omega) (by omega) (by omega)).trans ?_
        rw [bits, same]
        rfl
      · have bits : ((c.toNat / 262144 % 8 * 64 + c.toNat / 4096 % 64) * 64 +
            c.toNat / 64 % 64) * 64 + c.toNat % 64 = c.toNat := by
          omega
        rw [encodeChar_of_four three]
        refine (decodeFrom_four (by omega) (by omega) (by omega) (by omega) (by omega)
          (by omega)).trans ?_
        rw [bits, same]
        rfl

/-- Decoding takes an encoded text from the front. -/
theorem decodeFrom_encode_append (offset : Nat) (done s : List Char) (rest : Octets) :
    decodeFrom offset done (encode s ++ rest) =
      decodeFrom (offset + (encode s).length) (s.reverse ++ done) rest := by
  induction s generalizing offset done with
  | nil => rfl
  | cons c s ih =>
    have split : encode (c :: s) = String.utf8EncodeChar c ++ encode s := List.flatMap_cons
    rw [split, List.append_assoc, decodeFrom_encodeChar, ih, List.reverse_cons, List.append_assoc,
      List.length_append, Nat.add_assoc]
    rfl

/-- An encoded text is decoded to itself. -/
theorem decode_encode (s : List Char) : decode (encode s) = .ok s := by
  have whole := decodeFrom_encode_append 0 [] s []
  rw [List.append_nil, decodeFrom_nil, List.append_nil, List.reverse_reverse] at whole
  exact whole

/-! ## Section 4: Texts that are cut -/

/-- A sequence with too few octets cannot be continued to its end. -/
theorem continuation_of_short {got bits wanted : Nat} {low high : UInt8} {rest : Octets}
    (short : rest.length < wanted) :
    ∃ fault, continuation got bits low high wanted rest = .error fault := by
  induction wanted generalizing got bits low high rest with
  | zero => exact absurd short (Nat.not_lt_zero _)
  | succ wanted ih =>
    cases rest with
    | nil => exact ⟨_, rfl⟩
    | cons b rest =>
      rw [continuation]
      split
      · exact ih (by simpa using short)
      · exact ⟨_, rfl⟩

/-- A sequence is a single octet, or its first octet announces the others. -/
theorem utf8EncodeChar_cases (c : Char) :
    (∃ b, String.utf8EncodeChar c = [b]) ∨
      ∃ b rest lead, String.utf8EncodeChar c = b :: rest ∧ ¬ b < 0x80 ∧ lead? b = some lead ∧
        lead.following = rest.length := by
  have range := toNat_range c
  by_cases one : c.toNat ≤ 0x7F
  · exact .inl ⟨_, encodeChar_of_one one⟩
  · by_cases two : c.toNat ≤ 0x7FF
    · obtain ⟨leads, large⟩ := lead?_two (c.toNat / 64 % 32) (by omega) (by omega)
      exact .inr ⟨_, _, _, encodeChar_of_two one two, large, leads, rfl⟩
    · by_cases three : c.toNat ≤ 0xFFFF
      · obtain ⟨leads, large⟩ := lead?_three (c.toNat / 4096 % 16) (by omega)
        exact .inr ⟨_, _, _, encodeChar_of_three two three, large, leads, rfl⟩
      · obtain ⟨leads, large⟩ := lead?_four (c.toNat / 262144 % 8) (by omega)
        exact .inr ⟨_, _, _, encodeChar_of_four three, large, leads, rfl⟩

/-- A character whose octets are cut is not decoded. -/
theorem decodeFrom_of_cutChar {offset : Nat} {done : List Char} {c : Char} {octets missing : Octets}
    (whole : octets ++ missing = String.utf8EncodeChar c) (some' : octets ≠ [])
    (short : missing ≠ []) : ∃ fault, decodeFrom offset done octets = .error fault := by
  obtain ⟨b, rest, rfl⟩ := List.exists_cons_of_ne_nil some'
  have missed : 0 < missing.length := List.length_pos_iff.2 short
  rcases utf8EncodeChar_cases c with ⟨b', single⟩ | ⟨b', others, lead, several, large, leads, length⟩
  · have lengths := congrArg List.length (whole.trans single)
    simp only [List.length_append, List.length_cons, List.length_nil] at lengths
    omega
  · have split := whole.trans several
    rw [List.cons_append] at split
    obtain ⟨rfl, same⟩ := List.cons.inj split
    have few : rest.length < lead.following := by
      rw [length, ← same, List.length_append]
      omega
    obtain ⟨⟨got, reason⟩, failed⟩ : ∃ fault,
        continuation 0 lead.bits lead.low lead.high lead.following rest = .error fault :=
      continuation_of_short few
    exact ⟨_, decodeFrom_broken large leads failed⟩

/-- An encoded text that is cut is an encoded beginning of it, or it is cut
    inside of a character and is not decoded. -/
theorem decodeFrom_of_cut {offset : Nat} {done s : List Char} {octets missing : Octets}
    (whole : octets ++ missing = encode s) :
    (∃ part rest, part ++ rest = s ∧ octets = encode part) ∨
      ∃ fault, decodeFrom offset done octets = .error fault := by
  induction s generalizing offset done octets with
  | nil =>
    have none' : octets = [] := (List.append_eq_nil_iff.1 whole).1
    exact .inl ⟨[], [], rfl, none'⟩
  | cons c s ih =>
    have split : octets ++ missing = String.utf8EncodeChar c ++ encode s := whole
    rcases List.append_eq_append_iff.1 split with ⟨cut, char, -⟩ | ⟨behind, rfl, later⟩
    · -- The cut is in the first character, or right in front of or behind it.
      by_cases empty : octets = []
      · exact .inl ⟨[], c :: s, rfl, empty⟩
      · by_cases full : cut = []
        · rw [full, List.append_nil] at char
          refine .inl ⟨[c], s, rfl, ?_⟩
          rw [← char]
          exact (List.flatMap_singleton _ _).symm
        · exact .inr (decodeFrom_of_cutChar char.symm empty full)
    · rw [decodeFrom_encodeChar]
      rcases ih later.symm with ⟨part, rest, rfl, rfl⟩ | failed
      · exact .inl ⟨c :: part, rest, rfl, rfl⟩
      · exact .inr failed

/-- So it is from the start. -/
theorem decode_of_cut {s : List Char} {octets missing : Octets}
    (whole : octets ++ missing = encode s) :
    (∃ part rest, part ++ rest = s ∧ octets = encode part) ∨
      ∃ fault, decode octets = .error fault :=
  decodeFrom_of_cut whole

end StringOrigins.Utf8
