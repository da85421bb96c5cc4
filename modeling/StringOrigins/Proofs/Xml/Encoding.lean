import StringOrigins.Proofs.Text.Utf8
import StringOrigins.Proofs.Xml.Document

/-! # Encoding written documents

    A written document holds only characters that it may hold.  Encoded in
    UTF-8, with or without a byte order mark, or in UTF-16 with one, its
    octets are decoded to the same text (`decode_of_encodes`), so that they
    give the elements of its tree. -/

namespace StringOrigins.Xml

open Xml.Tree
open Utf8 (Octets)

/-! ## Section 1: Characters of written documents -/

theorem areAllowed_append (s t : List Char) :
    areAllowed (s ++ t) = (areAllowed s && areAllowed t) := List.all_append

theorem areAllowed_cons (c : Char) (s : List Char) :
    areAllowed (c :: s) = (isAllowed c.toNat && areAllowed s) := rfl

/-- A document may hold all characters of names. -/
theorem isAllowed_of_isNamePart {c : Char} (part : isNamePart c = true) :
    isAllowed c.toNat = true := by
  simp only [isNamePart, isNameStart, Text.inRanges, nameStartRanges, nameMoreRanges,
    List.any_cons, List.any_nil, Bool.or_eq_true, Bool.and_eq_true, decide_eq_true_eq,
    Bool.or_false] at part
  simp only [isAllowed, Bool.or_eq_true, Bool.and_eq_true, decide_eq_true_eq, beq_iff_eq]
  omega

theorem areAllowed_name {name : List Char} (plain : isPlainName name = true) :
    areAllowed name = true :=
  List.all_eq_true.2 fun _ m => isAllowed_of_isNamePart (isNamePart_of_mem plain m)

/-- Letters and digits are code points that a document may hold. -/
theorem isAllowed_of_isAlphanum {c : Char} (alphanum : c.isAlphanum = true) :
    isAllowed c.toNat = true := by
  have parts : ((c.isUpper || c.isLower) || c.isDigit) = true := alphanum
  rw [Bool.or_eq_true, Bool.or_eq_true] at parts
  have bounds : 0x30 ≤ c.toNat ∧ c.toNat ≤ 0x7A := by
    rcases parts with (upper | lower) | digit
    · have inside : 'A'.val ≤ c.val ∧ c.val ≤ 'Z'.val := of_decide_eq_true upper
      rw [UInt32.le_iff_toNat_le, UInt32.le_iff_toNat_le] at inside
      have inside' : 0x41 ≤ c.toNat ∧ c.toNat ≤ 0x5A := inside
      omega
    · have inside : (decide ('a'.val ≤ c.val) && decide (c.val ≤ 'z'.val)) = true := lower
      rw [Bool.and_eq_true, decide_eq_true_eq, decide_eq_true_eq, UInt32.le_iff_toNat_le,
        UInt32.le_iff_toNat_le] at inside
      have inside' : 0x61 ≤ c.toNat ∧ c.toNat ≤ 0x7A := inside
      omega
    · have inside : 0x30 ≤ c.toNat ∧ c.toNat ≤ 0x39 := Char.isDigit_iff_toNat.1 digit
      omega
  simp only [isAllowed, Bool.or_eq_true, Bool.and_eq_true, decide_eq_true_eq, beq_iff_eq]
  omega

theorem isAllowed_of_isReferenceChar {c : Char} (used : isReferenceChar c = true) :
    isAllowed c.toNat = true := by
  simp only [isReferenceChar, Bool.or_eq_true, decide_eq_true_eq] at used
  rcases used with (alphanum | rfl) | rfl
  · exact isAllowed_of_isAlphanum alphanum
  · decide
  · decide

/-- References bring in no characters but letters, digits and their marks. -/
theorem areAllowed_of_spells {marks s written : List Char} (spells : Spells marks s written)
    (allowed : areAllowed s = true) : areAllowed written = true := by
  refine List.all_eq_true.2 fun d m => ?_
  rcases mem_of_spells spells m with ⟨given, -⟩ | rfl | used
  · exact List.all_eq_true.1 allowed d given
  · decide
  · exact isAllowed_of_isReferenceChar used

theorem areAllowed_of_writesAttributes {attributes : List (List Char × List Char)}
    {written : List Char} (writes : WritesAttributes attributes written)
    (names : (attributes.all fun a => isPlainName a.1) = true)
    (allowed : (attributes.all fun a => areAllowed a.2) = true) : areAllowed written = true := by
  induction writes with
  | nil => rfl
  | cons spells rest ih =>
    rw [List.all_cons, Bool.and_eq_true] at names allowed
    simp only [areAllowed_cons, areAllowed_append, areAllowed_name names.1,
      areAllowed_of_spells spells allowed.1, ih names.2 allowed.2]
    rfl

/-- A document may hold all that is written. -/
theorem areAllowed_of_writes {content : Content} {written : List Char}
    (writes : Writes content written) : areAllowed written = true := by
  have marks : areAllowed "<![CDATA[".toList = true ∧ areAllowed "]]>".toList = true ∧
      areAllowed "<!--".toList = true ∧ areAllowed "-->".toList = true ∧
      areAllowed "?>".toList = true := by
    decide
  obtain ⟨opensSection, endsSection, opensComment, endsComment, endsInstruction⟩ := marks
  induction writes with
  | none => rfl
  | @element label inside rest attributes inner outer tag content more ihInside ihRest =>
    simp only [areAllowed_cons, areAllowed_append, areAllowed_name label.isName,
      areAllowed_of_writesAttributes tag label.areNames label.areAllowed, ihInside, ihRest]
    rfl
  | @empty label rest attributes outer tag more ih =>
    simp only [areAllowed_cons, areAllowed_append, areAllowed_name label.isName,
      areAllowed_of_writesAttributes tag label.areNames label.areAllowed, ih]
    rfl
  | @text part rest spelled outer spells more ih =>
    rw [areAllowed_append, areAllowed_of_spells spells part.isAllowed, ih]
    rfl
  | @characters part rest outer more ih =>
    simp only [areAllowed_append, opensSection, part.isAllowed, endsSection, ih, Bool.and_self]
  | @comment part rest outer more ih =>
    simp only [areAllowed_append, opensComment, part.isAllowed, endsComment, ih, Bool.and_self]
  | @instruction part rest outer more ih =>
    simp only [areAllowed_cons, areAllowed_append, areAllowed_name part.isName, part.isAllowed,
      endsInstruction, ih]
    rfl
  | @target part rest outer empty more ih =>
    simp only [areAllowed_cons, areAllowed_append, areAllowed_name part.isName, endsInstruction, ih]
    rfl

/-! ## Section 2: UTF-16 -/

/-- The code units of a character: one, or a pair of surrogates. -/
def units (c : Char) : List Nat :=
  if c.toNat < 0x10000 then [c.toNat]
  else [0xD800 + (c.toNat - 0x10000) / 0x400, 0xDC00 + (c.toNat - 0x10000) % 0x400]

/-- The two octets of a code unit. -/
def unitOctets (bigEndian : Bool) (n : Nat) : Octets :=
  if bigEndian then [UInt8.ofNat (n / 256), UInt8.ofNat (n % 256)]
  else [UInt8.ofNat (n % 256), UInt8.ofNat (n / 256)]

/-- The UTF-16 form of a text. -/
def encodeUtf16 (bigEndian : Bool) (s : List Char) : Octets :=
  s.flatMap fun c => (units c).flatMap (unitOctets bigEndian)

/-- The octets of a code unit, and that they make it up. -/
theorem unitOctets_spec (bigEndian : Bool) {n : Nat} (small : n < 0x10000) :
    ∃ a b, unitOctets bigEndian n = [a, b] ∧ Encoding.unit bigEndian a b = n := by
  have high : (UInt8.ofNat (n / 256)).toNat = n / 256 := by
    rw [UInt8.toNat_ofNat']
    omega
  have low : (UInt8.ofNat (n % 256)).toNat = n % 256 := by
    rw [UInt8.toNat_ofNat']
    omega
  cases bigEndian with
  | true =>
    refine ⟨_, _, rfl, ?_⟩
    rw [Encoding.unit, if_pos rfl, high, low]
    omega
  | false =>
    refine ⟨_, _, rfl, ?_⟩
    rw [Encoding.unit, if_neg Bool.false_ne_true, high, low]
    omega

section steps

variable {big : Bool} {done : List Char} {a b a' b' : UInt8} {rest : Octets}

/-- A unit that is no surrogate is a character. -/
theorem utf16From_single
    (outside : Encoding.unit big a b < 0xD800 ∨ 0xE000 ≤ Encoding.unit big a b) :
    Encoding.utf16From big done (a :: b :: rest) =
      Encoding.utf16From big (Char.ofNat (Encoding.unit big a b) :: done) rest := by
  rw [Encoding.utf16From.eq_def]
  exact if_pos outside

/-- Two surrogates in their order are one. -/
theorem utf16From_pair
    (inside : ¬ (Encoding.unit big a b < 0xD800 ∨ 0xE000 ≤ Encoding.unit big a b))
    (paired : Encoding.unit big a b < 0xDC00 ∧ 0xDC00 ≤ Encoding.unit big a' b' ∧
      Encoding.unit big a' b' < 0xE000) :
    Encoding.utf16From big done (a :: b :: a' :: b' :: rest) =
      Encoding.utf16From big (Char.ofNat (0x10000 + (Encoding.unit big a b - 0xD800) * 0x400 +
        (Encoding.unit big a' b' - 0xDC00)) :: done) rest := by
  rw [Encoding.utf16From.eq_def]
  exact (if_neg inside).trans (if_pos paired)

end steps

/-- Decoding takes a character from the front. -/
theorem utf16From_units (bigEndian : Bool) (done : List Char) (c : Char) (rest : Octets) :
    Encoding.utf16From bigEndian done ((units c).flatMap (unitOctets bigEndian) ++ rest) =
      Encoding.utf16From bigEndian (c :: done) rest := by
  have range := Utf8.toNat_range c
  have same : Char.ofNat c.toNat = c := Char.ofNat_toNat c
  by_cases single : c.toNat < 0x10000
  · obtain ⟨a, b, octets, value⟩ := unitOctets_spec bigEndian single
    have outside : c.toNat < 0xD800 ∨ 0xE000 ≤ c.toNat := by omega
    rw [units, if_pos single, List.flatMap_singleton, octets]
    show Encoding.utf16From bigEndian done (a :: b :: rest) = _
    rw [utf16From_single (by rw [value]; exact outside), value, same]
  · -- The pair is put together again from its two halves.
    obtain ⟨a, b, octets, high⟩ :=
      unitOctets_spec bigEndian (n := 0xD800 + (c.toNat - 0x10000) / 0x400) (by omega)
    obtain ⟨a', b', octets', low⟩ :=
      unitOctets_spec bigEndian (n := 0xDC00 + (c.toNat - 0x10000) % 0x400) (by omega)
    rw [units, if_neg single, List.flatMap_cons, List.flatMap_singleton, octets, octets']
    show Encoding.utf16From bigEndian done (a :: b :: a' :: b' :: rest) = _
    have inside : ¬ (0xD800 + (c.toNat - 0x10000) / 0x400 < 0xD800 ∨
        0xE000 ≤ 0xD800 + (c.toNat - 0x10000) / 0x400) := by omega
    have paired : 0xD800 + (c.toNat - 0x10000) / 0x400 < 0xDC00 ∧
        0xDC00 ≤ 0xDC00 + (c.toNat - 0x10000) % 0x400 ∧
        0xDC00 + (c.toNat - 0x10000) % 0x400 < 0xE000 := by omega
    have whole : 0x10000 + (0xD800 + (c.toNat - 0x10000) / 0x400 - 0xD800) * 0x400 +
        (0xDC00 + (c.toNat - 0x10000) % 0x400 - 0xDC00) = c.toNat := by omega
    rw [utf16From_pair (by rw [high]; exact inside) (by rw [high, low]; exact paired), high, low,
      whole, same]

/-- An encoded text is decoded to itself. -/
theorem utf16From_encode (bigEndian : Bool) (done s : List Char) :
    Encoding.utf16From bigEndian done (encodeUtf16 bigEndian s) = some (done.reverse ++ s) := by
  induction s generalizing done with
  | nil =>
    show some done.reverse = _
    rw [List.append_nil]
  | cons c s ih =>
    have split : encodeUtf16 bigEndian (c :: s) =
        (units c).flatMap (unitOctets bigEndian) ++ encodeUtf16 bigEndian s := List.flatMap_cons
    rw [split, utf16From_units, ih, List.reverse_cons, List.append_assoc]
    rfl

/-! ## Section 3: Octets of documents -/

/-- The octets that a text may be stored as. -/
inductive Stores (text : List Char) : Octets → Prop where
  | utf8 : Stores text (Utf8.encode text)
  /-- With a byte order mark, as the encodings below. -/
  | utf8Marked : Stores text (0xEF :: 0xBB :: 0xBF :: Utf8.encode text)
  | littleEndian : Stores text (0xFF :: 0xFE :: encodeUtf16 false text)
  | bigEndian : Stores text (0xFE :: 0xFF :: encodeUtf16 true text)

/-- The first octet of a character is the character itself or none of ASCII. -/
theorem utf8EncodeChar_head (c : Char) :
    ∃ b rest, String.utf8EncodeChar c = b :: rest ∧ (b.toNat = c.toNat ∨ 0xC0 ≤ b.toNat) := by
  -- Behind the bits of a leading octet there is always a mark.
  have large : ∀ n < 0x100, 0xC0 ≤ n → 0xC0 ≤ (UInt8.ofNat n).toNat := by
    intro n small marked
    rw [UInt8.toNat_ofNat']
    omega
  by_cases one : c.toNat ≤ 0x7F
  · refine ⟨UInt8.ofNat c.toNat, [], Utf8.encodeChar_of_one one, .inl ?_⟩
    rw [UInt8.toNat_ofNat']
    omega
  · by_cases two : c.toNat ≤ 0x7FF
    · exact ⟨_, _, Utf8.encodeChar_of_two one two, .inr (large _ (by omega) (by omega))⟩
    · by_cases three : c.toNat ≤ 0xFFFF
      · exact ⟨_, _, Utf8.encodeChar_of_three two three, .inr (large _ (by omega) (by omega))⟩
      · exact ⟨_, _, Utf8.encodeChar_of_four three, .inr (large _ (by omega) (by omega))⟩

/-- Octets that start a tag in UTF-8 show no other encoding. -/
theorem detect_of_tag {b : UInt8} {rest : Octets} (nonzero : b.toNat ≠ 0) (other : b.toNat ≠ 0x3F) :
    Encoding.detect (0x3C :: b :: rest) = .ok (.utf8, 0x3C :: b :: rest) := by
  have notZero : b ≠ 0 := by
    rintro rfl
    exact nonzero rfl
  have marks : ∀ n < 256, Char.ofNat n = '?' → n = 0x3F := by decide +kernel
  have notMark : Char.ofNat b.toNat ≠ '?' := fun same => other (marks _ b.toNat_lt same)
  have undeclared : Encoding.declared (0x3C :: b :: rest) = .ok .utf8 := by
    have text : (0x3C :: b :: rest).map (fun octet => Char.ofNat octet.toNat) =
        '<' :: Char.ofNat b.toNat :: rest.map fun octet => Char.ofNat octet.toNat := rfl
    rw [Encoding.declared, text, Declaration.read_of_ne notMark]
  unfold Encoding.detect
  split
  · rename_i same
    cases same
  · rename_i same
    cases same
  · rename_i same
    cases same
  · rename_i same
    exact absurd (List.cons.inj (List.cons.inj same).2).1 notZero
  · rename_i same
    cases same
  · rw [undeclared]
    rfl

/-- How a text that starts with a tag starts in UTF-8. -/
theorem encode_of_tag {c : Char} (starts : isNameStart c = true) (more : List Char) :
    ∃ b rest, Utf8.encode ('<' :: c :: more) = 0x3C :: b :: rest ∧ b.toNat ≠ 0 ∧
      b.toNat ≠ 0x3F := by
  obtain ⟨b, rest, split, first⟩ := utf8EncodeChar_head c
  have notNull : c.toNat ≠ 0 := fun same =>
    ne_of_isNameStart starts (show isNameStart '\x00' = false by decide) (Char.toNat_inj.1 same)
  have notMark : c.toNat ≠ 0x3F := fun same =>
    ne_of_isNameStart starts (show isNameStart '?' = false by decide) (Char.toNat_inj.1 same)
  refine ⟨b, rest ++ Utf8.encode more, ?_, by omega, by omega⟩
  show _ = [0x3C] ++ ((b :: rest) ++ Utf8.encode more)
  rw [← split]
  rfl

/-- A stored text that starts with a tag is decoded to itself. -/
theorem decode_of_stores {text : List Char} {octets : Octets} (stores : Stores text octets)
    (allowed : areAllowed text = true)
    (tag : ∃ c more, text = '<' :: c :: more ∧ isNameStart c = true) :
    Encoding.decode octets = .ok text := by
  -- It is enough that the right encoding is told and gives the text.
  have decoded : ∀ {encoding : Encoding} {rest : Octets},
      Encoding.detect octets = .ok (encoding, rest) → encoding.decode? rest = some text →
      Encoding.decode octets = .ok text := by
    intro encoding rest told given
    have allowed' : (text.all fun c => isAllowed c.toNat) = true := allowed
    rw [Encoding.decode, told]
    dsimp only
    rw [given]
    exact if_pos allowed'
  have plain : Encoding.utf8.decode? (Utf8.encode text) = some text := by
    rw [Encoding.decode?, Utf8.decode_encode]
    rfl
  cases stores with
  | utf8 =>
    obtain ⟨c, more, rfl, starts⟩ := tag
    obtain ⟨b, rest, octets, notNull, notMark⟩ := encode_of_tag starts more
    rw [octets] at plain decoded ⊢
    exact decoded (detect_of_tag notNull notMark) plain
  | utf8Marked => exact decoded rfl plain
  | littleEndian => exact decoded rfl (utf16From_encode false [] text)
  | bigEndian => exact decoded rfl (utf16From_encode true [] text)

/-- A stored document is read as the elements of its tree. -/
theorem elements_of_stores (document : Document) {text : List Char} {octets : Octets}
    (writes : Writes document.content text) (stores : Stores text octets) :
    ∃ found : List Element, elements octets = .ok found ∧
      found.map Element.outline = document.outlines := by
  have text' := decode_of_stores stores (areAllowed_of_writes writes) (starts_of_writes writes)
  rw [elements, text']
  exact elementsOfText_of_writes document writes

end StringOrigins.Xml
