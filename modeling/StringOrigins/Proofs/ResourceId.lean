import StringOrigins.Proofs.Text.Hex
import StringOrigins.Proofs.Text.Line
import StringOrigins.ResourceId

/-! # The text of a resource id

    The sign and the digits of an id are read back from its text, so that
    different ids have different texts (`chars_injective`).  What is read
    as an id is a literal in base sixteen that fits in 32 bits
    (`reading_read`).  The text of an id that is not negative is its literal
    (`isLiteral_chars`), and it has eight digits if the id fits in 32 bits, so
    that the texts have the order of the ids (`text_lt_text_iff`).  The text of
    any other id is refused (`read_chars`). -/

namespace StringOrigins.ResourceId

/-! ## Section 1: Sign and digits -/

/-- Behind the sign stand zeros and digits that are read as the magnitude. -/
theorem exists_digits (id : Int) :
    ∃ digits, padded id = sign id ++ digits ∧ Hex.value? digits = some id.natAbs := by
  unfold padded
  refine ⟨_, List.append_assoc _ _ _, ?_⟩
  exact Hex.value?_zeros_append Hex.digit?_upperDigit _ id.natAbs

/-- The `0x` stands apart from the rest. -/
theorem text_eq (id : Int) : text id = "0x" ++ String.ofList (padded id) := by
  show String.ofList (['0', 'x'] ++ padded id) = _
  rw [String.ofList_append]

theorem sign_of_neg {id : Int} (negative : id < 0) : sign id = ['-'] := if_pos negative

theorem sign_of_nonneg {id : Int} (positive : 0 ≤ id) : sign id = [] :=
  if_neg (Int.not_lt.2 positive)

/-- A minus starts no number. -/
theorem value?_minus (digits : List Char) : Hex.value? ('-' :: digits) = none := by
  have minus : Hex.push? 0 '-' = none := by decide
  unfold Hex.value?
  rw [List.foldlM_cons, minus]
  rfl

/-- A text with a sign is not the text of an id without one. -/
theorem padded_ne_of_sign {a b : Int} (negative : a < 0) (positive : 0 ≤ b) :
    padded a ≠ padded b := by
  obtain ⟨digits, text, -⟩ := exists_digits a
  obtain ⟨digits', text', read⟩ := exists_digits b
  rw [text, text', sign_of_neg negative, sign_of_nonneg positive]
  intro same
  have minus : '-' :: digits = digits' := same
  rw [← minus, value?_minus] at read
  cases read

/-! ## Section 2: Different ids -/

/-- Ids with the same text are the same, whatever their sizes and signs. -/
theorem chars_injective {a b : Int} (same : chars a = chars b) : a = b := by
  have text : padded a = padded b := (List.cons.inj (List.cons.inj same).2).2
  obtain ⟨digits, eq, read⟩ := exists_digits a
  obtain ⟨digits', eq', read'⟩ := exists_digits b
  -- Behind equal signs, the digits are the same text.
  have magnitude : sign a = sign b → a.natAbs = b.natAbs := by
    intro signs
    have rest : digits = digits' := by
      rw [eq, eq', signs] at text
      exact List.append_cancel_left text
    rw [rest, read'] at read
    exact (Option.some.inj read).symm
  by_cases negative : a < 0
  · by_cases negative' : b < 0
    · have equal := magnitude ((sign_of_neg negative).trans (sign_of_neg negative').symm)
      omega
    · exact absurd text (padded_ne_of_sign negative (Int.not_lt.1 negative'))
  · by_cases negative' : b < 0
    · exact absurd text.symm (padded_ne_of_sign negative' (Int.not_lt.1 negative))
    · have positive := sign_of_nonneg (Int.not_lt.1 negative)
      have positive' := sign_of_nonneg (Int.not_lt.1 negative')
      have equal := magnitude (positive.trans positive'.symm)
      omega

/-! ## Section 3: Literals -/

/-- Whether a text is the literal of a number: `0x` and digits of either
    case, at least one, whatever white space is around. -/
def IsLiteral (value : List Char) (n : Nat) : Prop :=
  ∃ digits, Text.strip value = '0' :: 'x' :: digits ∧ digits ≠ [] ∧
    (∀ c ∈ digits, Hex.IsDigit c) ∧ n = Hex.numberOf digits

theorem IsLiteral.unique {value : List Char} {m n : Nat} (first : IsLiteral value m)
    (second : IsLiteral value n) : m = n := by
  obtain ⟨digits, text, -, -, rfl⟩ := first
  obtain ⟨digits', text', -, -, rfl⟩ := second
  have same : '0' :: 'x' :: digits = '0' :: 'x' :: digits' := text.symm.trans text'
  rw [(List.cons.inj (List.cons.inj same).2).2]

/-- What stands behind `0x`. -/
theorem digits?_eq_some_iff {s digits : List Char} :
    digits? s = some digits ↔ s = '0' :: 'x' :: digits := by
  constructor
  · intro found
    unfold digits? at found
    split at found
    · rw [Option.some.inj found]
    · cases found
  · rintro rfl
    rfl

/-- What comes of reading a text as an id. -/
inductive Reading (value : List Char) : Except ReadError Nat → Prop where
  /-- It is no literal. -/
  | malformed (other : ∀ n, ¬ IsLiteral value n) : Reading value (.error .malformed)
  /-- It is the literal of a number that does not fit in 32 bits. -/
  | tooLarge (n : Nat) (literal : IsLiteral value n) (large : largest < n) :
      Reading value (.error .tooLarge)
  /-- It is the literal of a number that fits. -/
  | read (n : Nat) (literal : IsLiteral value n) (small : n ≤ largest) : Reading value (.ok n)

theorem reading_read (value : List Char) : Reading value (read value) := by
  have literal_iff : ∀ n, ((digits? (Text.strip value)).bind Hex.value?) = some n ↔
      IsLiteral value n := by
    intro n
    rw [Option.bind_eq_some_iff]
    unfold IsLiteral
    simp only [digits?_eq_some_iff, Hex.value?_eq_some_iff]
  unfold read
  rcases found : (digits? (Text.strip value)).bind Hex.value? with _ | n
  · refine .malformed (fun n literal => ?_)
    rw [(literal_iff n).2 literal] at found
    cases found
  · have literal := (literal_iff n).1 found
    dsimp only
    by_cases small : n ≤ largest
    · rw [if_pos small]
      exact .read n literal small
    · rw [if_neg small]
      exact .tooLarge n literal (Nat.not_le.1 small)

theorem read_eq_ok_iff {value : List Char} {n : Nat} :
    read value = .ok n ↔ IsLiteral value n ∧ n ≤ largest := by
  have reading := reading_read value
  generalize read value = result at reading
  cases reading with
  | malformed other => exact iff_of_false nofun (fun both => other n both.1)
  | tooLarge m literal large =>
    refine iff_of_false nofun (fun both => ?_)
    have same := literal.unique both.1
    omega
  | read m literal small =>
    constructor
    · intro done
      obtain rfl := Except.ok.inj done
      exact ⟨literal, small⟩
    · intro both
      rw [literal.unique both.1]

/-! ## Section 4: Ids that are not negative -/

/-- Such an id is written with digits only. -/
theorem exists_digits_of_nat (n : Nat) :
    ∃ digits, chars n = '0' :: 'x' :: digits ∧ digits ≠ [] ∧ (∀ c ∈ digits, Hex.IsDigit c) ∧
      n = Hex.numberOf digits := by
  obtain ⟨digits, text, read⟩ := exists_digits n
  rw [sign_of_nonneg (Int.natCast_nonneg n), List.nil_append] at text
  refine ⟨digits, ?_, Hex.value?_eq_some_iff.1 read⟩
  show '0' :: 'x' :: padded n = '0' :: 'x' :: digits
  rw [text]

/-- Its text consists of word characters. -/
theorem isWord_of_mem_chars {n : Nat} {c : Char} (m : c ∈ chars n) : Text.isWord c = true := by
  obtain ⟨digits, text, -, all, -⟩ := exists_digits_of_nat n
  rw [text, List.mem_cons, List.mem_cons] at m
  obtain rfl | rfl | m := m
  · decide
  · decide
  · exact Text.isWord_of_isAlphanum (all c m).isAlphanum (all c m).lt

/-- The text of such an id is its literal. -/
theorem isLiteral_chars (n : Nat) : IsLiteral (chars n) n := by
  obtain ⟨digits, text, nonempty, all, number⟩ := exists_digits_of_nat n
  have stripped : Text.strip (chars n) = chars n :=
    Text.strip_of_isWord (fun _ m => isWord_of_mem_chars m)
  exact ⟨digits, stripped.trans text, nonempty, all, number⟩

/-- It fills eight places with digits if it fits in 32 bits. -/
theorem padded_natCast (n : Nat) : padded n = (Hex.filled places n).map Hex.upperDigit := by
  have zero : Hex.upperDigit 0 = '0' := by decide
  unfold padded Hex.filled Hex.upper
  dsimp only
  rw [sign_of_nonneg (Int.natCast_nonneg n), List.map_append, List.map_replicate, zero,
    List.length_map]
  rfl

theorem lt_of_le_largest {n : Nat} (small : n ≤ largest) : n < Nat.pow 16 places :=
  Nat.lt_of_le_of_lt small (by decide)

/-- There are upper-case digits behind the `0x`, eight if the id fits in 32 bits. -/
theorem mem_of_mem_padded {n : Nat} {c : Char} (m : c ∈ padded n) :
    c ∈ "0123456789ABCDEF".toList := by
  rw [padded_natCast] at m
  obtain ⟨d, inside, rfl⟩ := List.mem_map.1 m
  exact Hex.upperDigit_mem d (Hex.lt_of_mem_filled inside)

theorem length_padded {n : Nat} (small : n ≤ largest) : (padded n).length = 8 := by
  rw [padded_natCast, List.length_map]
  exact Hex.length_filled (lt_of_le_largest small)

/-- Such texts are in the order of the ids. -/
theorem text_lt_text_iff {m n : Nat} (small : m ≤ largest) (small' : n ≤ largest) :
    text m < text n ↔ m < n := by
  have same : (Hex.filled places m).length = (Hex.filled places n).length :=
    (Hex.length_filled (lt_of_le_largest small)).trans
      (Hex.length_filled (lt_of_le_largest small')).symm
  have digits := Hex.map_lt_map_iff Hex.upperDigit_lt_upperDigit_iff same
    (fun _ => Hex.lt_of_mem_filled) (fun _ => Hex.lt_of_mem_filled) 0
  rw [Hex.foldl_filled, Hex.foldl_filled, ← padded_natCast, ← padded_natCast] at digits
  show (String.ofList (chars m)).toList < (String.ofList (chars n)).toList ↔ m < n
  rw [String.toList_ofList, String.toList_ofList, ← digits]
  -- Both start with the same two characters.
  simp [chars]

/-! ## Section 5: Ids of any size and sign -/

/-- There is no white space around the text of an id. -/
theorem strip_chars (id : Int) : Text.strip (chars id) = chars id := by
  obtain ⟨digits, text, read⟩ := exists_digits id
  obtain ⟨nonempty, all, -⟩ := Hex.value?_eq_some_iff.1 read
  apply Text.strip_of_ends
  · intro c first
    obtain rfl : '0' = c := Option.some.inj first
    decide
  · intro c last
    -- The last character is a digit, since there is one behind the sign.
    have whole : chars id = ('0' :: 'x' :: sign id) ++ digits := congrArg ('0' :: 'x' :: ·) text
    rw [whole, List.getLast?_append, List.getLast?_eq_some_getLast nonempty, Option.some_or,
      ← List.getLast?_eq_some_getLast nonempty] at last
    have digit := all c (List.mem_of_getLast? last)
    exact Text.isBlank_of_isWord (Text.isWord_of_isAlphanum digit.isAlphanum digit.lt)

/-- The text of an id is read back if the id is not negative and fits in 32
    bits.  The minus is no digit, and a number that is larger is too large. -/
theorem read_chars (id : Int) : read (chars id) =
    if id < 0 then .error .malformed
    else if id ≤ largest then .ok id.toNat else .error .tooLarge := by
  obtain ⟨digits, text, number⟩ := exists_digits id
  have behind : (digits? (chars id)).bind Hex.value? = Hex.value? (padded id) := rfl
  unfold read
  rw [strip_chars, behind, text]
  by_cases negative : id < 0
  · rw [if_pos negative, sign_of_neg negative, List.singleton_append, value?_minus]
  · rw [if_neg negative, sign_of_nonneg (Int.not_lt.1 negative), List.nil_append, number]
    have magnitude : id.natAbs = id.toNat := by omega
    dsimp only
    rw [magnitude]
    by_cases small : id ≤ largest
    · have small' : id.toNat ≤ largest := by omega
      rw [if_pos small, if_pos small']
    · have large : ¬ id.toNat ≤ largest := by omega
      rw [if_neg small, if_neg large]

end StringOrigins.ResourceId
