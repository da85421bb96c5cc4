import StringOrigins.Text.Hex

/-! # Reading hexadecimal text back

    The digits of a number stand for the number, whichever characters spell
    them and however many zeros stand before them.  The texts that are read
    are the non-empty runs of digits (`value?_eq_some_iff`).  Among texts of
    one length, the order of the texts is that of the numbers
    (`map_lt_map_iff`). -/

namespace StringOrigins.Hex

/-! ## Section 1: Digits -/

theorem digits_ne_nil (n : Nat) : digits n ≠ [] := by
  rw [digits]
  split <;> simp

/-- Each digit is below the base. -/
theorem lt_of_mem_digits {n d : Nat} (m : d ∈ digits n) : d < 16 := by
  induction n using digits.induct with
  | case1 n small =>
    rw [digits, if_pos small] at m
    rw [List.mem_singleton.1 m]
    exact small
  | case2 n large ih =>
    rw [digits, if_neg large] at m
    rcases List.mem_append.1 m with m | m
    · exact ih m
    · rw [List.mem_singleton.1 m]
      omega

/-- The digits of a number stand for it. -/
theorem foldl_digits (n : Nat) : (digits n).foldl (fun m d => 16 * m + d) 0 = n := by
  -- The last digit is the remainder that the others leave.
  induction n using digits.induct with
  | case1 n small =>
    rw [digits, if_pos small]
    simp
  | case2 n large ih =>
    rw [digits, if_neg large, List.foldl_append, ih]
    show 16 * (n / 16) + n % 16 = n
    omega

/-- A number has no more digits than the power that it is below. -/
theorem length_digits_le {n k : Nat} (small : n < Nat.pow 16 (k + 1)) :
    (digits n).length ≤ k + 1 := by
  induction k generalizing n with
  | zero =>
    have single : n < 16 := small
    rw [digits, if_pos single]
    simp
  | succ k ih =>
    rw [digits]
    split
    · simp
    · have next : n / 16 < Nat.pow 16 (k + 1) := by
        have small' : n < Nat.pow 16 (k + 1) * 16 := small
        omega
      have shorter := ih next
      rw [List.length_append, List.length_singleton]
      omega

/-! ## Section 2: Reading -/

theorem digit?_lowerDigit : ∀ d < 16, digit? (lowerDigit d) = some d := by decide

theorem digit?_upperDigit : ∀ d < 16, digit? (upperDigit d) = some d := by decide

section spelling

variable {spell : Nat → Char} (reads : ∀ d < 16, digit? (spell d) = some d)

include reads

/-- Digits are read as they are spelled, behind any number. -/
theorem foldlM_map_spell {values : List Nat} (small : ∀ d ∈ values, d < 16) (m : Nat) :
    (values.map spell).foldlM push? m = some (values.foldl (fun m d => 16 * m + d) m) := by
  induction values generalizing m with
  | nil => rfl
  | cons d rest ih =>
    have first : push? m (spell d) = some (16 * m + d) := by
      unfold push?
      rw [reads d (small d List.mem_cons_self)]
      rfl
    rw [List.map_cons, List.foldlM_cons, first]
    exact ih (fun d m => small d (List.mem_cons_of_mem _ m)) (16 * m + d)

omit reads in
/-- Leading zeros are read as nothing. -/
theorem foldlM_zeros_append (k : Nat) (s : List Char) :
    (List.replicate k '0' ++ s).foldlM push? 0 = s.foldlM push? 0 := by
  induction k with
  | zero => rfl
  | succ k ih =>
    have zero : push? 0 '0' = some 0 := by decide
    rw [List.replicate_succ, List.cons_append, List.foldlM_cons, zero]
    exact ih

/-- A number that is spelled behind zeros is read back. -/
theorem value?_zeros_append (k n : Nat) :
    value? (List.replicate k '0' ++ (digits n).map spell) = some n := by
  have ne : (List.replicate k '0' ++ (digits n).map spell).isEmpty = false := by
    simp [digits_ne_nil n]
  unfold value?
  rw [ne, foldlM_zeros_append]
  show ((digits n).map spell).foldlM push? 0 = some n
  rw [foldlM_map_spell reads (fun _ => lt_of_mem_digits), foldl_digits]

end spelling

/-- Lower-case digits are read back, however many zeros fill them up. -/
theorem value?_lowerPadded (width n : Nat) : value? (lowerPadded width n) = some n :=
  value?_zeros_append digit?_lowerDigit _ n

/-- A number that needs no more places than there are fills these places. -/
theorem length_lowerPadded {width n : Nat} (small : n < Nat.pow 16 (width + 1)) :
    (lowerPadded (width + 1) n).length = width + 1 := by
  have le := length_digits_le small
  unfold lowerPadded
  simp only [List.length_append, List.length_replicate, List.length_map]
  omega

/-! ## Section 3: Which texts are numbers -/

/-- The sixteen digits in lower case, in the order of their values. -/
def alphabet : List Char := "0123456789abcdef".toList

/-- Whether a character is a digit, of either case. -/
def IsDigit (c : Char) : Prop := c.toLower ∈ alphabet

instance (c : Char) : Decidable (IsDigit c) := inferInstanceAs (Decidable (_ ∈ _))

/-- The value of a digit. -/
def valueOf (c : Char) : Nat := alphabet.idxOf c.toLower

/-- The number that digits stand for, most significant first. -/
def numberOf (digits : List Char) : Nat := digits.foldl (fun n c => 16 * n + valueOf c) 0

theorem digit?_ascii : ∀ n < 128, digit? (Char.ofNat n) =
    if IsDigit (Char.ofNat n) then some (valueOf (Char.ofNat n)) else none := by
  decide +kernel

theorem lt_of_mem_alphabet {c : Char} (m : c ∈ alphabet) : c.toNat < 128 := by
  have all : (alphabet.all fun c => decide (c.toNat < 128)) = true := by decide
  exact of_decide_eq_true (List.all_eq_true.1 all c m)

/-- Beyond ASCII there are no digits. -/
theorem digit?_of_large {c : Char} (large : 128 ≤ c.toNat) :
    digit? c = none ∧ ¬ IsDigit c := by
  -- The letters that end the two cases are below such a character.
  have beyond : ∀ d : Char, d.toNat < 128 → ¬ c ≤ d := by
    intro d small le
    have le' : c.toNat ≤ d.toNat := UInt32.le_iff_toNat_le.1 (Char.le_def.1 le)
    omega
  constructor
  · unfold digit?
    rw [if_neg (fun h => beyond '9' (by decide) h.2), if_neg (fun h => beyond 'f' (by decide) h.2),
      if_neg (fun h => beyond 'F' (by decide) h.2)]
  · intro m
    have same : c.toLower = c := by
      unfold Char.toLower
      rw [dif_neg]
      rintro ⟨-, le⟩
      exact beyond 'Z' (by decide) le
    unfold IsDigit at m
    rw [same] at m
    have small := lt_of_mem_alphabet m
    omega

theorem IsDigit.lt {c : Char} (digit : IsDigit c) : c.toNat < 128 := by
  apply Nat.lt_of_not_le
  intro large
  exact (digit?_of_large large).2 digit

theorem isAlphanum_ascii : ∀ n < 128, IsDigit (Char.ofNat n) →
    (Char.ofNat n).isAlphanum = true := by
  decide +kernel

/-- Digits are letters or decimal digits. -/
theorem IsDigit.isAlphanum {c : Char} (digit : IsDigit c) : c.isAlphanum = true := by
  have ascii := isAlphanum_ascii c.toNat digit.lt
  rw [Char.ofNat_toNat] at ascii
  exact ascii digit

/-- Exactly the digits are read, with their values. -/
theorem digit?_eq (c : Char) : digit? c = if IsDigit c then some (valueOf c) else none := by
  by_cases small : c.toNat < 128
  · have ascii := digit?_ascii c.toNat small
    rw [Char.ofNat_toNat] at ascii
    exact ascii
  · obtain ⟨unread, other⟩ := digit?_of_large (Nat.not_lt.1 small)
    rw [unread, if_neg other]

/-- Digits are read behind a number, and nothing else is. -/
theorem foldlM_push?_eq_some_iff {digits : List Char} {m n : Nat} :
    digits.foldlM push? m = some n ↔
      (∀ c ∈ digits, IsDigit c) ∧ n = digits.foldl (fun n c => 16 * n + valueOf c) m := by
  induction digits generalizing m with
  | nil =>
    rw [List.foldlM_nil]
    constructor
    · intro done
      exact ⟨fun c m => absurd m List.not_mem_nil, (Option.some.inj done).symm⟩
    · rintro ⟨-, rfl⟩
      rfl
  | cons c rest ih =>
    rw [List.foldlM_cons, push?, digit?_eq, List.forall_mem_cons]
    by_cases digit : IsDigit c
    · rw [if_pos digit]
      show rest.foldlM push? (16 * m + valueOf c) = some n ↔ _
      rw [ih, List.foldl_cons]
      exact ⟨fun ⟨all, eq⟩ => ⟨⟨digit, all⟩, eq⟩, fun ⟨⟨_, all⟩, eq⟩ => ⟨all, eq⟩⟩
    · rw [if_neg digit]
      exact ⟨fun done => (nomatch done), fun ⟨⟨first, _⟩, _⟩ => absurd first digit⟩

/-- The texts that are numbers are the non-empty runs of digits. -/
theorem value?_eq_some_iff {digits : List Char} {n : Nat} :
    value? digits = some n ↔ digits ≠ [] ∧ (∀ c ∈ digits, IsDigit c) ∧ n = numberOf digits := by
  unfold value? numberOf
  by_cases empty : digits = []
  · rw [if_pos (List.isEmpty_iff.2 empty)]
    exact ⟨fun done => (nomatch done), fun some => absurd empty some.1⟩
  · rw [if_neg (fun e => empty (List.isEmpty_iff.1 e)), foldlM_push?_eq_some_iff]
    exact ⟨fun all => ⟨empty, all⟩, fun all => all.2⟩

/-! ## Section 4: The order of digits -/

/-- The digit values of a number behind zeros, up to at least `width` places. -/
def filled (width n : Nat) : List Nat :=
  List.replicate (width - (digits n).length) 0 ++ digits n

theorem lt_of_mem_filled {width n d : Nat} (m : d ∈ filled width n) : d < 16 := by
  unfold filled at m
  rcases List.mem_append.1 m with m | m
  · rw [List.eq_of_mem_replicate m]
    omega
  · exact lt_of_mem_digits m

/-- Zeros in front leave the number as it is. -/
theorem foldl_filled (width n : Nat) : (filled width n).foldl (fun m d => 16 * m + d) 0 = n := by
  have zeros : ∀ k, (List.replicate k 0).foldl (fun m d => 16 * m + d) 0 = 0 := by
    intro k
    induction k with
    | zero => rfl
    | succ k ih => exact ih
  unfold filled
  rw [List.foldl_append, zeros, foldl_digits]

theorem length_filled {width n : Nat} (small : n < Nat.pow 16 (width + 1)) :
    (filled (width + 1) n).length = width + 1 := by
  have le := length_digits_le small
  unfold filled
  rw [List.length_append, List.length_replicate]
  omega

/-- Behind a smaller number, no digits make up for the difference. -/
theorem foldl_lt_of_lt {xs ys : List Nat} (same : xs.length = ys.length)
    (small : ∀ d ∈ xs, d < 16) {m n : Nat} (less : m < n) :
    xs.foldl (fun m d => 16 * m + d) m < ys.foldl (fun m d => 16 * m + d) n := by
  induction xs generalizing ys m n with
  | nil =>
    rw [List.length_eq_zero_iff.1 same.symm]
    exact less
  | cons d xs ih =>
    obtain ⟨first, rest⟩ := List.forall_mem_cons.1 small
    cases ys with
    | nil => cases same
    | cons e ys =>
      have next : 16 * m + d < 16 * n + e := by omega
      exact ih (Nat.succ.inj same) rest next

section order

variable {spell : Nat → Char} (increases : ∀ d < 16, ∀ e < 16, spell d < spell e ↔ d < e)

include increases

/-- Texts of as many digits are in the order of their numbers, if the
    characters of the digits are in the order of the values. -/
theorem map_lt_map_iff {xs ys : List Nat} (same : xs.length = ys.length)
    (small : ∀ d ∈ xs, d < 16) (small' : ∀ d ∈ ys, d < 16) (m : Nat) :
    xs.map spell < ys.map spell ↔
      xs.foldl (fun m d => 16 * m + d) m < ys.foldl (fun m d => 16 * m + d) m := by
  -- The first digit that differs decides on both sides.
  induction xs generalizing ys m with
  | nil =>
    rw [List.length_eq_zero_iff.1 same.symm]
    simp
  | cons d xs ih =>
    cases ys with
    | nil => cases same
    | cons e ys =>
      obtain ⟨first, rest⟩ := List.forall_mem_cons.1 small
      obtain ⟨first', rest'⟩ := List.forall_mem_cons.1 small'
      have same' : xs.length = ys.length := Nat.succ.inj same
      rw [List.map_cons, List.map_cons, List.cons_lt_cons_iff, List.foldl_cons, List.foldl_cons,
        increases d first e first']
      rcases Nat.lt_trichotomy d e with less | equal | greater
      · have before : 16 * m + d < 16 * m + e := by omega
        exact iff_of_true (Or.inl less) (foldl_lt_of_lt same' rest before)
      · subst equal
        simp only [Nat.lt_irrefl, true_and, false_or]
        exact ih same' rest rest' (16 * m + d)
      · have behind : 16 * m + e < 16 * m + d := by omega
        have above := foldl_lt_of_lt same'.symm rest' behind
        have other : spell d ≠ spell e := by
          intro eq
          have down := (increases e first' d first).2 greater
          rw [eq] at down
          exact Char.lt_irrefl _ down
        refine iff_of_false ?_ (Nat.lt_asymm above)
        rintro (less | ⟨eq, -⟩)
        · exact Nat.lt_asymm less greater
        · exact other eq

end order

theorem upperDigit_lt_upperDigit_iff :
    ∀ d < 16, ∀ e < 16, upperDigit d < upperDigit e ↔ d < e := by decide

theorem upperDigit_mem : ∀ d < 16, upperDigit d ∈ "0123456789ABCDEF".toList := by decide

end StringOrigins.Hex
