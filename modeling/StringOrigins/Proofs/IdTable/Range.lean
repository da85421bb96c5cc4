import StringOrigins.Proofs.IdTable.Grammar

/-! # The range of ids

    Ids of any size and sign have a text, and different ids have different
    texts.  An id table takes the text of an id back exactly if the id is not
    negative and fits in 32 bits; otherwise the text is reported, as no id or
    as one that is too large (`enter_of_spells`, `text_exact`). -/

namespace StringOrigins

open Record (Spells)
open ResourceId (read chars largest)

/-! ## Section 1: The rows of ids -/

namespace IdTable

/-- The value of a kept record decides what comes of its row. -/
theorem enter_of_spells (table : IdTable) {row : List Char} {record : Record}
    (spells : Spells row record) (kept : record.IsKept) :
    table.enter row = match read record.value with
      | .ok id => .ok (table.insert (String.ofList record.name) id)
      | .error .malformed => .error (.badId record.value)
      | .error .tooLarge => .error (.idTooLarge record.value) := by
  have nonempty : row ≠ [] := by
    rintro rfl
    exact Record.not_spells_nil spells
  unfold IdTable.enter
  rw [if_neg nonempty, Record.ofLine?_eq_some_iff.2 spells]
  exact if_pos (Record.isKept_iff.2 kept)

/-- A row with the text of an id gives this id to its name, or is faulty. -/
theorem enter_of_chars (table : IdTable) {row : List Char} {record : Record}
    (spells : Spells row record) (kept : record.IsKept) {id : Int}
    (value : record.value = chars id) :
    table.enter row =
      if id < 0 then .error (.badId (chars id))
      else if id ≤ largest then .ok (table.insert (String.ofList record.name) id)
      else .error (.idTooLarge (chars id)) := by
  rw [enter_of_spells table spells kept, value, ResourceId.read_chars]
  by_cases negative : id < 0
  · rw [if_pos negative, if_pos negative]
  · rw [if_neg negative, if_neg negative]
    by_cases small : id ≤ largest
    · have same : (id.toNat : Int) = id := Int.toNat_of_nonneg (Int.not_lt.1 negative)
      rw [if_pos small, if_pos small]
      dsimp only
      rw [same]
    · rw [if_neg small, if_neg small]

end IdTable

/-! ## Section 2: The text of an id -/

namespace ResourceId

/-- The text of an id, whatever its size and sign, is read back as the id if
    this is not negative and fits in 32 bits.  Otherwise it is refused, and
    so is any row of an id table with this text as the value of a kept
    record: as no id if the id is negative, and as too large if it is larger.
    Different ids have different texts.  The texts of ids that are read back
    are `0x` and eight upper-case digits, and their order as texts is the
    order of the ids. -/
theorem text_exact :
    (∀ id : Int, read (chars id) =
      if id < 0 then .error .malformed
      else if id ≤ largest then .ok id.toNat else .error .tooLarge) ∧
    (∀ (table : IdTable) (row : List Char) (record : Record) (id : Int), Spells row record →
      record.IsKept → record.value = chars id →
      table.enter row =
        if id < 0 then .error (.badId (chars id))
        else if id ≤ largest then .ok (table.insert (String.ofList record.name) id)
        else .error (.idTooLarge (chars id))) ∧
    (∀ a b : Int, text a = text b → a = b) ∧
    (∀ id : Int, 0 ≤ id → id ≤ largest → ∃ digits : List Char,
      text id = "0x" ++ String.ofList digits ∧ digits.length = 8 ∧
        ∀ c ∈ digits, c ∈ "0123456789ABCDEF".toList) ∧
    ∀ a b : Int, 0 ≤ a → a ≤ largest → 0 ≤ b → b ≤ largest → (text a < text b ↔ a < b) := by
  refine ⟨read_chars, fun table row record id spells kept value =>
    IdTable.enter_of_chars table spells kept value, fun a b same => ?_, fun id positive small => ?_,
    fun a b positive small positive' small' => ?_⟩
  · exact chars_injective (String.ofList_injective same)
  · obtain ⟨n, rfl⟩ := Int.eq_ofNat_of_zero_le positive
    exact ⟨padded n, text_eq n, length_padded (Int.ofNat_le.1 small), fun _ => mem_of_mem_padded⟩
  · obtain ⟨m, rfl⟩ := Int.eq_ofNat_of_zero_le positive
    obtain ⟨n, rfl⟩ := Int.eq_ofNat_of_zero_le positive'
    rw [text_lt_text_iff (Int.ofNat_le.1 small) (Int.ofNat_le.1 small'), Int.ofNat_lt]

/-- The largest id is taken from its row, and is behind the one before. -/
theorem text_exact_largest :
    (Spells "int array a 0xFFFFFFFF".toList
        ⟨false, "array".toList, "a".toList, chars largest⟩ ∧
      (∅ : IdTable).enter "int array a 0xFFFFFFFF".toList =
        .ok ((∅ : IdTable).insert "a" largest)) ∧
    (∃ digits : List Char, text largest = "0x" ++ String.ofList digits ∧ digits.length = 8 ∧
      ∀ c ∈ digits, c ∈ "0123456789ABCDEF".toList) ∧
    text 0x9FFFFFFF < text largest := by
  have spells : Spells "int array a 0xFFFFFFFF".toList
      ⟨false, "array".toList, "a".toList, chars largest⟩ :=
    ⟨by decide +kernel, by decide, by decide, List.cons_ne_nil _ _⟩
  obtain ⟨-, entered, -, form, order⟩ := text_exact
  refine ⟨⟨spells, ?_⟩, form largest (by decide) (by decide), ?_⟩
  · exact entered ∅ _ _ largest spells ⟨rfl, by decide⟩ rfl
  · exact (order 0x9FFFFFFF largest (by decide) (by decide) (by decide) (by decide)).2 (by decide)

end ResourceId

end StringOrigins
