import StringOrigins.IdTable.Record

/-! # The form of a record

    What a row of an id table has to look like to be a record, apart from
    how it is read.  A row is read as the record that it spells, and as
    nothing else (`ofLine?_eq_some_iff`). -/

namespace StringOrigins.Record

/-! ## Section 1: Spelling -/

/-- Whether a text is a word. -/
def IsWord (word : List Char) : Prop := word ≠ [] ∧ ∀ c ∈ word, Text.isWord c = true

instance (word : List Char) : Decidable (IsWord word) :=
  @instDecidableAnd _ _ _ (List.decidableBAll (fun c => Text.isWord c = true) word)

/-- A row spells a record: `int` or `int[]`, two words and a value, with one
    blank between any two of them. -/
structure Spells (row : List Char) (record : Record) : Prop where
  text : row = (if record.isArray then "int[]".toList else "int".toList) ++
    ' ' :: (record.typeName ++ ' ' :: (record.name ++ ' ' :: record.value))
  type : IsWord record.typeName
  name : IsWord record.name
  value : record.value ≠ []

/-- Whether a record is one of a string resource with a single number. -/
def IsKept (record : Record) : Prop :=
  record.isArray = false ∧
    record.typeName ∈ ["string".toList, "plurals".toList, "array".toList]

theorem isTypeName_iff {word : List Char} :
    ResourceKind.isTypeName word = true ↔
      word ∈ ["string".toList, "plurals".toList, "array".toList] := by
  unfold ResourceKind.isTypeName
  rw [List.any_eq_true]
  constructor
  · rintro ⟨kind, -, eq⟩
    rw [← beq_iff_eq.1 eq]
    cases kind with
    | string => exact List.mem_cons_self
    | plurals => exact List.mem_cons_of_mem _ List.mem_cons_self
    | array => exact List.mem_cons_of_mem _ (List.mem_cons_of_mem _ List.mem_cons_self)
  · intro m
    rw [List.mem_cons, List.mem_cons, List.mem_singleton] at m
    rcases m with rfl | rfl | rfl
    · exact ⟨.string, ResourceKind.mem_all _, beq_self_eq_true _⟩
    · exact ⟨.plurals, ResourceKind.mem_all _, beq_self_eq_true _⟩
    · exact ⟨.array, ResourceKind.mem_all _, beq_self_eq_true _⟩

theorem isKept_iff {record : Record} : record.isKept = true ↔ record.IsKept := by
  unfold isKept IsKept
  rw [Bool.and_eq_true, Bool.not_eq_true', isTypeName_iff]

/-! ## Section 2: Reading -/

/-- What marks a list of numbers stands in front of the first blank. -/
theorem mark?_eq_some_iff {s rest : List Char} {isArray : Bool} :
    mark? s = some (isArray, rest) ↔
      s = (if isArray then ['[', ']'] else []) ++ ' ' :: rest := by
  constructor
  · intro found
    unfold mark? at found
    split at found
    · cases found
      rfl
    · cases found
      rfl
    · cases found
  · rintro rfl
    cases isArray with
    | false => rfl
    | true => rfl

/-- A word is read up to the blank behind it, since no word holds a blank. -/
theorem word?_eq_some_iff {s word rest : List Char} :
    word? s = some (word, rest) ↔ IsWord word ∧ s = word ++ ' ' :: rest := by
  constructor
  · intro found
    have split : s.takeWhile Text.isWord ++ s.dropWhile Text.isWord = s :=
      List.takeWhile_append_dropWhile
    unfold word? at found
    split at found
    · rename_i c more after taken dropped
      cases found
      rw [taken, dropped] at split
      refine ⟨⟨List.cons_ne_nil c more, fun d m => ?_⟩, split.symm⟩
      rw [← taken] at m
      exact List.all_eq_true.1 List.all_takeWhile d m
    · cases found
  · rintro ⟨⟨nonempty, all⟩, rfl⟩
    have blank : Text.isWord ' ' = false := by decide
    have taken : (word ++ ' ' :: rest).takeWhile Text.isWord = word := by
      rw [List.takeWhile_append_of_pos all, List.takeWhile_cons, blank]
      exact List.append_nil word
    have dropped : (word ++ ' ' :: rest).dropWhile Text.isWord = ' ' :: rest := by
      rw [List.dropWhile_append_of_pos all, List.dropWhile_cons, blank]
      rfl
    unfold word?
    rw [taken, dropped]
    rcases word with _ | ⟨c, more⟩
    · exact absurd rfl nonempty
    · rfl

/-- A row is read as the record that it spells. -/
theorem ofLine?_eq_some_iff {row : List Char} {record : Record} :
    ofLine? row = some record ↔ Spells row record := by
  constructor
  · intro found
    unfold ofLine? at found
    split at found
    · obtain ⟨⟨isArray, s⟩, marked, behindMark⟩ := Option.bind_eq_some_iff.1 found
      obtain ⟨⟨typeName, s'⟩, typed, behindType⟩ := Option.bind_eq_some_iff.1 behindMark
      obtain ⟨⟨name, value⟩, named, behindName⟩ := Option.bind_eq_some_iff.1 behindType
      obtain ⟨typeWord, rfl⟩ := word?_eq_some_iff.1 typed
      obtain ⟨nameWord, rfl⟩ := word?_eq_some_iff.1 named
      dsimp only at behindName
      split at behindName
      · cases behindName
      · rename_i nonempty
        cases behindName
        refine ⟨?_, typeWord, nameWord, nonempty⟩
        rw [mark?_eq_some_iff.1 marked]
        cases isArray with
        | false => rfl
        | true => rfl
    · cases found
  · rintro ⟨text, typeWord, nameWord, nonempty⟩
    obtain ⟨isArray, typeName, name, value⟩ := record
    dsimp only at text typeWord nameWord nonempty
    have front : row = 'i' :: 'n' :: 't' :: ((if isArray then ['[', ']'] else []) ++
        ' ' :: (typeName ++ ' ' :: (name ++ ' ' :: value))) := by
      rw [text]
      cases isArray with
      | false => rfl
      | true => rfl
    -- The three parts in front of the value are read one after another.
    have marked : mark? ((if isArray then ['[', ']'] else []) ++
        ' ' :: (typeName ++ ' ' :: (name ++ ' ' :: value))) =
          some (isArray, typeName ++ ' ' :: (name ++ ' ' :: value)) :=
      mark?_eq_some_iff.2 rfl
    have typed : word? (typeName ++ ' ' :: (name ++ ' ' :: value)) =
        some (typeName, name ++ ' ' :: value) :=
      word?_eq_some_iff.2 ⟨typeWord, rfl⟩
    have named : word? (name ++ ' ' :: value) = some (name, value) :=
      word?_eq_some_iff.2 ⟨nameWord, rfl⟩
    rw [front, ofLine?]
    simp only [marked, typed, named, bind, Option.bind_some, if_neg nonempty]

/-- A row spells one record at most. -/
theorem Spells.unique {row : List Char} {first second : Record} (spells : Spells row first)
    (spells' : Spells row second) : first = second := by
  have same := ofLine?_eq_some_iff.2 spells
  rw [ofLine?_eq_some_iff.2 spells'] at same
  exact (Option.some.inj same).symm

/-- An empty row spells nothing. -/
theorem not_spells_nil {record : Record} : ¬ Spells [] record := by
  intro spells
  have read := ofLine?_eq_some_iff.2 spells
  cases read

end StringOrigins.Record
