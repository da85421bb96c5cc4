import StringOrigins.Proofs.IdTable.Grammar

/-! # Writing an id table

    A table is written with one record for each entry, in any order, under
    any kind, and with any line ends.  Between these records may stand what
    does not count: blank lines, records that are not kept, and kept records
    of names whose entry comes later.

    What is written is read back as the table, and every table that is read
    can be written (`parse_written`). -/

namespace StringOrigins

/-! ## Section 1: The line of an entry -/

namespace Record

/-- The record that is written for an entry, under some kind. -/
def ofEntry (kind : ResourceKind) (name : String) (id : Int) : Record :=
  ⟨false, kind.typeName, name.toList, ResourceId.chars id⟩

/-- The line of this record. -/
def line (kind : ResourceKind) (name : String) (id : Int) : List Char :=
  "int".toList ++ ' ' :: (kind.typeName ++ ' ' :: (name.toList ++ ' ' :: ResourceId.chars id))

theorem isWord_typeName (kind : ResourceKind) : IsWord kind.typeName := by
  cases kind with
  | string => decide
  | plurals => decide
  | array => decide

theorem isKept_ofEntry (kind : ResourceKind) (name : String) (id : Int) :
    (ofEntry kind name id).IsKept :=
  ⟨rfl, isTypeName_iff.1 (List.any_eq_true.2 ⟨kind, ResourceKind.mem_all kind, beq_self_eq_true _⟩)⟩

/-- The line starts with `int` and ends with the id, so that nothing is stripped from it. -/
theorem strip_line (kind : ResourceKind) (name : String) (n : Nat) :
    Text.strip (line kind name n) = line kind name n := by
  apply Text.strip_of_ends
  · intro c first
    have start : 'i' = c := Option.some.inj first
    rw [← start]
    decide
  · intro c last
    have split : line kind name n =
        ("int".toList ++ ' ' :: (kind.typeName ++ ' ' :: (name.toList ++ [' ']))) ++
          ResourceId.chars n := by
      simp [line]
    have nonempty : ResourceId.chars n ≠ [] := List.cons_ne_nil _ _
    rw [split, List.getLast?_append, List.getLast?_eq_some_getLast nonempty, Option.some_or] at last
    rw [← Option.some.inj last]
    exact Text.isBlank_of_isWord (ResourceId.isWord_of_mem_chars (List.getLast_mem nonempty))

section words

variable {name : String} (word : IsWord name.toList)

include word

theorem spells_line (kind : ResourceKind) (n : Nat) :
    Spells (line kind name n) (ofEntry kind name n) :=
  ⟨rfl, isWord_typeName kind, word, List.cons_ne_nil _ _⟩

/-- A line of an entry consists of word characters and blanks. -/
theorem isWord_or_eq_of_mem_line {kind : ResourceKind} {n : Nat} {c : Char}
    (m : c ∈ line kind name n) : Text.isWord c = true ∨ c = ' ' := by
  have start : IsWord "int".toList := by decide
  simp only [line, List.mem_append, List.mem_cons] at m
  obtain m | rfl | m | rfl | m | rfl | m := m
  · exact Or.inl (start.2 c m)
  · exact Or.inr rfl
  · exact Or.inl ((isWord_typeName kind).2 c m)
  · exact Or.inr rfl
  · exact Or.inl (word.2 c m)
  · exact Or.inr rfl
  · exact Or.inl (ResourceId.isWord_of_mem_chars m)

theorem isWhole_line (kind : ResourceKind) (n : Nat) : Text.IsWhole (line kind name n) := by
  intro c m
  obtain inWord | rfl := isWord_or_eq_of_mem_line word m
  · exact Text.isLineBreak_of_isWord inWord
  · decide

end words

end Record

namespace IdTable

open Record (Spells)
open ResourceId (largest)

/-! ## Section 2: The lines of a table -/

/-- Whether a name may have an id in a table. -/
def IsEntry (name : String) (id : Int) : Prop :=
  Record.IsWord name.toList ∧ 0 ≤ id ∧ id ≤ largest

/-- Whether all names of a table are words and all ids have 32 bits. -/
def IsWritable (table : IdTable) : Prop :=
  ∀ (name : String) (id : Int), table[name]? = some id → IsEntry name id

/-- Lines write some entries, in their order. -/
inductive Writes : List (List Char) → List (String × Int) → Prop where
  | none : Writes [] []
  /-- A blank line. -/
  | blank {line : List Char} {more : List (List Char)} {entries : List (String × Int)}
      (blank : ∀ c ∈ line, Text.isBlank c = true) (others : Writes more entries) :
      Writes (line :: more) entries
  /-- A record of another type, or one with a list of numbers. -/
  | dropped {line : List Char} {more : List (List Char)} {entries : List (String × Int)}
      (record : Record) (spells : Spells (Text.strip line) record) (dropped : ¬ record.IsKept)
      (others : Writes more entries) : Writes (line :: more) entries
  /-- A kept record of a name whose entry comes later. -/
  | former {line : List Char} {more : List (List Char)} {entries : List (String × Int)}
      (name : String) (id : Nat) (keeps : Keeps (Text.strip line) name id)
      (later : name ∈ entries.map Prod.fst) (others : Writes more entries) :
      Writes (line :: more) entries
  /-- An entry, under any kind. -/
  | entry {more : List (List Char)} {entries : List (String × Int)} (kind : ResourceKind)
      (name : String) (id : Int) (others : Writes more entries) :
      Writes (Record.line kind name id :: more) ((name, id) :: entries)

/-- The id of an entry is a number that can be read. -/
theorem IsEntry.exists_nat {name : String} {id : Int} (entry : IsEntry name id) :
    ∃ n : Nat, id = n ∧ n ≤ largest := by
  obtain ⟨-, positive, small⟩ := entry
  exact ⟨id.toNat, by omega, by omega⟩

/-- The line of an entry keeps it. -/
theorem IsEntry.keeps_line {name : String} {id : Int} (entry : IsEntry name id)
    (kind : ResourceKind) :
    ∃ n : Nat, id = n ∧ Keeps (Text.strip (Record.line kind name id)) name n := by
  obtain ⟨n, rfl, small⟩ := entry.exists_nat
  refine ⟨n, rfl, ?_⟩
  rw [Record.strip_line]
  exact ⟨Record.ofEntry kind name n, Record.spells_line entry.1 kind n,
    Record.isKept_ofEntry kind name n, rfl, ResourceId.isLiteral_chars n, small⟩

/-- Whether some row keeps an id of a name. -/
def IsNamed (rows : List (List Char)) (name : String) : Prop :=
  ∃ row ∈ rows, ∃ id, Keeps row name id

theorem isNamed_cons_iff {row : List Char} {rest : List (List Char)} {name : String} :
    IsNamed (row :: rest) name ↔ (∃ id, Keeps row name id) ∨ IsNamed rest name := by
  simp [IsNamed]

/-- The last row that keeps a name is the first row if the others do not name it. -/
theorem isLast_cons_iff_isNamed {row : List Char} {rest : List (List Char)} {name : String}
    {id : Nat} : IsLast (row :: rest) name id ↔
      IsLast rest name id ∨ Keeps row name id ∧ ¬ IsNamed rest name := by
  rw [isLast_cons_iff]
  simp [IsNamed]

section written

variable {lines : List (List Char)} {entries : List (String × Int)}

/-- Lines that write entries keep the names of the entries and no others. -/
theorem Writes.isNamed_iff (written : Writes lines entries)
    (all : ∀ entry ∈ entries, IsEntry entry.1 entry.2) {name : String} :
    IsNamed (lines.map Text.strip) name ↔ name ∈ entries.map Prod.fst := by
  induction written with
  | none => simp [IsNamed]
  | @blank line more entries blank others ih =>
    rw [List.map_cons, isNamed_cons_iff, Text.strip_of_blank blank, ih all]
    simp [not_keeps_nil]
  | @dropped line more entries record spells dropped others ih =>
    rw [List.map_cons, isNamed_cons_iff, ih all]
    simp [not_keeps_of_spells spells dropped]
  | @former line more entries other id keeps later others ih =>
    rw [List.map_cons, isNamed_cons_iff, ih all]
    constructor
    · rintro (⟨n, keeps'⟩ | m)
      · rw [(keeps'.unique keeps).1]
        exact later
      · exact m
    · intro m
      exact Or.inr m
  | @entry more entries kind other id others ih =>
    obtain ⟨first, rest⟩ := List.forall_mem_cons.1 all
    obtain ⟨k, rfl, keeps⟩ := first.keeps_line kind
    rw [List.map_cons, isNamed_cons_iff, ih rest, List.map_cons, List.mem_cons]
    constructor
    · rintro (⟨n, keeps'⟩ | m)
      · exact Or.inl (keeps'.unique keeps).1
      · exact Or.inr m
    · rintro (rfl | m)
      · exact Or.inl ⟨k, keeps⟩
      · exact Or.inr m

/-- All of them fit. -/
theorem Writes.fits (written : Writes lines entries)
    (all : ∀ entry ∈ entries, IsEntry entry.1 entry.2) :
    ∀ row ∈ lines.map Text.strip, Fits row := by
  induction written with
  | none => exact fun row m => absurd m List.not_mem_nil
  | blank blank others ih =>
    rw [List.map_cons, Text.strip_of_blank blank]
    exact List.forall_mem_cons.2 ⟨Or.inl rfl, ih all⟩
  | dropped record spells dropped others ih =>
    refine List.forall_mem_cons.2 ⟨Or.inr ⟨record, spells, ?_⟩, ih all⟩
    intro kept
    exact absurd kept dropped
  | former name id keeps later others ih =>
    exact List.forall_mem_cons.2 ⟨keeps.fits, ih all⟩
  | entry kind name id others ih =>
    obtain ⟨first, rest⟩ := List.forall_mem_cons.1 all
    obtain ⟨k, rfl, keeps⟩ := first.keeps_line kind
    exact List.forall_mem_cons.2 ⟨keeps.fits, ih rest⟩

/-- The last line that keeps a name is the line of its entry. -/
theorem Writes.isLast_iff (written : Writes lines entries)
    (all : ∀ entry ∈ entries, IsEntry entry.1 entry.2) (distinct : (entries.map Prod.fst).Nodup)
    {name : String} {n : Nat} :
    IsLast (lines.map Text.strip) name n ↔ (name, (n : Int)) ∈ entries := by
  induction written with
  | none => simp [not_isLast_nil]
  | @blank line more entries blank others ih =>
    rw [List.map_cons, isLast_cons_iff_isNamed, Text.strip_of_blank blank, ih all distinct]
    simp [not_keeps_nil]
  | @dropped line more entries record spells dropped others ih =>
    rw [List.map_cons, isLast_cons_iff_isNamed, ih all distinct]
    simp [not_keeps_of_spells spells dropped]
  | @former line more entries other id keeps later others ih =>
    rw [List.map_cons, isLast_cons_iff_isNamed, ih all distinct]
    constructor
    · rintro (m | ⟨keeps', none⟩)
      · exact m
      · -- The entry of the name comes later, so this line is not the last one.
        rw [← (keeps'.unique keeps).1, ← others.isNamed_iff all] at later
        exact absurd later none
    · intro m
      exact Or.inl m
  | @entry more entries kind other id others ih =>
    obtain ⟨first, rest⟩ := List.forall_mem_cons.1 all
    obtain ⟨absent, distinct'⟩ := List.nodup_cons.1 distinct
    obtain ⟨k, rfl, keeps⟩ := first.keeps_line kind
    rw [List.map_cons, isLast_cons_iff_isNamed, ih rest distinct', List.mem_cons]
    constructor
    · rintro (m | ⟨keeps', -⟩)
      · exact Or.inr m
      · obtain ⟨rfl, rfl⟩ := keeps'.unique keeps
        exact Or.inl rfl
    · rintro (same | m)
      · obtain ⟨rfl, number⟩ := Prod.mk.inj same
        obtain rfl := Int.ofNat.inj number
        refine Or.inr ⟨keeps, fun again => absent ?_⟩
        exact (others.isNamed_iff rest).1 again
      · exact Or.inl m

end written

/-! ## Section 3: Texts -/

section texts

variable {lines : List (List Char)} {name : String}

/-- All rows fit if those of the lines that are not empty do. -/
theorem fits_of_filter
    (fits : ∀ row ∈ (lines.filter (· ≠ [])).map Text.strip, Fits row) :
    ∀ row ∈ lines.map Text.strip, Fits row := by
  intro row m
  obtain ⟨line, m', rfl⟩ := List.mem_map.1 m
  by_cases empty : line = []
  · subst empty
    exact Or.inl rfl
  · apply fits
    apply List.mem_map_of_mem
    exact List.mem_filter.2 ⟨m', decide_eq_true empty⟩

/-- Empty lines name nothing. -/
theorem isNamed_filter_iff :
    IsNamed ((lines.filter (· ≠ [])).map Text.strip) name ↔
      IsNamed (lines.map Text.strip) name := by
  induction lines with
  | nil => exact Iff.rfl
  | cons line rest ih =>
    rw [List.filter_cons, List.map_cons, isNamed_cons_iff]
    by_cases empty : line = []
    · subst empty
      apply ih.trans
      simp [not_keeps_nil]
    · simp only [ne_eq, empty, not_false_eq_true, decide_true, if_true, List.map_cons,
        isNamed_cons_iff]
      exact or_congr_right ih

/-- Empty lines keep nothing. -/
theorem isLast_filter_iff {n : Nat} :
    IsLast ((lines.filter (· ≠ [])).map Text.strip) name n ↔
      IsLast (lines.map Text.strip) name n := by
  induction lines with
  | nil => exact Iff.rfl
  | cons line rest ih =>
    rw [List.filter_cons, List.map_cons, isLast_cons_iff_isNamed]
    by_cases empty : line = []
    · subst empty
      apply ih.trans
      simp [not_keeps_nil]
    · simp only [ne_eq, empty, not_false_eq_true, decide_true, if_true, List.map_cons,
        isLast_cons_iff_isNamed]
      exact or_congr ih (and_congr_right fun _ => not_congr isNamed_filter_iff)

end texts

section reading

variable {source : Option String} {text : List Char}

/-- A table that is read can be written. -/
theorem isWritable_of_parse {table : IdTable} (done : parse source text = .ok table) :
    IsWritable table := by
  intro name id there
  obtain ⟨n, rfl, last⟩ := (getElem?_of_parse done name id).1 there
  obtain ⟨before, row, after, -, ⟨record, spells, -, named, -, small⟩, -⟩ := last
  have word := spells.name
  rw [named] at word
  exact ⟨word, Int.natCast_nonneg n, Int.ofNat_le.2 small⟩

/-- A text of lines that write some entries holds these entries and no others. -/
theorem exists_of_writes {lines : List (List Char)} {entries : List (String × Int)}
    (written : Writes lines entries) (made : Text.ConsistsOf lines text)
    (all : ∀ entry ∈ entries, IsEntry entry.1 entry.2)
    (distinct : (entries.map Prod.fst).Nodup) :
    ∃ table, parse source text = .ok table ∧
      ∀ (name : String) (id : Int), table[name]? = some id ↔ (name, id) ∈ entries := by
  -- The text has other lines than those, but they differ in empty ones only.
  have same := made.filter_lines
  have fits : ∀ row ∈ rows text, Fits row := by
    apply fits_of_filter
    rw [same]
    intro row m
    obtain ⟨line, m', rfl⟩ := List.mem_map.1 m
    exact written.fits all _ (List.mem_map_of_mem (List.mem_filter.1 m').1)
  have last_iff : ∀ (name : String) (n : Nat),
      IsLast (rows text) name n ↔ (name, (n : Int)) ∈ entries := by
    intro name n
    unfold rows
    rw [← isLast_filter_iff, same, isLast_filter_iff, written.isLast_iff all distinct]
  obtain ⟨table, done⟩ := exists_of_fits fits
  refine ⟨table, done, fun name id => ?_⟩
  rw [getElem?_of_parse done]
  constructor
  · rintro ⟨n, rfl, last⟩
    exact (last_iff name n).1 last
  · intro m
    obtain ⟨n, rfl, -⟩ := (all _ m).exists_nat
    exact ⟨n, rfl, (last_iff name n).2 m⟩

end reading

/-! ## Section 4: Tables -/

/-- The entries of a table in the order of their names, each on a line. -/
def print (kinds : String → ResourceKind) (mark : List Char) (table : IdTable) : List Char :=
  table.toList.flatMap fun (name, id) => Record.line (kinds name) name id ++ mark

section tables

variable {table : IdTable} (writable : IsWritable table)

include writable

/-- Any lines that write the entries of a table, in any order, are read back as the table. -/
theorem exists_of_perm {source : Option String} {text : List Char} {lines : List (List Char)}
    {entries : List (String × Int)} (ordered : entries.Perm table.toList)
    (written : Writes lines entries) (made : Text.ConsistsOf lines text) :
    ∃ again, parse source text = .ok again ∧ ∀ name : String, again[name]? = table[name]? := by
  have mem_iff : ∀ (name : String) (id : Int), (name, id) ∈ entries ↔ table[name]? = some id := by
    intro name id
    rw [ordered.mem_iff, Std.TreeMap.mem_toList_iff_getElem?_eq_some]
  have all : ∀ entry ∈ entries, IsEntry entry.1 entry.2 := by
    intro entry m
    exact writable entry.1 entry.2 ((mem_iff entry.1 entry.2).1 m)
  have distinct : (entries.map Prod.fst).Nodup := by
    rw [(ordered.map Prod.fst).nodup_iff, Std.TreeMap.map_fst_toList_eq_keys]
    exact Std.TreeMap.nodup_keys
  obtain ⟨again, done, entries_iff⟩ := exists_of_writes written made all distinct
  refine ⟨again, done, fun name => Option.ext fun id => ?_⟩
  rw [entries_iff, mem_iff]

/-- A table is printed on lines that write its entries. -/
theorem exists_lines_print (kinds : String → ResourceKind) {mark : List Char}
    (ends : Text.IsTerminator mark) :
    ∃ lines, Writes lines table.toList ∧ Text.ConsistsOf lines (print kinds mark table) := by
  have all : ∀ entry ∈ table.toList, IsEntry entry.1 entry.2 := by
    intro entry m
    exact writable entry.1 entry.2 (Std.TreeMap.mem_toList_iff_getElem?_eq_some.1 m)
  unfold print
  generalize table.toList = entries at all
  induction entries with
  | nil => exact ⟨[], .none, .none⟩
  | cons entry rest ih =>
    obtain ⟨first, others⟩ := List.forall_mem_cons.1 all
    obtain ⟨n, number, -⟩ := first.exists_nat
    obtain ⟨lines, written, made⟩ := ih others
    have whole : Text.IsWhole (Record.line (kinds entry.1) entry.1 entry.2) := by
      rw [number]
      exact Record.isWhole_line first.1 (kinds entry.1) n
    exact ⟨_, .entry (kinds entry.1) entry.1 entry.2 written, .line whole ends made⟩

end tables

/-- Let the names of a table be words and its ids have 32 bits.  Lines that
    write its entries in any order, put together with any marks, are read
    back as the table.  And a table that is read from a text is such a
    table, so that it is read back however it is printed. -/
theorem parse_written :
    (∀ (source : Option String) (table : IdTable) (entries : List (String × Int))
      (lines : List (List Char)) (text : List Char),
      IsWritable table → entries.Perm table.toList → Writes lines entries →
      Text.ConsistsOf lines text →
      ∃ again, parse source text = .ok again ∧ ∀ name : String, again[name]? = table[name]?) ∧
    ∀ (source : Option String) (text : List Char) (table : IdTable),
      parse source text = .ok table → IsWritable table ∧
        ∀ (other : Option String) (kinds : String → ResourceKind) (mark : List Char),
          Text.IsTerminator mark → ∃ again, parse other (print kinds mark table) = .ok again ∧
            ∀ name : String, again[name]? = table[name]? := by
  constructor
  · intro source table entries lines text writable ordered written made
    exact exists_of_perm writable ordered written made
  · intro source text table done
    have writable := isWritable_of_parse done
    refine ⟨writable, fun other kinds mark ends => ?_⟩
    obtain ⟨lines, written, made⟩ := exists_lines_print writable kinds ends
    exact exists_of_perm writable (List.Perm.refl table.toList) written made

/-- A table of two names. -/
def twoNames : IdTable := ((∅ : IdTable).insert "a" 1).insert "größe" 0xFFFFFFFF

/-- Its entries, not in the order of their names, behind an id that is
    replaced, with a blank line and a list of numbers between them. -/
def twoNamesLines : List (List Char) :=
  ["int string a 0xfF".toList, "int array größe 0xFFFFFFFF".toList, [],
    "int[] id T { 0x1 }".toList, "int plurals a 0x00000001".toList]

/-- The lines with a mark behind each but the last.  The line feed behind
    the blank line makes a pair with the mark in front of it. -/
def twoNamesText : List Char :=
  ("int string a 0xfF\u2028int array größe 0xFFFFFFFF\r\n" ++
    "int[] id T { 0x1 }\x0cint plurals a 0x00000001").toList

theorem toList_twoNames : twoNames.toList = [("a", 1), ("größe", 0xFFFFFFFF)] := rfl

theorem isWritable_twoNames : IsWritable twoNames := by
  intro name id there
  have m := Std.TreeMap.mem_toList_iff_getElem?_eq_some.2 there
  rw [toList_twoNames, List.mem_cons, List.mem_singleton] at m
  obtain same | same := m
  · obtain ⟨rfl, rfl⟩ := Prod.mk.inj same
    exact ⟨by decide, by decide, by decide⟩
  · obtain ⟨rfl, rfl⟩ := Prod.mk.inj same
    exact ⟨by decide, by decide, by decide⟩

theorem writes_twoNames : Writes twoNamesLines [("größe", 0xFFFFFFFF), ("a", 1)] := by
  have first : Record.line .array "größe" 0xFFFFFFFF = "int array größe 0xFFFFFFFF".toList := by
    decide +kernel
  have last : Record.line .plurals "a" 1 = "int plurals a 0x00000001".toList := by
    decide +kernel
  unfold twoNamesLines
  rw [← first, ← last]
  have replaced : Keeps (Text.strip "int string a 0xfF".toList) "a" 255 := by
    refine ⟨⟨false, "string".toList, "a".toList, "0xfF".toList⟩, ?_, ?_, rfl, ?_, by decide⟩
    · exact Record.ofLine?_eq_some_iff.1 rfl
    · exact Record.isKept_iff.1 rfl
    · exact ⟨"fF".toList, rfl, Hex.value?_eq_some_iff.1 rfl⟩
  have numbers : ¬ Record.IsKept ⟨true, "id".toList, "T".toList, "{ 0x1 }".toList⟩ := by
    intro kept
    exact absurd kept.1 (by decide)
  apply Writes.former "a" 255 replaced (by simp)
  apply Writes.entry
  apply Writes.blank (by simp)
  apply Writes.dropped _ (Record.ofLine?_eq_some_iff.1 rfl) numbers
  apply Writes.entry
  exact Writes.none

theorem consistsOf_twoNamesText : Text.ConsistsOf twoNamesLines twoNamesText := by
  have text : twoNamesText = "int string a 0xfF".toList ++ ['\u2028'] ++
      ("int array größe 0xFFFFFFFF".toList ++ ['\r'] ++ ([] ++ ['\n'] ++
        ("int[] id T { 0x1 }".toList ++ ['\x0c'] ++
          "int plurals a 0x00000001".toList))) := by
    decide +kernel
  have single : ∀ c, Text.isLineBreak c = true → Text.IsTerminator [c] := by
    intro c breaks
    exact Or.inr ⟨c, rfl, breaks⟩
  rw [text]
  apply Text.ConsistsOf.line (by decide) (single _ (by decide))
  apply Text.ConsistsOf.line (by decide) (single _ (by decide))
  apply Text.ConsistsOf.line (by decide) (single _ (by decide))
  apply Text.ConsistsOf.line (by decide) (single _ (by decide))
  exact Text.ConsistsOf.last (by decide)

/-- The text is read as the table. -/
theorem parse_written_twoNames :
    IsWritable twoNames ∧ Writes twoNamesLines [("größe", 0xFFFFFFFF), ("a", 1)] ∧
      Text.ConsistsOf twoNamesLines twoNamesText ∧
      ∃ again, parse none twoNamesText = .ok again ∧ again["a"]? = some 1 ∧
        again["größe"]? = some 0xFFFFFFFF ∧ again["T"]? = none := by
  have ordered : [("größe", (0xFFFFFFFF : Int)), ("a", 1)].Perm twoNames.toList :=
    List.Perm.swap _ _ []
  obtain ⟨again, done, entries⟩ := parse_written.1 none twoNames _ twoNamesLines twoNamesText
    isWritable_twoNames ordered writes_twoNames consistsOf_twoNamesText
  refine ⟨isWritable_twoNames, writes_twoNames, consistsOf_twoNamesText, again, done, ?_⟩
  rw [entries, entries, entries]
  exact ⟨rfl, rfl, rfl⟩

end IdTable

end StringOrigins
