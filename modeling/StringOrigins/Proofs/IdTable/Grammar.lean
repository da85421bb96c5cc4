import StringOrigins.IdTable.Basic
import StringOrigins.Proofs.IdTable.Record
import StringOrigins.Proofs.ResourceId
import StringOrigins.Proofs.Text.Line

/-! # The grammar of id tables

    A row is a line without the white space at its ends.  A row fits if it
    is empty, or a record whose value is an id in case the record is kept.
    One row adds its kept record to the table or is the first fault
    (`entering_enter`).  So a text is read exactly if all rows fit, the last
    record of a name counts, and otherwise the first row that does not fit
    is reported (`parse_reads_grammar`). -/

namespace StringOrigins.IdTable

open Record (Spells)
open ResourceId (IsLiteral largest)

/-! ## Section 1: Rows -/

/-- A row holds a kept record of a name and an id. -/
def Keeps (row : List Char) (name : String) (id : Nat) : Prop :=
  ∃ record, Spells row record ∧ record.IsKept ∧ record.name = name.toList ∧
    IsLiteral record.value id ∧ id ≤ largest

/-- A row is empty, or a record, and one with an id if it is kept. -/
def Fits (row : List Char) : Prop :=
  row = [] ∨ ∃ record, Spells row record ∧
    (record.IsKept → ∃ id, IsLiteral record.value id ∧ id ≤ largest)

/-- What is wrong with a row. -/
inductive Breaks (row : List Char) : LineFault → Prop where
  /-- It is neither empty nor a record. -/
  | notARecord (nonempty : row ≠ []) (other : ∀ record, ¬ Spells row record) :
      Breaks row (.notARecord row)
  /-- It is a kept record, and its value is no literal. -/
  | badId (record : Record) (spells : Spells row record) (kept : record.IsKept)
      (other : ∀ n, ¬ IsLiteral record.value n) : Breaks row (.badId record.value)
  /-- It is a kept record, and its value is the literal of a number of more than 32 bits. -/
  | idTooLarge (record : Record) (spells : Spells row record) (kept : record.IsKept) (n : Nat)
      (literal : IsLiteral record.value n) (large : largest < n) :
      Breaks row (.idTooLarge record.value)

/-- A row that breaks the grammar does not fit. -/
theorem Breaks.not_fits {row : List Char} {fault : LineFault} (breaks : Breaks row fault) :
    ¬ Fits row := by
  intro fits
  cases breaks with
  | notARecord nonempty other =>
    rcases fits with empty | ⟨record, spells, -⟩
    · exact nonempty empty
    · exact other record spells
  | badId record spells kept other =>
    rcases fits with rfl | ⟨record', spells', value⟩
    · exact Record.not_spells_nil spells
    · obtain rfl := spells.unique spells'
      obtain ⟨id, literal, -⟩ := value kept
      exact other id literal
  | idTooLarge record spells kept n literal large =>
    rcases fits with rfl | ⟨record', spells', value⟩
    · exact Record.not_spells_nil spells
    · obtain rfl := spells.unique spells'
      obtain ⟨id, literal', small⟩ := value kept
      have same := literal.unique literal'
      omega

/-- A row keeps one id of one name at most. -/
theorem Keeps.unique {row : List Char} {name other : String} {id id' : Nat}
    (keeps : Keeps row name id) (keeps' : Keeps row other id') : name = other ∧ id = id' := by
  obtain ⟨record, spells, -, named, literal, -⟩ := keeps
  obtain ⟨record', spells', -, named', literal', -⟩ := keeps'
  obtain rfl := spells.unique spells'
  exact ⟨String.toList_inj.1 (named.symm.trans named'), literal.unique literal'⟩

theorem Keeps.fits {row : List Char} {name : String} {id : Nat} (keeps : Keeps row name id) :
    Fits row := by
  obtain ⟨record, spells, -, -, literal, small⟩ := keeps
  exact Or.inr ⟨record, spells, fun _ => ⟨id, literal, small⟩⟩

/-- An empty row keeps nothing. -/
theorem not_keeps_nil {name : String} {id : Nat} : ¬ Keeps [] name id := by
  intro ⟨record, spells, _⟩
  exact Record.not_spells_nil spells

/-- A row with a record that is not kept keeps nothing. -/
theorem not_keeps_of_spells {row : List Char} {record : Record} (spells : Spells row record)
    (dropped : ¬ record.IsKept) {name : String} {id : Nat} : ¬ Keeps row name id := by
  intro ⟨record', spells', kept, _⟩
  rw [spells.unique spells'] at dropped
  exact dropped kept

/-! ## Section 2: One row -/

/-- What comes of one more row. -/
inductive Entering (table : IdTable) (row : List Char) : Except LineFault IdTable → Prop where
  /-- The row fits, and what it keeps goes before what was in the table. -/
  | taken (next : IdTable) (fits : Fits row)
      (entries : ∀ (name : String) (id : Int), next[name]? = some id ↔
        (∃ n : Nat, id = n ∧ Keeps row name n) ∨
          ((∀ n, ¬ Keeps row name n) ∧ table[name]? = some id)) :
      Entering table row (.ok next)
  /-- The row breaks the grammar. -/
  | faulty (fault : LineFault) (breaks : Breaks row fault) : Entering table row (.error fault)

/-- A row that keeps nothing leaves the table as it is. -/
theorem entering_of_nothing (table : IdTable) {row : List Char} (fits : Fits row)
    (nothing : ∀ name n, ¬ Keeps row name n) : Entering table row (.ok table) := by
  refine .taken table fits (fun name id => ?_)
  constructor
  · intro there
    exact Or.inr ⟨nothing name, there⟩
  · rintro (⟨n, -, keeps⟩ | ⟨-, there⟩)
    · exact absurd keeps (nothing name n)
    · exact there

/-- A row that keeps an id puts it into the table. -/
theorem Keeps.entering {row : List Char} {name : String} {n : Nat} (keeps : Keeps row name n)
    (table : IdTable) : Entering table row (.ok (table.insert name n)) := by
  refine .taken _ keeps.fits (fun other id => ?_)
  by_cases same : other = name
  · subst same
    rw [Std.TreeMap.getElem?_insert_self]
    constructor
    · intro there
      exact Or.inl ⟨n, (Option.some.inj there).symm, keeps⟩
    · rintro (⟨m, rfl, keeps'⟩ | ⟨nothing, -⟩)
      · rw [(keeps.unique keeps').2]
      · exact absurd keeps (nothing n)
  · have differ : compare name other ≠ .eq :=
      fun eq => same (Std.LawfulEqCmp.eq_of_compare eq).symm
    rw [Std.TreeMap.getElem?_insert, if_neg differ]
    constructor
    · intro there
      exact Or.inr ⟨fun m keeps' => same (keeps'.unique keeps).1, there⟩
    · rintro (⟨m, -, keeps'⟩ | ⟨-, there⟩)
      · exact absurd (keeps'.unique keeps).1 same
      · exact there

theorem entering_enter (table : IdTable) (row : List Char) :
    Entering table row (table.enter row) := by
  unfold enter
  by_cases empty : row = []
  · rw [if_pos empty]
    refine entering_of_nothing table (Or.inl empty) (fun name n => ?_)
    rw [empty]
    exact not_keeps_nil
  · rw [if_neg empty]
    rcases read : Record.ofLine? row with _ | record
    · refine .faulty _ (.notARecord empty (fun record spells => ?_))
      rw [Record.ofLine?_eq_some_iff.2 spells] at read
      cases read
    · have spells := Record.ofLine?_eq_some_iff.1 read
      dsimp only
      by_cases kept : record.isKept = true
      · rw [if_pos kept]
        have isKept := Record.isKept_iff.1 kept
        -- The value of a kept record decides.
        have reading := ResourceId.reading_read record.value
        generalize ResourceId.read record.value = result at reading
        cases reading with
        | malformed other => exact .faulty _ (.badId record spells isKept other)
        | tooLarge n literal large =>
          exact .faulty _ (.idTooLarge record spells isKept n literal large)
        | read n literal small =>
          have keeps : Keeps row (String.ofList record.name) n :=
            ⟨record, spells, isKept, String.toList_ofList.symm, literal, small⟩
          exact keeps.entering table
      · rw [if_neg kept]
        have notKept : ¬ record.IsKept := fun isKept => kept (Record.isKept_iff.2 isKept)
        exact entering_of_nothing table
          (Or.inr ⟨record, spells, fun isKept => absurd isKept notKept⟩)
          (fun name n => not_keeps_of_spells spells notKept)

/-! ## Section 3: All rows -/

/-- The last row that keeps a name keeps this id of it. -/
def IsLast (rows : List (List Char)) (name : String) (id : Nat) : Prop :=
  ∃ before row after, rows = before ++ row :: after ∧ Keeps row name id ∧
    ∀ later ∈ after, ∀ other, ¬ Keeps later name other

/-- The rows of a text. -/
def rows (text : List Char) : List (List Char) := (Text.lines text).map Text.strip

theorem not_isLast_nil {name : String} {id : Nat} : ¬ IsLast [] name id := by
  rintro ⟨before, row, after, split, -⟩
  exact List.append_ne_nil_of_right_ne_nil before (List.cons_ne_nil row after) split.symm

/-- The last row that keeps a name is behind the first row, or it is that row. -/
theorem isLast_cons_iff {row : List Char} {rest : List (List Char)} {name : String} {id : Nat} :
    IsLast (row :: rest) name id ↔ IsLast rest name id ∨
      (Keeps row name id ∧ ∀ later ∈ rest, ∀ other, ¬ Keeps later name other) := by
  constructor
  · rintro ⟨before, last, after, split, keeps, none⟩
    rcases before with _ | ⟨first, before⟩
    · obtain ⟨rfl, rfl⟩ := List.cons.inj split
      exact Or.inr ⟨keeps, none⟩
    · obtain ⟨rfl, rfl⟩ := List.cons.inj split
      exact Or.inl ⟨before, last, after, rfl, keeps, none⟩
  · rintro (⟨before, last, after, rfl, keeps, none⟩ | ⟨keeps, none⟩)
    · exact ⟨row :: before, last, after, rfl, keeps, none⟩
    · exact ⟨[], row, rest, rfl, keeps, none⟩

/-- What comes of more lines, the first of which has the given number. -/
inductive Parsing (source : Option String) (number : Nat) (table : IdTable)
    (rows : List (List Char)) : Except TableError IdTable → Prop where
  /-- All rows fit, and what they keep goes before what was in the table. -/
  | done (final : IdTable) (fits : ∀ row ∈ rows, Fits row)
      (entries : ∀ (name : String) (id : Int), final[name]? = some id ↔
        (∃ n : Nat, id = n ∧ IsLast rows name n) ∨
          ((∀ row ∈ rows, ∀ n, ¬ Keeps row name n) ∧ table[name]? = some id)) :
      Parsing source number table rows (.ok final)
  /-- A row breaks the grammar, and all in front of it fit. -/
  | failed (before after : List (List Char)) (row : List Char) (fault : LineFault)
      (split : rows = before ++ row :: after) (earlier : ∀ row ∈ before, Fits row)
      (breaks : Breaks row fault) :
      Parsing source number table rows
        (.error (.faultyLine source (number + before.length) fault))

/-- One row in front of others comes first, in the numbers and in the table. -/
theorem Parsing.cons {source : Option String} {number : Nat} {table next : IdTable}
    {row : List Char} {rest : List (List Char)} {result : Except TableError IdTable}
    (entered : Entering table row (.ok next))
    (parsed : Parsing source (number + 1) next rest result) :
    Parsing source number table (row :: rest) result := by
  obtain ⟨fits, entries⟩ : Fits row ∧ ∀ (name : String) (id : Int), next[name]? = some id ↔
      (∃ n : Nat, id = n ∧ Keeps row name n) ∨
        ((∀ n, ¬ Keeps row name n) ∧ table[name]? = some id) := by
    cases entered with
    | taken _ fits entries => exact ⟨fits, entries⟩
  cases parsed with
  | done final others finals =>
    refine .done final (List.forall_mem_cons.2 ⟨fits, others⟩) (fun name id => ?_)
    rw [finals, entries, List.forall_mem_cons]
    simp only [isLast_cons_iff]
    constructor
    · rintro (⟨n, rfl, last⟩ | ⟨none, ⟨n, rfl, keeps⟩ | ⟨nothing, there⟩⟩)
      · exact Or.inl ⟨n, rfl, Or.inl last⟩
      · exact Or.inl ⟨n, rfl, Or.inr ⟨keeps, none⟩⟩
      · exact Or.inr ⟨⟨nothing, none⟩, there⟩
    · rintro (⟨n, rfl, last | ⟨keeps, none⟩⟩ | ⟨⟨nothing, none⟩, there⟩)
      · exact Or.inl ⟨n, rfl, last⟩
      · exact Or.inr ⟨none, Or.inl ⟨n, rfl, keeps⟩⟩
      · exact Or.inr ⟨none, Or.inr ⟨nothing, there⟩⟩
  | failed before after row' fault split earlier breaks =>
    have count : number + 1 + before.length = number + (row :: before).length := by
      rw [List.length_cons]
      omega
    rw [count]
    refine .failed (row :: before) after row' fault ?_ ?_ breaks
    · rw [split, List.cons_append]
    · exact List.forall_mem_cons.2 ⟨fits, earlier⟩

theorem parsing_enterAll (source : Option String) (number : Nat) (table : IdTable)
    (lines : List (List Char)) :
    Parsing source number table (lines.map Text.strip) (enterAll source number table lines) := by
  -- The number counts up and the table grows from line to line.
  induction lines generalizing number table with
  | nil =>
    refine .done table (fun row m => absurd m List.not_mem_nil) (fun name id => ?_)
    constructor
    · intro there
      exact Or.inr ⟨fun row m => absurd m List.not_mem_nil, there⟩
    · rintro (⟨n, -, last⟩ | ⟨-, there⟩)
      · exact absurd last not_isLast_nil
      · exact there
  | cons line rest ih =>
    rw [List.map_cons, enterAll]
    have entering := entering_enter table (Text.strip line)
    rcases entered : table.enter (Text.strip line) with fault | next
    · rw [entered] at entering
      cases entering with
      | faulty _ breaks =>
        exact .failed [] (rest.map Text.strip) (Text.strip line) fault rfl
          (fun row m => absurd m List.not_mem_nil) breaks
    · rw [entered] at entering
      exact Parsing.cons entering (ih (number + 1) next)

/-! ## Section 4: Texts -/

section texts

variable {source : Option String} {text : List Char} {table : IdTable}

theorem parsing_parse (source : Option String) (text : List Char) :
    Parsing source 1 ∅ (rows text) (parse source text) :=
  parsing_enterAll source 1 ∅ (Text.lines text)

/-- A text that is refused has a first row that does not fit. -/
theorem faultyLine_of_parse {error : TableError} (failed : parse source text = .error error) :
    ∃ before row after fault, rows text = before ++ row :: after ∧
      (∀ earlier ∈ before, Fits earlier) ∧ Breaks row fault ∧
      error = .faultyLine source (before.length + 1) fault := by
  have parsing := parsing_parse source text
  rw [failed] at parsing
  cases parsing with
  | failed before after row fault split earlier breaks =>
    rw [Nat.add_comm]
    exact ⟨before, row, after, fault, split, earlier, breaks, rfl⟩

/-- A text whose rows fit holds a table. -/
theorem exists_of_fits (fits : ∀ row ∈ rows text, Fits row) :
    ∃ table, parse source text = .ok table := by
  cases result : parse source text with
  | ok table => exact ⟨table, rfl⟩
  | error error =>
    obtain ⟨before, row, after, fault, split, -, breaks, -⟩ := faultyLine_of_parse result
    refine absurd (fits row ?_) breaks.not_fits
    rw [split]
    exact List.mem_append_right before List.mem_cons_self

theorem fits_of_parse (done : parse source text = .ok table) : ∀ row ∈ rows text, Fits row := by
  have parsing := parsing_parse source text
  rw [done] at parsing
  cases parsing with
  | done final fits entries => exact fits

/-- The table has what the last row of each name keeps. -/
theorem getElem?_of_parse (done : parse source text = .ok table) (name : String) (id : Int) :
    table[name]? = some id ↔ ∃ n : Nat, id = n ∧ IsLast (rows text) name n := by
  have parsing := parsing_parse source text
  rw [done] at parsing
  cases parsing with
  | done final fits entries =>
    rw [entries, Std.TreeMap.getElem?_emptyc]
    simp

end texts

/-- A text falls into lines, and rows are lines without the white space at
    their ends.  The text is read exactly if all rows fit.  Then the table
    has the id that the last row with a kept record of the name keeps, for
    each such name, and no others.  Otherwise the first row that does not
    fit is reported, by the source of the text, by the number of the row
    counted from one, and by what is wrong with it. -/
theorem parse_reads_grammar (source : Option String) (text : List Char) :
    (Text.FallsInto text (Text.lines text) ∧
      ∀ line ∈ Text.lines text, Text.IsStripped line (Text.strip line)) ∧
    ((∃ table, parse source text = .ok table) ↔ ∀ row ∈ rows text, Fits row) ∧
    (∀ table, parse source text = .ok table → ∀ (name : String) (id : Int),
      table[name]? = some id ↔ ∃ n : Nat, id = n ∧ IsLast (rows text) name n) ∧
    ∀ error, parse source text = .error error →
      ∃ before row after fault, rows text = before ++ row :: after ∧
        (∀ earlier ∈ before, Fits earlier) ∧ Breaks row fault ∧
        error = .faultyLine source (before.length + 1) fault := by
  refine ⟨⟨Text.fallsInto_iff.2 rfl, fun line _ => Text.isStripped_strip line⟩, ⟨?_, ?_⟩, ?_, ?_⟩
  · rintro ⟨table, done⟩
    exact fits_of_parse done
  · exact exists_of_fits
  · intro table done
    exact getElem?_of_parse done
  · intro error failed
    exact faultyLine_of_parse failed

end StringOrigins.IdTable
