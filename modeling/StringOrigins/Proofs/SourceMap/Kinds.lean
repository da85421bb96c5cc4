import StringOrigins.Proofs.IdTable.Writing
import StringOrigins.Proofs.SourceMap.Relocation
import StringOrigins.Proofs.SourceMap.Reordering
import StringOrigins.Proofs.StringsFile.Order

/-! # The kinds of a name

    An id table is read by name, whatever the kinds of its records, and so
    is a strings file.  An entry has the id of the last kept record of its
    name, and the first strings file that has an element with that name;
    the record and the element need not be of one kind
    (`kinds_differ_formerTree`).  They are if the name is not used with
    different kinds (`kinds_of_entry`). -/

namespace StringOrigins

open ResourceId (IsLiteral largest)
open Record (Spells)

/-! ## Section 1: Records of a kind -/

namespace IdTable

/-- A row is a record of a name and an id, for a resource of a kind. -/
def KeepsAs (row : List Char) (kind : ResourceKind) (name : String) (id : Nat) : Prop :=
  ∃ record, Spells row record ∧ record.isArray = false ∧ record.typeName = kind.typeName ∧
    record.name = name.toList ∧ IsLiteral record.value id ∧ id ≤ largest

/-- What a row keeps can be told by reading it. -/
theorem keepsAs_iff {row : List Char} {kind : ResourceKind} {name : String} {id : Nat} :
    KeepsAs row kind name id ↔ ∃ record ∈ Record.ofLine? row, record.isArray = false ∧
      record.typeName = kind.typeName ∧ record.name = name.toList ∧
      ResourceId.read record.value = .ok id := by
  unfold KeepsAs
  simp only [Option.mem_def, Record.ofLine?_eq_some_iff, ResourceId.read_eq_ok_iff]

instance (row : List Char) (kind : ResourceKind) (name : String) (id : Nat) :
    Decidable (KeepsAs row kind name id) :=
  decidable_of_iff _ keepsAs_iff.symm

/-- The last row that keeps a name keeps this id of it, for this kind. -/
def IsLastAs (rows : List (List Char)) (kind : ResourceKind) (name : String) (id : Nat) : Prop :=
  ∃ before row after, rows = before ++ row :: after ∧ KeepsAs row kind name id ∧
    ∀ later ∈ after, ∀ other, ¬ Keeps later name other

/-- The word for the type of a kept record is that of a kind. -/
theorem exists_kind {record : Record} (kept : record.IsKept) :
    ∃ kind : ResourceKind, record.typeName = kind.typeName := by
  have word := kept.2
  simp only [List.mem_cons, List.not_mem_nil, or_false] at word
  rcases word with string | plurals | array
  · exact ⟨.string, string⟩
  · exact ⟨.plurals, plurals⟩
  · exact ⟨.array, array⟩

/-- A row that keeps an id keeps it for some kind. -/
theorem Keeps.exists_keepsAs {row : List Char} {name : String} {id : Nat}
    (keeps : Keeps row name id) : ∃ kind, KeepsAs row kind name id := by
  obtain ⟨record, spells, kept, named, literal, small⟩ := keeps
  obtain ⟨kind, typed⟩ := exists_kind kept
  exact ⟨kind, record, spells, kept.1, typed, named, literal, small⟩

theorem IsLast.exists_isLastAs {rows : List (List Char)} {name : String} {id : Nat}
    (last : IsLast rows name id) : ∃ kind, IsLastAs rows kind name id := by
  obtain ⟨before, row, after, split, keeps, none⟩ := last
  obtain ⟨kind, keepsAs⟩ := keeps.exists_keepsAs
  exact ⟨kind, before, row, after, split, keepsAs, none⟩

theorem IsLastAs.exists_row {rows : List (List Char)} {kind : ResourceKind} {name : String}
    {id : Nat} (last : IsLastAs rows kind name id) :
    ∃ row ∈ rows, ∃ id, KeepsAs row kind name id := by
  obtain ⟨before, row, after, rfl, keeps, -⟩ := last
  exact ⟨row, List.mem_append_right before List.mem_cons_self, id, keeps⟩

end IdTable

/-! ## Section 2: Elements of a kind -/

namespace StringsFile

/-- A file is a document that has an element of a kind with a name. -/
def Holds (fs : FileSystem) (path : String) (kind : ResourceKind) (name : String) : Prop :=
  ∃ octets elements, fs.read path = .ok octets ∧ Xml.elements octets = .ok elements ∧
    ∃ element ∈ elements, IsOf kind element ∧ name? element = some name

/-- What is scraped from a file are the names of its elements, each of some kind. -/
theorem exists_holds_of_scrape {fs : FileSystem} {path : String} {names : List String}
    (scraped : scrape fs path = .ok names) {name : String} (m : name ∈ names) :
    ∃ kind, Holds fs path kind name := by
  obtain ⟨octets, file⟩ := read_of_scrape scraped
  rw [scrape, file] at scraped
  dsimp only at scraped
  unfold ofOctets at scraped
  cases parsed : Xml.elements octets with
  | error fault =>
    rw [parsed] at scraped
    cases scraped
  | ok elements =>
    rw [parsed] at scraped
    have all : (definitions elements).map (fun d => name? d.2) = names.map some :=
      namesOf_eq_ok_iff.1 scraped
    have there : some name ∈ (definitions elements).map fun d => name? d.2 :=
      all ▸ List.mem_map_of_mem m
    obtain ⟨⟨kind, element⟩, inside, named⟩ := List.mem_map.1 there
    obtain ⟨kind', -, inside⟩ := List.mem_flatMap.1 inside
    obtain ⟨element', ofKind, same⟩ := List.mem_map.1 inside
    obtain ⟨rfl, rfl⟩ := Prod.mk.inj same
    obtain ⟨among, isOf⟩ := mem_ofKind.1 ofKind
    exact ⟨kind', octets, elements, file, parsed, element', among, isOf, named⟩

/-- A stored document holds the names of its tree, each for the kind of its element. -/
theorem holds_iff_of_stores {fs : FileSystem} {path : String} (document : Xml.Tree.Document)
    {text : List Char} {octets : Utf8.Octets} (writes : Xml.Tree.Writes document.content text)
    (stores : Xml.Stores text octets) (file : fs.read path = .ok octets) (kind : ResourceKind)
    (name : String) :
    Holds fs path kind name ↔
      ∃ outline ∈ document.outlines, Defines kind.tag outline ∧
        nameOf outline = some name.toList := by
  obtain ⟨elements, parsed, outlines⟩ := Xml.elements_of_stores document writes stores
  rw [← outlines]
  constructor
  · rintro ⟨octets', elements', file', parsed', element, among, isOf, named⟩
    obtain rfl := Except.ok.inj (file'.symm.trans file)
    obtain rfl := Except.ok.inj (parsed'.symm.trans parsed)
    refine ⟨element.outline, List.mem_map_of_mem among, isOf, ?_⟩
    rw [name?_eq, Option.map_eq_some_iff] at named
    obtain ⟨value, found, rfl⟩ := named
    rw [found, String.toList_ofList]
  · rintro ⟨outline, m, defines, named⟩
    obtain ⟨element, among, rfl⟩ := List.mem_map.1 m
    refine ⟨octets, elements, file, parsed, element, among, defines, ?_⟩
    rw [name?_eq, named, Option.map_some, String.ofList_toList]

end StringsFile

/-! ## Section 3: The kinds of an entry -/

namespace Survey

open IdTable (KeepsAs IsLastAs rows)
open StringsFile (Holds)

/-- The recorded path, seen from the root, leads to the strings file that has been read. -/
theorem relocate_source (root : Option Path) (directory : String) (id : Int) :
    relocate root (entryOf directory id).source = (fileOf root directory).text := by
  unfold relocate
  rw [ofText_source]

/-- All elements of a file and all records of a text that have a name are of one kind. -/
def IsOfOneKind (fs : FileSystem) (path : String) (text : List Char) (name : String) : Prop :=
  ∀ kind other, Holds fs path kind name →
    (∃ row ∈ rows text, ∃ id, KeepsAs row other name id) → kind = other

/-- An entry of a survey by an id table that has been read from a text: the
    recorded strings file has an element with the name, of some kind, and
    the last record of the text that is kept of the name has the id, for
    some kind.  Both are of one kind if the file has any element with the
    name that is of the kind of the record, and also if the name is used
    with one kind only. -/
theorem kinds_of_entry (fs : FileSystem) (source : Option String) (text : List Char)
    (ids : IdTable) (parsed : IdTable.parse source text = .ok ids) (root : Option Path)
    (directories : List String) (name : String) (entry : Entry)
    (recorded : (of fs ids root directories).sources[name]? = some entry) :
    ∃ (kind other : ResourceKind) (id : Nat), entry.id = id ∧
      Holds fs (relocate root entry.source) kind name ∧ IsLastAs (rows text) other name id ∧
      (Holds fs (relocate root entry.source) other name → kind = other) ∧
      (IsOfOneKind fs (relocate root entry.source) text name → kind = other) := by
  rw [getElem?_sources_of, Option.bind_eq_some_iff] at recorded
  obtain ⟨directory, first, mapped⟩ := recorded
  obtain ⟨id, known, rfl⟩ := Option.map_eq_some_iff.1 mapped
  obtain ⟨⟨-, names, scraped, m⟩, -⟩ := provider?_eq_some_iff.1 first
  obtain ⟨kind, holds⟩ := StringsFile.exists_holds_of_scrape scraped m
  obtain ⟨n, rfl, last⟩ := (IdTable.getElem?_of_parse parsed name id).1 known
  obtain ⟨other, lastAs⟩ := last.exists_isLastAs
  rw [relocate_source]
  -- Of several elements with the name, one of the kind of the record goes first.
  by_cases shared : Holds fs (fileOf root directory).text other name
  · exact ⟨other, other, n, rfl, shared, lastAs, fun _ => rfl, fun _ => rfl⟩
  · exact ⟨kind, other, n, rfl, holds, lastAs, fun there => absurd there shared,
      fun one => one kind other holds lastAs.exists_row⟩

/-! ## Section 4: A name of two kinds -/

/-- A name with records of two kinds, and one of a single kind. -/
def mixedText : List Char :=
  "int string own 0x7f080001\nint plurals own 0x7f0a0002\nint array other 0x7f030003\n".toList

theorem rows_mixedText :
    rows mixedText = ["int string own 0x7f080001".toList, "int plurals own 0x7f0a0002".toList,
      "int array other 0x7f030003".toList] := by
  decide +kernel

theorem exists_parse_mixedText : ∃ ids, IdTable.parse none mixedText = .ok ids ∧
    ids["own"]? = some 0x7f0a0002 ∧ ids["other"]? = some 0x7f030003 := by
  have found : (IdTable.parse none mixedText).toOption.map
      (fun ids => (ids["own"]?, ids["other"]?)) = some (some 0x7f0a0002, some 0x7f030003) := by
    decide +kernel
  cases parsed : IdTable.parse none mixedText with
  | error error =>
    rw [parsed] at found
    cases found
  | ok ids =>
    rw [parsed] at found
    obtain ⟨own, other⟩ := Prod.mk.inj (Option.some.inj found)
    exact ⟨ids, rfl, own, other⟩

/-- In the former tree, a name is recorded for the directory that lists it. -/
theorem getElem?_formerTree (ids : IdTable) {id : Int} :
    (ids["own"]? = some id →
      (of formerTree ids none ["a", "b"]).sources["own"]? = some (entryOf "a" id)) ∧
    (ids["other"]? = some id →
      (of formerTree ids none ["a", "b"]).sources["other"]? = some (entryOf "b" id)) := by
  have own : provider? formerTree none ["a", "b"] "own" = some "a" := by
    refine provider?_eq_some_iff.2 ⟨(lists_formerTree "own").1.2 (by decide), [], ["b"], rfl, ?_⟩
    exact fun directory m => absurd m List.not_mem_nil
  have other : provider? formerTree none ["a", "b"] "other" = some "b" := by
    refine provider?_eq_some_iff.2 ⟨(lists_formerTree "other").2.2 (by decide), ["a"], [], rfl, ?_⟩
    intro directory m lists
    rw [List.mem_singleton.1 m] at lists
    exact absurd ((lists_formerTree "other").1.1 lists) (by decide)
  constructor
  · intro known
    rw [getElem?_sources_of, own, known]
    rfl
  · intro known
    rw [getElem?_sources_of, other, known]
    rfl

/-- The name has the id of the later record, which is one of plurals, and is
    recorded for a file that has it as a string only. -/
theorem kinds_differ_formerTree :
    ∃ ids entry, IdTable.parse none mixedText = .ok ids ∧
      (of formerTree ids none ["a", "b"]).sources["own"]? = some entry ∧
      ¬ ∃ (kind : ResourceKind) (id : Nat), entry.id = id ∧
        Holds formerTree (relocate none entry.source) kind "own" ∧
        ∃ row ∈ rows mixedText, KeepsAs row kind "own" id := by
  obtain ⟨ids, parsed, own, -⟩ := exists_parse_mixedText
  refine ⟨ids, _, parsed, (getElem?_formerTree ids).1 own, ?_⟩
  rintro ⟨kind, id, same, holds, row, m, keeps⟩
  obtain rfl : 0x7f0a0002 = id := Int.ofNat_inj.1 same
  have records : ∀ row ∈ rows mixedText, ∀ kind ∈ ResourceKind.all,
      KeepsAs row kind "own" 0x7f0a0002 → kind = .plurals := by
    rw [rows_mixedText]
    decide +kernel
  obtain rfl := records row m kind (ResourceKind.mem_all kind) keeps
  rw [relocate_source] at holds
  obtain ⟨outline, among, defines, -⟩ :=
    (StringsFile.holds_iff_of_stores _ (Xml.Tree.writes_print _) .utf8 (read_twoFiles _ _).1
      .plurals "own").1 holds
  have strings : ∀ outline ∈
      (rowDocument [ownString, sharedString] (by decide)).outlines,
      ¬ StringsFile.Defines ResourceKind.plurals.tag outline := by
    decide
  exact strings outline among defines

/-- The other name is used with one kind only, and its entry is of that kind. -/
theorem kinds_of_entry_formerTree :
    ∃ ids entry, IdTable.parse none mixedText = .ok ids ∧
      (of formerTree ids none ["a", "b"]).sources["other"]? = some entry ∧
      IsOfOneKind formerTree (relocate none entry.source) mixedText "other" ∧
      ∃ (kind : ResourceKind) (id : Nat), entry.id = id ∧
        Holds formerTree (relocate none entry.source) kind "other" ∧
        IsLastAs (rows mixedText) kind "other" id := by
  obtain ⟨ids, parsed, -, other⟩ := exists_parse_mixedText
  have recorded := (getElem?_formerTree ids).2 other
  have records : ∀ row ∈ rows mixedText, ∀ kind ∈ ResourceKind.all,
      (∃ record ∈ Record.ofLine? row, record.name = "other".toList ∧
        record.typeName = kind.typeName) → kind = .array := by
    rw [rows_mixedText]
    decide +kernel
  have one : IsOfOneKind formerTree (relocate none (entryOf "b" 0x7f030003).source) mixedText
      "other" := by
    rintro kind kind' holds ⟨row, m, id, record, spells, -, typed, named, -⟩
    rw [relocate_source] at holds
    obtain ⟨outline, among, defines, -⟩ :=
      (StringsFile.holds_iff_of_stores _ (Xml.Tree.writes_print _) .utf8 (read_twoFiles _ _).2
        kind "other").1 holds
    have arrays : ∀ outline ∈ (rowDocument [ownArray, sharedArray] (by decide)).outlines,
        ∀ kind ∈ ResourceKind.all, StringsFile.Defines kind.tag outline → kind = .array := by
      decide
    rw [arrays outline among kind (ResourceKind.mem_all kind) defines,
      records row m kind' (ResourceKind.mem_all kind')
        ⟨record, Record.ofLine?_eq_some_iff.2 spells, named, typed⟩]
  obtain ⟨kind, kind', id, same, holds, last, -, agree⟩ :=
    kinds_of_entry formerTree none mixedText ids parsed none ["a", "b"] "other" _ recorded
  obtain rfl := agree one
  exact ⟨ids, _, parsed, recorded, one, kind, id, same, holds, last⟩

end Survey

end StringOrigins
