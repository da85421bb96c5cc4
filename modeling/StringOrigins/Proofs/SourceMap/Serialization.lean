import StringOrigins.Proofs.Json.Order
import StringOrigins.Proofs.Json.RoundTrip
import StringOrigins.Proofs.ResourceId
import StringOrigins.Proofs.Text.Utf8
import StringOrigins.SourceMap.Basic

/-! # Reading the file of a source map

    The octets of a source map are decoded and read as an object that has
    one member for each name of the map, whatever characters the names and
    paths are made of.  Nothing of the map is lost in its file, so that
    different source maps have different files (`serialize_roundTrip`). -/

namespace StringOrigins

/-! ## Section 1: Entries -/

/-- What the member of an entry is read as. -/
def Entry.value (entry : Entry) : Json.Value :=
  .object [("androidResourceId".toList, .text (ResourceId.chars entry.id)),
    ("stringsXmlPath".toList, .text entry.source.toList)]

/-- The two members of an entry are in order already. -/
theorem Entry.sorted_toJson (entry : Entry) : entry.toJson.sorted = entry.toJson := by
  have names : ¬ Precedes "stringsXmlPath".toList "androidResourceId".toList := by decide
  have ordered : [("androidResourceId".toList, Json.text (ResourceId.chars entry.id)),
      ("stringsXmlPath".toList, Json.text entry.source.toList)].Pairwise
        fun first second => Json.inOrder first second = true :=
    List.pairwise_pair.2 (Json.inOrder_iff.2 names)
  rw [toJson, Json.sorted]
  exact congrArg Json.object (List.mergeSort_of_pairwise ordered)

namespace SourceMap

/-! ## Section 2: Members -/

/-- The members of a source map as they are printed: in the order of their names. -/
def ordered (sources : SourceMap) : List (List Char × Json) :=
  (sources.toList.map fun (name, entry) => (name.toList, entry.toJson)).mergeSort Json.inOrder

/-- The members that the file of a source map is read as. -/
def members (sources : SourceMap) : List (List Char × Json.Value) :=
  sources.ordered.map fun (name, member) => (name, member.value)

theorem sorted_toJson (sources : SourceMap) : sources.toJson.sorted = .object sources.ordered := by
  have values : Json.sortedValues (sources.toList.map fun (name, entry) =>
        (name.toList, entry.toJson)) =
      sources.toList.map fun (name, entry) => (name.toList, entry.toJson) := by
    rw [Json.sortedValues_eq_map, List.map_map]
    refine List.map_congr_left fun (name, entry) _ => ?_
    exact congrArg (name.toList, ·) entry.sorted_toJson
  rw [toJson, Json.sorted, values, ordered]

theorem value_toJson (sources : SourceMap) :
    sources.toJson.sorted.value = .object sources.members := by
  rw [sorted_toJson, Json.value, Json.memberValues_eq_map, members]

/-- The file of a source map is read as its members. -/
theorem read?_chars (sources : SourceMap) :
    Json.read? sources.chars = some (.object sources.members) := by
  rw [← value_toJson]
  refine Json.read?_print sources.toJson.sorted ['\n'] ?_
  intro c m
  rw [List.mem_singleton.1 m]
  decide

/-- The octets of the file hold the text of the file. -/
theorem decode_serialize (sources : SourceMap) :
    Utf8.decode sources.serialize = .ok sources.chars :=
  Utf8.decode_encode sources.chars

/-- A member is a name of the map with its entry. -/
theorem mem_members_iff {sources : SourceMap} {name : String} {value : Json.Value} :
    (name.toList, value) ∈ sources.members ↔
      ∃ entry, sources[name]? = some entry ∧ value = entry.value := by
  unfold members ordered
  simp only [List.mem_map, List.mem_mergeSort, Prod.exists, Dictionary.mem_toList_iff]
  constructor
  · rintro ⟨key, member, ⟨other, entry, there, shape⟩, eq⟩
    obtain ⟨rfl, rfl⟩ := Prod.mk.inj shape
    obtain ⟨text, rfl⟩ := Prod.mk.inj eq
    obtain rfl : other = name := String.toList_inj.1 text
    exact ⟨entry, there, rfl⟩
  · rintro ⟨entry, there, rfl⟩
    exact ⟨name.toList, entry.toJson, ⟨name, entry, there, rfl⟩, rfl⟩

/-- Before the members are put in order, their names are those of the map. -/
theorem map_fst_map_toJson (sources : SourceMap) :
    (sources.toList.map fun (name, entry) => (name.toList, entry.toJson)).map Prod.fst =
      sources.names.map String.toList := by
  rw [Dictionary.names, List.map_map, List.map_map]
  rfl

theorem nodup_map_toJson (sources : SourceMap) :
    ((sources.toList.map fun (name, entry) => (name.toList, entry.toJson)).map Prod.fst).Nodup := by
  rw [map_fst_map_toJson]
  refine List.Pairwise.map String.toList (fun first second differ same => ?_) sources.distinct
  exact differ (String.toList_inj.1 same)

theorem map_fst_members (sources : SourceMap) :
    sources.members.map Prod.fst = sources.ordered.map Prod.fst := by
  rw [members, List.map_map]
  rfl

/-- Afterwards they are the same. -/
theorem map_fst_members_perm (sources : SourceMap) :
    (sources.members.map Prod.fst).Perm (sources.names.map String.toList) := by
  rw [map_fst_members, ← map_fst_map_toJson]
  exact (Json.ordered_perm _).map Prod.fst

/-- No two members have the same name. -/
theorem nodup_members (sources : SourceMap) : (sources.members.map Prod.fst).Nodup := by
  rw [(map_fst_members_perm sources).nodup_iff, ← map_fst_map_toJson]
  exact nodup_map_toJson sources

/-- The names of the members are those that have an entry. -/
theorem mem_map_fst_members_iff {sources : SourceMap} {key : List Char} :
    key ∈ sources.members.map Prod.fst ↔ ∃ name ∈ sources, key = name.toList := by
  rw [(map_fst_members_perm sources).mem_iff, List.mem_map]
  constructor
  · rintro ⟨name, m, rfl⟩
    exact ⟨name, m, rfl⟩
  · rintro ⟨name, m, rfl⟩
    exact ⟨name, m, rfl⟩

/-! ## Section 3: Files and maps -/

/-- An entry is known from what its member is read as. -/
theorem value_injective {a b : Entry} (same : a.value = b.value) : a = b := by
  unfold Entry.value at same
  have members := Json.Value.object.inj same
  have first := congrArg Prod.snd (List.cons.inj members).1
  have second := congrArg Prod.snd (List.cons.inj (List.cons.inj members).2).1
  have ids : a.id = b.id := ResourceId.chars_injective (Json.Value.text.inj first)
  have sources : a.source = b.source := String.toList_inj.1 (Json.Value.text.inj second)
  obtain ⟨id, source⟩ := a
  subst ids
  subst sources
  rfl

/-- An entry of the map is one that the members show. -/
theorem getElem?_eq_some_iff {sources : SourceMap} {name : String} {entry : Entry} :
    sources[name]? = some entry ↔ (name.toList, entry.value) ∈ sources.members := by
  rw [mem_members_iff]
  constructor
  · intro there
    exact ⟨entry, there, rfl⟩
  · rintro ⟨other, there, eq⟩
    rw [value_injective eq]
    exact there

/-- Source maps with the same file give every name the same entry. -/
theorem getElem?_of_serialize_eq {a b : SourceMap} (same : a.serialize = b.serialize)
    (name : String) : a[name]? = b[name]? := by
  have texts : a.chars = b.chars := by
    have decoded := decode_serialize a
    rw [same, decode_serialize b] at decoded
    exact (Except.ok.inj decoded).symm
  have members : a.members = b.members := by
    have read := read?_chars a
    rw [texts, read?_chars b] at read
    exact (Json.Value.object.inj (Option.some.inj read)).symm
  ext entry
  rw [getElem?_eq_some_iff, getElem?_eq_some_iff, members]

/-- The text of a file is a pair of braces around the members, and a line feed. -/
theorem exists_inside (sources : SourceMap) :
    ∃ inside, sources.chars = '\x7b' :: inside ++ ['\x7d', '\n'] := by
  obtain ⟨inside, shape⟩ := Json.exists_inside sources.ordered
  refine ⟨inside, ?_⟩
  rw [chars, sorted_toJson, shape, List.append_assoc]
  rfl

/-- The file of a source map is UTF-8 and ends with a closing brace and one
    line feed.  It reads as an object whose names are those of the map, each
    of them once, and the member of a name is an object of exactly two
    texts: the id of its entry, and the path.  Different source maps have
    different files. -/
theorem serialize_roundTrip (sources : SourceMap) :
    (∃ text inside members, Utf8.decode sources.serialize = .ok text ∧
      text = '\x7b' :: inside ++ ['\x7d', '\n'] ∧
      Json.read? text = some (.object members) ∧
      (members.map Prod.fst).Nodup ∧
      (∀ key, key ∈ members.map Prod.fst ↔ ∃ name ∈ sources, key = name.toList) ∧
      ∀ (name : String) (value : Json.Value), (name.toList, value) ∈ members ↔
        ∃ entry, sources[name]? = some entry ∧
          value = .object [("androidResourceId".toList, .text (ResourceId.chars entry.id)),
            ("stringsXmlPath".toList, .text entry.source.toList)]) ∧
    ∀ other : SourceMap, other.serialize = sources.serialize →
      ∀ name : String, other[name]? = sources[name]? := by
  constructor
  · obtain ⟨inside, shape⟩ := exists_inside sources
    exact ⟨sources.chars, inside, sources.members, decode_serialize sources, shape,
      read?_chars sources, nodup_members sources, fun key => mem_map_fst_members_iff,
      fun name value => mem_members_iff⟩
  · intro other same
    exact getElem?_of_serialize_eq same

end SourceMap

end StringOrigins
