import StringOrigins.Proofs.SourceMap.Reordering
import StringOrigins.Proofs.Step.Atomicity

/-! # What a step is for

    A step succeeds exactly if there is a table and a place for the output.
    Then a reader of JSON finds in the output file one member for each name
    that has an id and that a resource directory lists, with the id and
    with the strings file of the first directory that lists the name
    (`run_sound_and_complete`). -/

namespace StringOrigins.Step

open Survey (Lists IsFirst twoFiles fileOf)

/-! ## Section 1: The place for the output -/

/-- The output directory is there, neither the output file nor the
    temporary file in it is a directory, and the path of the temporary file
    is not too long. -/
def HasPlace (fs : FileSystem) (directory : Path) : Prop :=
  ∃ place, fs.locate directory.text = .ok (.found place .directory) ∧
    fs.at? (place ++ ["strings.json"]) ≠ some .directory ∧
    fs.at? (place ++ ["strings.json.tmp"]) ≠ some .directory ∧
    directory.temporaryFile.text.utf8ByteSize ≤ FileSystem.maxPathSize

variable {fs : FileSystem} {configuration : Configuration} {ids : IdTable}

/-- A directory whose path has no U+0000 accepts files if they have a place there. -/
theorem exists_accepts_iff {directory : Path} (clean : ¬ directory.HoldsNull) :
    (∃ place, Accepts fs directory place) ↔ HasPlace fs directory := by
  constructor
  · rintro ⟨place, accepts⟩
    exact ⟨place, accepts.reached, accepts.open_, accepts.free, accepts.size⟩
  · rintro ⟨place, reached, open_, free, size⟩
    exact ⟨place, ⟨⟨clean, size, reached⟩, free, open_⟩⟩

/-! ## Section 2: The content of the output -/

/-- The members that a step has to write, for a table of ids. -/
structure IsSourceMap (fs : FileSystem) (configuration : Configuration) (ids : IdTable)
    (members : List (List Char × Json.Value)) : Prop where
  /-- No name occurs twice. -/
  distinct : (members.map Prod.fst).Nodup
  /-- The names are those with an id that some resource directory lists. -/
  names : ∀ key, key ∈ members.map Prod.fst ↔
    ∃ name : String, key = name.toList ∧ name ∈ ids ∧
      ∃ directory ∈ configuration.resourceDirectories,
        Lists fs configuration.rootPath directory name
  /-- A name has its id, and the strings file of the first directory that lists it. -/
  values : ∀ (name : String) (value : Json.Value), (name.toList, value) ∈ members →
    ∃ id directory, ids[name]? = some id ∧
      IsFirst fs configuration.rootPath configuration.resourceDirectories directory name ∧
      value = .object [("androidResourceId".toList, .text (ResourceId.chars id)),
        ("stringsXmlPath".toList, .text (Path.ofText directory).stringsFile.text.toList)]

/-- The source map that a step collects is the one that it has to write. -/
theorem isSourceMap_sourcesOf (fs : FileSystem) (configuration : Configuration) (ids : IdTable) :
    IsSourceMap fs configuration ids (sourcesOf fs configuration ids).members where
  distinct := SourceMap.nodup_members _
  names := by
    intro key
    rw [SourceMap.mem_map_fst_members_iff]
    constructor
    · rintro ⟨name, there, rfl⟩
      exact ⟨name, rfl, (Survey.mem_sources_of ids).1 there⟩
    · rintro ⟨name, rfl, there⟩
      exact ⟨name, (Survey.mem_sources_of ids).2 there, rfl⟩
  values := by
    intro name value m
    obtain ⟨entry, there, rfl⟩ := SourceMap.mem_members_iff.1 m
    rw [sourcesOf, Survey.getElem?_sources_of] at there
    obtain ⟨directory, first, mapped⟩ := Option.bind_eq_some_iff.1 there
    obtain ⟨id, known, rfl⟩ := Option.map_eq_some_iff.1 mapped
    exact ⟨id, directory, known, Survey.provider?_eq_some_iff.1 first, rfl⟩

/-! ## Section 3: The contract -/

/-- A step whose arguments hold no U+0000 succeeds exactly if its table is
    loaded and there is a place for the output, and then the output file
    is UTF-8 and reads as the object that the step has to write. -/
theorem run_sound_and_complete (fs : FileSystem) (configuration : Configuration)
    (free : configuration.IsNullFree) :
    ((run fs configuration).1 = .finished 0 ↔
      (∃ ids, IdTable.load fs configuration.tableFile = .ok ids) ∧
        HasPlace fs configuration.output) ∧
    ((run fs configuration).1 = .finished 0 →
      ∃ ids octets text members, IdTable.load fs configuration.tableFile = .ok ids ∧
        (run fs configuration).2.2.read configuration.output.outputFile.text = .ok octets ∧
        Utf8.decode octets = .ok text ∧ Json.read? text = some (.object members) ∧
        IsSourceMap fs configuration ids members) := by
  constructor
  · rw [finished_zero_iff, exists_accepts_iff free.output_clean]
  · intro done
    obtain ⟨⟨ids, loaded⟩, place, accepts⟩ := finished_zero_iff.1 done
    have saved : savingOf fs configuration ids = _ :=
      accepts.toAdmits.save_of_open accepts.free accepts.open_
    have way := FileSystem.saving_save fs configuration.output
      (sourcesOf fs configuration ids).serialize
    have published := way.published (congrArg Prod.fst saved)
    have after : (run fs configuration).2.2 = (savingOf fs configuration ids).2 := by
      rw [run_of_load_ok loaded]
    refine ⟨ids, (sourcesOf fs configuration ids).serialize, (sourcesOf fs configuration ids).chars,
      (sourcesOf fs configuration ids).members, loaded, ?_, ?_, ?_, ?_⟩
    · rw [after]
      exact published.1
    · exact SourceMap.decode_serialize _
    · exact SourceMap.read?_chars _
    · exact isSourceMap_sourcesOf fs configuration ids

/-! ## Section 4: A sample -/

/-- A tree with an id table and a directory for the output besides. -/
def withTable (tree : FileSystem) (table : Utf8.Octets) : FileSystem :=
  ((tree.put ["gen"] .directory).put ["gen", "R.txt"] (.file table)).put ["out"] .directory

/-- A step on such a tree. -/
def surveyBuild : Configuration := ⟨"gen", ["a", "b"], "out", none⟩

theorem isNullFree_surveyBuild : surveyBuild.IsNullFree :=
  ⟨by decide, by decide, by decide, by decide⟩

theorem read_withTable (first second table : Utf8.Octets) :
    (withTable (twoFiles first second) table).read (fileOf none "a").text = .ok first ∧
      (withTable (twoFiles first second) table).read (fileOf none "b").text = .ok second ∧
      (withTable (twoFiles first second) table).read surveyBuild.tableFile.text = .ok table := by
  have names : surveyBuild.tableFile.names = ["gen", "R.txt"] := by decide +kernel
  refine ⟨?_, ?_, ?_⟩
  · exact Survey.read_of_at? rfl (by decide) (by simp [withTable, twoFiles])
      (by simp [withTable, twoFiles]) (by simp [withTable, twoFiles])
  · exact Survey.read_of_at? rfl (by decide) (by simp [withTable, twoFiles])
      (by simp [withTable, twoFiles]) (by simp [withTable, twoFiles])
  · refine FileSystem.read_of_walk rfl (by decide +kernel) (by decide +kernel)
      ["gen", "R.txt"] ?_
    rw [names, FileSystem.walk_directory (by decide) (by decide) (by simp [withTable])]
    exact FileSystem.walk_file (by decide) (by decide) (by simp [withTable])

theorem accepts_withTable (first second table : Utf8.Octets) :
    Accepts (withTable (twoFiles first second) table) surveyBuild.output ["out"] where
  clean := isNullFree_surveyBuild.output_clean
  size := by decide
  reached := by
    rw [FileSystem.locate_text, if_neg (by decide)]
    rfl
  free := by
    have bare : (⟨∅, []⟩ : FileSystem).at? ["out", "strings.json.tmp"] = none := rfl
    simp [FileSystem.temporaryAt, withTable, twoFiles, bare]
  open_ := by
    have bare : (⟨∅, []⟩ : FileSystem).at? ["out", "strings.json"] = none := rfl
    simp [FileSystem.outputAt, withTable, twoFiles, bare]

/-- Records of the name that both directories list, and of one that only the
    second lists.  What only the first lists has no id. -/
def sharedText : List Char :=
  "int string shared 0x7f080001\nint array other 0x7f030003\n".toList

def sharedTree : FileSystem := withTable Survey.formerTree (Utf8.encode sharedText)

theorem lists_sharedTree (name : String) :
    (Lists sharedTree none "a" name ↔ name ∈ ["own", "shared"]) ∧
      (Lists sharedTree none "b" name ↔ name ∈ ["other", "shared"]) :=
  ⟨Survey.lists_iff_of_document _ (read_withTable _ _ _).1 (by decide) name,
    Survey.lists_iff_of_document _ (read_withTable _ _ _).2.1 (by decide) name⟩

/-- Both directories list the shared name, and the first one counts. -/
theorem first_sharedTree : Survey.provider? sharedTree none ["a", "b"] "shared" = some "a" := by
  have lists : Lists sharedTree none "a" "shared" := (lists_sharedTree "shared").1.2 (by decide)
  refine Survey.provider?_eq_some_iff.2 ⟨lists, [], ["b"], rfl, ?_⟩
  exact fun directory m => absurd m List.not_mem_nil

theorem exists_load_sharedTree :
    ∃ ids, IdTable.load sharedTree surveyBuild.tableFile = .ok ids ∧
      ids["shared"]? = some 0x7f080001 ∧ ids["own"]? = none := by
  have file : sharedTree.read surveyBuild.tableFile.text = .ok (Utf8.encode sharedText) :=
    (read_withTable _ _ _).2.2
  have loaded : IdTable.load sharedTree surveyBuild.tableFile =
      IdTable.parse (some surveyBuild.tableFile.text) sharedText := by
    rw [IdTable.load_of_read file, IdTable.ofOctets_encode]
  have found : (IdTable.parse (some surveyBuild.tableFile.text) sharedText).toOption.map
      (fun ids => (ids["shared"]?, ids["own"]?)) = some (some 0x7f080001, none) := by
    decide +kernel
  rw [loaded]
  cases parsed : IdTable.parse (some surveyBuild.tableFile.text) sharedText with
  | error error =>
    rw [parsed] at found
    cases found
  | ok ids =>
    rw [parsed] at found
    obtain ⟨shared, own⟩ := Prod.mk.inj (Option.some.inj found)
    exact ⟨ids, rfl, shared, own⟩

/-- The build succeeds.  In its output, the shared name has its id and the
    strings file of the first directory, and the name without an id is
    missing. -/
theorem run_sharedTree :
    (Lists sharedTree none "a" "shared" ∧ Lists sharedTree none "b" "shared") ∧
      (run sharedTree surveyBuild).1 = .finished 0 ∧
      ∃ octets text members,
        (run sharedTree surveyBuild).2.2.read surveyBuild.output.outputFile.text = .ok octets ∧
        Utf8.decode octets = .ok text ∧ Json.read? text = some (.object members) ∧
        ("shared".toList, .object [("androidResourceId".toList, .text "0x7F080001".toList),
          ("stringsXmlPath".toList, .text "a/values/strings.xml".toList)]) ∈ members ∧
        "own".toList ∉ members.map Prod.fst := by
  obtain ⟨ids, loaded, shared, own⟩ := exists_load_sharedTree
  obtain ⟨success, content⟩ := run_sound_and_complete sharedTree surveyBuild isNullFree_surveyBuild
  have place : HasPlace sharedTree surveyBuild.output :=
    (exists_accepts_iff isNullFree_surveyBuild.output_clean).1 ⟨["out"], accepts_withTable _ _ _⟩
  have done := success.2 ⟨⟨ids, loaded⟩, place⟩
  obtain ⟨ids', octets, text, members, loaded', read, decoded, object, isMap⟩ := content done
  obtain rfl : ids = ids' := Except.ok.inj (loaded.symm.trans loaded')
  have lists : Lists sharedTree none "a" "shared" ∧ Lists sharedTree none "b" "shared" :=
    ⟨(lists_sharedTree "shared").1.2 (by decide), (lists_sharedTree "shared").2.2 (by decide)⟩
  refine ⟨lists, done, octets, text, members, read, decoded, object, ?_, ?_⟩
  · have listed : "shared".toList ∈ members.map Prod.fst := by
      refine (isMap.names _).2 ⟨"shared", rfl, ?_, "a", List.mem_cons_self, ?_⟩
      · rw [Std.TreeMap.mem_iff_isSome_getElem?, shared]
        rfl
      · exact lists.1
    obtain ⟨⟨key, value⟩, m, rfl⟩ := List.mem_map.1 listed
    obtain ⟨id, directory, known, first, rfl⟩ := isMap.values "shared" value m
    obtain rfl : 0x7f080001 = id := Option.some.inj (shared.symm.trans known)
    obtain rfl : "a" = directory :=
      Option.some.inj (first_sharedTree.symm.trans (Survey.provider?_eq_some_iff.2 first))
    have digits : ResourceId.chars 0x7f080001 = "0x7F080001".toList := by decide +kernel
    have path : (Path.ofText "a").stringsFile.text = "a/values/strings.xml" := by decide +kernel
    rw [digits, path] at m
    exact m
  · intro listed
    obtain ⟨name, eq, known, -⟩ := (isMap.names _).1 listed
    obtain rfl : "own" = name := String.toList_inj.1 eq
    rw [Std.TreeMap.mem_iff_isSome_getElem?, own] at known
    cases known

end StringOrigins.Step
