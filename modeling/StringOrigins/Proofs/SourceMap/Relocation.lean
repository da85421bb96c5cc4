import StringOrigins.Proofs.Path.Joining
import StringOrigins.Proofs.SourceMap.Damage

/-! # Directories and their root

    The directories of a survey may be seen from a root, or each of them may
    be given by the path that it has from there.  Both surveys read the same
    strings files (`fileOf_relocate`), so they find the same names and the
    same problems.  Only the recorded paths differ: one survey records a
    strings file as its directory was given, the other as it is seen from
    the root (`Findings.of_relocated`). -/

namespace StringOrigins

/-- The text of a path, as the path is seen from a root. -/
def relocate (root : Option Path) (text : String) : String := ((Path.ofText text).resolve root).text

/-- An entry with the path that its strings file has from a root. -/
def Entry.relocate (root : Option Path) (entry : Entry) : Entry :=
  { entry with source := StringOrigins.relocate root entry.source }

namespace Survey

variable (fs : FileSystem) (ids : IdTable) (root : Option Path)

/-! ## Section 1: One directory -/

/-- A strings file may be resolved, or its directory. -/
theorem fileOf_relocate (directory : String) :
    fileOf none (relocate root directory) = fileOf root directory := by
  unfold fileOf relocate
  rw [Path.ofText_text, Path.resolve_none, Path.resolve_stringsFile]

/-- So the text that is recorded, seen from the root, is the text of the file that is read. -/
theorem ofText_source (directory : String) (id : Int) :
    (Path.ofText (entryOf directory id).source).resolve root = fileOf root directory := by
  show (Path.ofText (Path.ofText directory).stringsFile.text).resolve root = _
  rw [Path.ofText_text]
  rfl

theorem contribution_relocate (directory : String) :
    contribution fs none (relocate root directory) = contribution fs root directory := by
  unfold contribution
  rw [fileOf_relocate]

theorem troubles_relocate (directory : String) :
    troubles fs none (relocate root directory) = troubles fs root directory := by
  unfold troubles
  rw [fileOf_relocate]

/-- The entry for a relocated directory has the relocated path. -/
theorem entryOf_relocate (directory : String) (id : Int) :
    entryOf (relocate root directory) id = (entryOf directory id).relocate root := by
  have source : (entryOf (relocate root directory) id).source =
      relocate root (entryOf directory id).source := by
    show (fileOf none (relocate root directory)).text = _
    rw [fileOf_relocate, ← ofText_source root directory id]
    rfl
  unfold Entry.relocate
  rw [← source]
  rfl

/-! ## Section 2: All directories -/

/-- The first directory that lists a name stays the first. -/
theorem provider?_relocate (directories : List String) (name : String) :
    provider? fs none (directories.map (relocate root)) name =
      (provider? fs root directories name).map (relocate root) := by
  induction directories with
  | nil => rfl
  | cons first rest ih =>
    rw [List.map_cons, provider?_cons, provider?_cons, contribution_relocate, ih]
    by_cases lists : name ∈ contribution fs root first
    · simp [lists]
    · simp [lists]

/-- The names are recorded with the same ids, and with relocated paths. -/
theorem getElem?_sources_of_relocate (directories : List String) (name : String) :
    (of fs ids none (directories.map (relocate root))).sources[name]? =
      (of fs ids root directories).sources[name]?.map (Entry.relocate root) := by
  rw [getElem?_sources_of, getElem?_sources_of, provider?_relocate]
  cases provider? fs root directories name with
  | none => rfl
  | some directory =>
    cases ids[name]? with
    | none => rfl
    | some id => exact congrArg some (entryOf_relocate root directory id)

/-- The problems are the same, and in the same order. -/
theorem problems_of_relocate (directories : List String) :
    (of fs ids none (directories.map (relocate root))).problems =
      (of fs ids root directories).problems := by
  rw [problems_of, problems_of, List.flatMap_map]
  simp only [troubles_relocate]

end Survey

/-! ## Section 3: What a caller finds -/

/-- A survey of directories that are seen from a root, and one of the paths
    that these directories have from there, find the same names with the
    same ids and add the same problems in the same order.  The path that the
    second records is the path that the first records, seen from the root.
    The first records the strings file of the first directory that lists the
    name, as that directory is given, and seen from the root this path leads
    to a file that is scraped and lists the name. -/
theorem Findings.of_relocated (fs : FileSystem) (ids : IdTable) (root : Option Path)
    (given : Option (List String)) (directories : List String) :
    (∀ name : String,
      (of fs ids none given (directories.map (relocate root))).sources[name]? =
        (of fs ids root given directories).sources[name]?.map (Entry.relocate root)) ∧
    (of fs ids none given (directories.map (relocate root))).problems =
      (of fs ids root given directories).problems ∧
    ∀ (name : String) (entry : Entry),
      (of fs ids root given directories).sources[name]? = some entry →
      ∃ directory, Survey.IsFirst fs root directories directory name ∧
        ids[name]? = some entry.id ∧
        entry.source = (Path.ofText directory).stringsFile.text ∧
        ∃ names, StringsFile.scrape fs (relocate root entry.source) = .ok names ∧ name ∈ names := by
  rw [of_eq fs ids none, of_eq fs ids root]
  refine ⟨Survey.getElem?_sources_of_relocate fs ids root directories, ?_, ?_⟩
  · show given.map (· ++ _) = given.map (· ++ _)
    rw [Survey.problems_of_relocate]
  · intro name entry recorded
    rw [Survey.getElem?_sources_of, Option.bind_eq_some_iff] at recorded
    obtain ⟨directory, first, mapped⟩ := recorded
    obtain ⟨id, known, rfl⟩ := Option.map_eq_some_iff.1 mapped
    have isFirst := Survey.provider?_eq_some_iff.1 first
    obtain ⟨-, names, scraped, m⟩ := isFirst.1
    refine ⟨directory, isFirst, known, rfl, names, ?_, m⟩
    unfold relocate
    rw [Survey.ofText_source]
    exact scraped

end StringOrigins
