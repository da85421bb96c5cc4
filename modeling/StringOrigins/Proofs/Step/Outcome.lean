import StringOrigins.Proofs.IdTable.Load
import StringOrigins.Proofs.SourceMap.Output
import StringOrigins.Step

/-! # How a step ends

    A step whose id table is loaded ends as saving its source map does, and
    any other step ends with status 1 and changes nothing.  It succeeds
    exactly if the table is loaded and the output directory accepts the
    file (`finished_zero_iff`). -/

namespace StringOrigins

/-! ## Section 1: Arguments without U+0000 -/

namespace Configuration

/-- No argument of a step holds U+0000. -/
structure IsNullFree (configuration : Configuration) : Prop where
  table : FileSystem.holdsNull configuration.tableDirectory = false
  resources : ∀ directory ∈ configuration.resourceDirectories,
    FileSystem.holdsNull directory = false
  output : FileSystem.holdsNull configuration.outputDirectory = false
  root : ∀ root ∈ configuration.root, FileSystem.holdsNull root = false

variable {configuration : Configuration}

/-- A path that is resolved against the root of a step brings in no U+0000. -/
theorem IsNullFree.resolve (free : configuration.IsNullFree) {path : String}
    (clean : FileSystem.holdsNull path = false) :
    ¬ ((Path.ofText path).resolve configuration.rootPath).HoldsNull := by
  intro held
  rcases FileSystem.holdsNull_of_resolve held with own | ⟨directory, eq, other⟩
  · rw [FileSystem.holdsNull_of_ofText own] at clean
    cases clean
  · unfold rootPath at eq
    cases root : configuration.root with
    | none =>
      rw [root] at eq
      cases eq
    | some text =>
      rw [root] at eq
      have there := free.root text (by simp [root])
      rw [← Option.some.inj eq] at other
      rw [FileSystem.holdsNull_of_ofText other] at there
      cases there

theorem IsNullFree.output_clean (free : configuration.IsNullFree) :
    ¬ configuration.output.HoldsNull :=
  free.resolve free.output

theorem IsNullFree.tableFile_clean (free : configuration.IsNullFree) :
    ¬ configuration.tableFile.HoldsNull := by
  intro held
  exact free.resolve free.table
    ((FileSystem.holdsNull_child_iff _ (by decide) (by decide)).1 held)

end Configuration

/-! ## Section 2: The stages of a step -/

namespace Step

variable {fs : FileSystem} {configuration : Configuration}

/-- A step without a table changes nothing. -/
theorem run_of_load_error {error : TableError}
    (failed : IdTable.load fs configuration.tableFile = .error error) :
    run fs configuration = ((withoutTable error).1, (withoutTable error).2, fs) := by
  unfold run
  rw [failed]

/-- The source map that a step with a table collects. -/
def sourcesOf (fs : FileSystem) (configuration : Configuration) (ids : IdTable) : SourceMap :=
  (Survey.of fs ids configuration.rootPath configuration.resourceDirectories).sources

/-- How a step with a table saves its source map. -/
def savingOf (fs : FileSystem) (configuration : Configuration) (ids : IdTable) :
    Option OutputError × FileSystem :=
  fs.save configuration.output (sourcesOf fs configuration ids).serialize

/-- A step with a table surveys the directories and saves the source map. -/
theorem run_of_load_ok {ids : IdTable}
    (loaded : IdTable.load fs configuration.tableFile = .ok ids) :
    run fs configuration =
      ((withOutput (sourcesOf fs configuration ids) configuration.output
          (savingOf fs configuration ids).1).1,
        (Survey.of fs ids configuration.rootPath configuration.resourceDirectories).events ++
          (withOutput (sourcesOf fs configuration ids) configuration.output
            (savingOf fs configuration ids).1).2,
        (savingOf fs configuration ids).2) := by
  unfold run
  rw [loaded]
  rfl

/-- How a step without a table ends: with status 1, unless the path of the
    table holds U+0000. -/
theorem withoutTable_outcome {error : TableError} (ne : error ≠ .nullCharacter) :
    (withoutTable error).1 = .finished 1 := by
  cases error with
  | nullCharacter => exact absurd rfl ne
  | _ => rfl

/-- A step succeeds only if its source map is saved. -/
theorem withOutput_finished_zero_iff (sources : SourceMap) (directory : Path)
    (error : Option OutputError) :
    (withOutput sources directory error).1 = .finished 0 ↔ error = none := by
  cases error with
  | none => simp [withOutput]
  | some error =>
    cases error with
    | notSaved path reason => simp [withOutput, failure]
    | escaped reason => simp [withOutput]

/-! ## Section 3: Success -/

/-- A directory accepts an output file: it is there, neither the output file
    nor the temporary file is a directory, and the path of the temporary
    file is not too long. -/
structure Accepts (fs : FileSystem) (directory : Path) (place : Location) : Prop
    extends fs.Admits directory place where
  free : fs.at? (FileSystem.temporaryAt place) ≠ some .directory
  open_ : fs.at? (FileSystem.outputAt place) ≠ some .directory

/-- A content is saved exactly where the directory accepts it. -/
theorem save_eq_none_iff {directory : Path} {content : Utf8.Octets} :
    (fs.save directory content).1 = none ↔ ∃ place, Accepts fs directory place := by
  constructor
  · intro done
    have way := FileSystem.saving_save fs directory content
    generalize fs.save directory content = result at done way
    cases way with
    | done place admits free open_ => exact ⟨place, ⟨admits, free, open_⟩⟩
    | _ => cases done
  · rintro ⟨place, accepts⟩
    rw [accepts.toAdmits.save_of_open accepts.free accepts.open_]

/-- A step succeeds exactly if its id table is loaded and the output
    directory accepts the file. -/
theorem finished_zero_iff :
    (run fs configuration).1 = .finished 0 ↔
      (∃ ids, IdTable.load fs configuration.tableFile = .ok ids) ∧
      ∃ place, Accepts fs configuration.output place := by
  cases loaded : IdTable.load fs configuration.tableFile with
  | error error =>
    rw [run_of_load_error loaded]
    cases error <;> simp [withoutTable, failure]
  | ok ids =>
    rw [run_of_load_ok loaded]
    unfold savingOf
    rw [withOutput_finished_zero_iff, save_eq_none_iff]
    simp

/-- A step that succeeds leaves the file system with its source map saved. -/
theorem run_of_accepts {ids : IdTable} {place : Location}
    (loaded : IdTable.load fs configuration.tableFile = .ok ids)
    (accepts : Accepts fs configuration.output place) :
    run fs configuration =
      (.finished 0,
        (Survey.of fs ids configuration.rootPath configuration.resourceDirectories).events ++
          [written (sourcesOf fs configuration ids) configuration.output],
        fs.saved place (sourcesOf fs configuration ids).serialize) := by
  have saved : savingOf fs configuration ids =
      (none, fs.saved place (sourcesOf fs configuration ids).serialize) :=
    accepts.toAdmits.save_of_open accepts.free accepts.open_
  rw [run_of_load_ok loaded, saved]
  rfl

/-! ## Section 4: A small build -/

/-- A tree with an empty id table and a directory for the output. -/
def smallTree : FileSystem :=
  (((⟨∅, []⟩ : FileSystem).put ["gen"] .directory).put ["gen", "R.txt"] (.file [])).put ["out"]
    .directory

/-- A step on such a tree. -/
def smallBuild : Configuration := ⟨"gen", ["res"], "out", none⟩

theorem isNullFree_smallBuild : smallBuild.IsNullFree :=
  ⟨by decide, by decide, by decide, by decide⟩

/-- Where the file of the id table is empty, the table is. -/
theorem load_smallBuild {fs : FileSystem} {location : Location}
    (reached : fs.locate smallBuild.tableFile.text = .ok (.found location (.file []))) :
    IdTable.load fs smallBuild.tableFile = .ok ∅ := by
  have clean : FileSystem.holdsNull smallBuild.tableFile.text = false := by decide
  have empty : fs.read smallBuild.tableFile.text = .ok [] :=
    FileSystem.read_eq_ok_iff.2 ⟨clean, location, reached⟩
  exact IdTable.load_eq_ok_iff.2 ⟨[], empty, IdTable.ofOctets_nil _⟩

theorem load_smallTree : IdTable.load smallTree smallBuild.tableFile = .ok ∅ := by
  have reached : smallTree.locate smallBuild.tableFile.text =
      .ok (.found ["gen", "R.txt"] (.file [])) := by
    rw [FileSystem.locate_text, if_neg (by decide)]
    rfl
  exact load_smallBuild reached

/-- The step has all that it needs. -/
theorem accepts_smallTree : Accepts smallTree smallBuild.output ["out"] where
  clean := isNullFree_smallBuild.output_clean
  size := by decide
  reached := by
    rw [FileSystem.locate_text, if_neg (by decide)]
    rfl
  free := by decide
  open_ := by decide

end Step

end StringOrigins
