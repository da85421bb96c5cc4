import StringOrigins.Proofs.Step.Outcome

/-! # Which failures are reported

    A failure to save is reported with one exception: where the temporary
    file can neither be written to nor removed, the error of removing it
    escapes, from saving and from the step.  This is the case exactly if
    the path of the temporary file meets a regular file or a name that is
    too long on its way, or leads to a directory
    (`reports_iff_not_sticks`). -/

namespace StringOrigins

/-! ## Section 1: Sticking paths -/

/-- A file at the path can neither be written to nor removed, and this not
    only because it is missing. -/
def FileSystem.Sticks (fs : FileSystem) (path : String) : Prop :=
  (∃ cause, cause ≠ .notFound ∧ fs.locate path = .error cause) ∨
    ∃ location, fs.locate path = .ok (.found location .directory)

/-- The failure of saving is reported: either there is none, or it names the
    output file. -/
def IsReported (directory : Path) (error : Option OutputError) : Prop :=
  error = none ∨ ∃ reason, error = some (.notSaved directory.outputFile reason)

/-- The failure of removing a file escapes, for another reason than that the
    file is missing. -/
def Escapes (path : String) (error : Option OutputError) : Prop :=
  ∃ cause, cause ≠ .notFound ∧ error = some (.escaped (.refused cause path))

namespace FileSystem

variable {fs : FileSystem} {directory : Path} {place : Location}

/-- An admitted directory sticks if the temporary file is a directory. -/
theorem Admits.sticks_iff (admits : fs.Admits directory place) :
    fs.Sticks directory.temporaryFile.text ↔
      fs.at? (temporaryAt place) = some .directory := by
  unfold Sticks
  rw [admits.locate_temporary]
  unfold look
  cases item : fs.at? (temporaryAt place) with
  | none => simp
  | some item' => cases item' <;> simp

/-- Saving reports its failure, unless the path of the temporary file sticks
    and the failure escapes. -/
theorem save_reports_or_escapes (fs : FileSystem) (content : Utf8.Octets)
    (clean : ¬ directory.HoldsNull) :
    (fs.Sticks directory.temporaryFile.text ∧
      Escapes directory.temporaryFile.text (fs.save directory content).1) ∨
    (¬ fs.Sticks directory.temporaryFile.text ∧
      IsReported directory (fs.save directory content).1) := by
  have way := saving_save fs directory content
  generalize fs.save directory content = result at way
  -- Each way of saving is on one side: sticking and escaping, or neither.
  cases way with
  | null held => exact absurd held clean
  | missing _ lost =>
    refine Or.inr ⟨?_, Or.inr ⟨_, rfl⟩⟩
    rintro (⟨cause, other, eq⟩ | ⟨location, eq⟩)
    · rw [lost] at eq
      exact other (Except.error.inj eq).symm
    · rw [lost] at eq
      cases eq
  | blocked cause _ lost other =>
    exact Or.inl ⟨Or.inl ⟨cause, other, lost⟩, cause, other, rfl⟩
  | obstructed place admits taken =>
    exact Or.inl ⟨admits.sticks_iff.2 taken, .isADirectory, by decide, rfl⟩
  | occupied place admits free taken =>
    exact Or.inr ⟨fun sticks => free (admits.sticks_iff.1 sticks), Or.inr ⟨_, rfl⟩⟩
  | done place admits free open_ =>
    exact Or.inr ⟨fun sticks => free (admits.sticks_iff.1 sticks), Or.inl rfl⟩

/-- What is reported does not escape. -/
theorem not_isReported_of_escapes {path : String} {error : Option OutputError}
    (escapes : Escapes path error) : ¬ IsReported directory error := by
  obtain ⟨cause, -, rfl⟩ := escapes
  rintro (eq | ⟨reason, eq⟩) <;> cases eq

end FileSystem

/-! ## Section 2: Steps -/

namespace Step

variable {fs : FileSystem} {configuration : Configuration}

/-- A step without a table ends with status 1. -/
theorem finished_one_of_load_error (free : configuration.IsNullFree) {error : TableError}
    (failed : IdTable.load fs configuration.tableFile = .error error) :
    (run fs configuration).1 = .finished 1 := by
  rw [run_of_load_error failed]
  refine withoutTable_outcome (fun null => ?_)
  rw [null] at failed
  exact free.tableFile_clean (IdTable.holdsNull_of_load failed)

/-- A step whose saving is reported ends with a status. -/
theorem finished_of_isReported {sources : SourceMap} {directory : Path}
    {error : Option OutputError} (reported : IsReported directory error) :
    (withOutput sources directory error).1 = .finished 0 ∨
      (withOutput sources directory error).1 = .finished 1 := by
  rcases reported with rfl | ⟨reason, rfl⟩
  · exact Or.inl rfl
  · exact Or.inr rfl

/-- An error that escapes from saving escapes from the step. -/
theorem escaped_of_escapes {sources : SourceMap} {directory : Path} {path : String}
    {error : Option OutputError} (escapes : Escapes path error) :
    ∃ cause, cause ≠ .notFound ∧
      (withOutput sources directory error).1 = .escaped (.refused cause path) := by
  obtain ⟨cause, other, rfl⟩ := escapes
  exact ⟨cause, other, rfl⟩

/-- A step ends with a status, unless it has a table and the path of its
    temporary file sticks. -/
theorem run_finishes_or_escapes (fs : FileSystem) (free : configuration.IsNullFree) :
    (((∃ ids, IdTable.load fs configuration.tableFile = .ok ids) ∧
        fs.Sticks configuration.output.temporaryFile.text) ∧
      ∃ cause, cause ≠ .notFound ∧ (run fs configuration).1 =
        .escaped (.refused cause configuration.output.temporaryFile.text)) ∨
    (¬ ((∃ ids, IdTable.load fs configuration.tableFile = .ok ids) ∧
        fs.Sticks configuration.output.temporaryFile.text) ∧
      ((run fs configuration).1 = .finished 0 ∨ (run fs configuration).1 = .finished 1)) := by
  cases loaded : IdTable.load fs configuration.tableFile with
  | error error =>
    refine Or.inr ⟨?_, Or.inr (finished_one_of_load_error free loaded)⟩
    rintro ⟨⟨ids, eq⟩, -⟩
    cases eq
  | ok ids =>
    rw [run_of_load_ok loaded]
    rcases FileSystem.save_reports_or_escapes fs
      (sourcesOf fs configuration ids).serialize free.output_clean with
      ⟨sticks, escapes⟩ | ⟨loose, reported⟩
    · exact Or.inl ⟨⟨⟨ids, rfl⟩, sticks⟩, escaped_of_escapes escapes⟩
    · exact Or.inr ⟨fun both => loose both.2, finished_of_isReported reported⟩

/-- Saving a source map ends with a map saved or a failure reported exactly
    if the path of the temporary file does not stick, and where it sticks
    the error of removing that file escapes.  So a step ends with status 0
    or 1 exactly if it has no table or that path does not stick, and in any
    other case the same error escapes from it. -/
theorem reports_iff_not_sticks (fs : FileSystem) (directory : Path) (sources : SourceMap)
    (configuration : Configuration) (clean : FileSystem.holdsNull directory.text = false)
    (free : configuration.IsNullFree) :
    ((IsReported directory (fs.save directory sources.serialize).1 ↔
        ¬ fs.Sticks directory.temporaryFile.text) ∧
      (fs.Sticks directory.temporaryFile.text →
        Escapes directory.temporaryFile.text (fs.save directory sources.serialize).1)) ∧
    ((((run fs configuration).1 = .finished 0 ∨ (run fs configuration).1 = .finished 1) ↔
        ¬ ((∃ ids, IdTable.load fs configuration.tableFile = .ok ids) ∧
          fs.Sticks configuration.output.temporaryFile.text)) ∧
      ((∃ ids, IdTable.load fs configuration.tableFile = .ok ids) →
        fs.Sticks configuration.output.temporaryFile.text →
        ∃ cause, cause ≠ .notFound ∧ (run fs configuration).1 =
          .escaped (.refused cause configuration.output.temporaryFile.text))) := by
  have cleanPath : ¬ directory.HoldsNull := by
    intro held
    rw [(FileSystem.holdsNull_text_iff directory).2 held] at clean
    cases clean
  constructor
  · rcases FileSystem.save_reports_or_escapes fs sources.serialize cleanPath with
      ⟨sticks, escapes⟩ | ⟨loose, reported⟩
    · exact ⟨⟨fun reported => absurd reported (FileSystem.not_isReported_of_escapes escapes),
        fun loose => absurd sticks loose⟩, fun _ => escapes⟩
    · exact ⟨⟨fun _ => loose, fun _ => reported⟩, fun sticks => absurd sticks loose⟩
  · rcases run_finishes_or_escapes fs free with ⟨stuck, escapes⟩ | ⟨loose, finished⟩
    · refine ⟨⟨fun finished => ?_, fun loose => absurd stuck loose⟩, fun _ _ => escapes⟩
      obtain ⟨cause, -, eq⟩ := escapes
      rw [eq] at finished
      rcases finished with finished | finished <;> cases finished
    · exact ⟨⟨fun _ => loose, fun _ => finished⟩,
        fun table sticks => absurd ⟨table, sticks⟩ loose⟩

/-- A tree with a regular file in the place of the output directory. -/
def fileForDirectory : FileSystem := smallTree.put ["out"] (.file [])

/-- The regular file stops the walk to the temporary file. -/
theorem sticks_fileForDirectory :
    fileForDirectory.Sticks smallBuild.output.temporaryFile.text := by
  refine Or.inl ⟨.notADirectory, by decide, ?_⟩
  rw [FileSystem.locate_text, if_neg (by decide)]
  rfl

/-- There saving does not report its failure, nor does the step: it escapes. -/
theorem escapes_fileForDirectory :
    ¬ IsReported smallBuild.output
        (fileForDirectory.save smallBuild.output (∅ : SourceMap).serialize).1 ∧
      ∃ cause, cause ≠ .notFound ∧ (run fileForDirectory smallBuild).1 =
        .escaped (.refused cause smallBuild.output.temporaryFile.text) := by
  have clean : FileSystem.holdsNull smallBuild.output.text = false := by decide
  have table : fileForDirectory.locate smallBuild.tableFile.text =
      .ok (.found ["gen", "R.txt"] (.file [])) := by
    rw [FileSystem.locate_text, if_neg (by decide)]
    rfl
  obtain ⟨⟨reported, -⟩, -, escapes⟩ := reports_iff_not_sticks fileForDirectory smallBuild.output
    ∅ smallBuild clean isNullFree_smallBuild
  constructor
  · intro done
    exact reported.1 done sticks_fileForDirectory
  · exact escapes ⟨∅, load_smallBuild table⟩ sticks_fileForDirectory

end Step

end StringOrigins
