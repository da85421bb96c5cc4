import StringOrigins.Proofs.Step.Outcome

/-! # What a step leaves behind

    A step changes nothing but the output file and the temporary file, and
    the output file only if it succeeds.  The temporary file never is left
    behind.  `IsAtomic` states this for any file system that a step may
    leave; each way of saving keeps it, and so does the step
    (`run_isAtomic`). -/

namespace StringOrigins

namespace FileSystem

/-! ## Section 1: Where a path leads -/

/-- Where an item stands or could be created. -/
def Destination.location : Destination → Location
  | .found location _ => location
  | .vacant location => location

/-- A path leads to a location, whether something stands there or not. -/
def LeadsTo (fs : FileSystem) (path : String) (location : Location) : Prop :=
  ∃ destination, fs.locate path = .ok destination ∧ destination.location = location

/-- Where the two files of a directory stand, or could stand. -/
def IsFileOf (fs : FileSystem) (directory : Path) (location : Location) : Prop :=
  fs.LeadsTo directory.outputFile.text location ∨
    fs.LeadsTo directory.temporaryFile.text location

variable {fs : FileSystem} {directory : Path} {place location : Location}
  {content : Utf8.Octets} {result : Option OutputError × FileSystem}

theorem location_look (fs : FileSystem) (location : Location) :
    (fs.look location).location = location := by
  unfold look
  cases fs.at? location <;> rfl

/-- A path leads to one location at most. -/
theorem leadsTo_iff {path : String} {here : Location}
    (reached : fs.locate path = .ok (fs.look here)) :
    fs.LeadsTo path location ↔ location = here := by
  unfold LeadsTo
  rw [reached]
  constructor
  · rintro ⟨destination, eq, rfl⟩
    rw [← Except.ok.inj eq, location_look]
  · rintro rfl
    exact ⟨_, rfl, location_look fs _⟩

/-- The two files of an admitted directory stand in it. -/
theorem Admits.isFileOf_iff (admits : fs.Admits directory place) :
    fs.IsFileOf directory location ↔ location = outputAt place ∨ location = temporaryAt place := by
  unfold IsFileOf
  rw [leadsTo_iff admits.locate_output, leadsTo_iff admits.locate_temporary]

/-! ## Section 2: What saving leaves behind -/

/-- Saving moves no directory, creates none and removes none. -/
theorem Saving.sameDirectories (way : Saving fs directory content result) :
    SameDirectories fs result.2 := by
  cases way with
  | null held => exact .refl fs
  | missing clean lost => exact .refl fs
  | blocked cause clean lost other => exact .refl fs
  | obstructed place admits taken => exact .refl fs
  | occupied place admits free taken =>
    -- What is taken away again is a regular file.
    have gone : (fs.put (temporaryAt place) (.file content)).at? (temporaryAt place) ≠
        some .directory := by
      rw [(admits.of_written content free).2.1]
      exact fun e => nomatch e
    exact (SameDirectories.put_file fs content free).trans (.erase _ gone)
  | done place admits free open_ =>
    refine ⟨rfl, fun location => ?_⟩
    show (fs.saved place content).at? location = some .directory ↔ _
    rw [at?_saved]
    split
    · rename_i eq
      simp [eq, open_]
    · split
      · rename_i eq
        simp [eq, free]
      · exact Iff.rfl

/-- Saving changes nothing but the two files. -/
theorem Saving.elsewhere (way : Saving fs directory content result)
    (other : ¬ fs.IsFileOf directory location) : result.2.at? location = fs.at? location := by
  cases way with
  | null held => rfl
  | missing clean lost => rfl
  | blocked cause clean lost unexpected => rfl
  | obstructed place admits taken => rfl
  | occupied place admits free taken =>
    rw [admits.isFileOf_iff, not_or] at other
    show (fs.givenUp place content).at? location = _
    rw [at?_givenUp, if_neg other.2]
  | done place admits free open_ =>
    rw [admits.isFileOf_iff, not_or] at other
    show (fs.saved place content).at? location = _
    rw [at?_saved, if_neg other.1, if_neg other.2]

/-- Saving that fails leaves the output file as it is. -/
theorem Saving.kept (way : Saving fs directory content result) (failed : result.1 ≠ none) :
    result.2.locate directory.outputFile.text = fs.locate directory.outputFile.text ∧
      ∀ location, fs.LeadsTo directory.outputFile.text location →
        result.2.at? location = fs.at? location := by
  have same := way.sameDirectories
  cases way with
  | null held => exact ⟨rfl, fun _ _ => rfl⟩
  | missing clean lost => exact ⟨rfl, fun _ _ => rfl⟩
  | blocked cause clean lost other => exact ⟨rfl, fun _ _ => rfl⟩
  | obstructed place admits taken => exact ⟨rfl, fun _ _ => rfl⟩
  | occupied place admits free taken =>
    have kept : (fs.givenUp place content).at? (outputAt place) = fs.at? (outputAt place) := by
      rw [at?_givenUp, if_neg (outputAt_ne_temporaryAt place place)]
    constructor
    · show (fs.givenUp place content).locate directory.outputFile.text = _
      rw [(admits.of_sameDirectories same).locate_output, admits.locate_output]
      unfold look
      rw [kept]
    · intro location leads
      rw [(leadsTo_iff admits.locate_output).1 leads]
      exact kept
  | done place admits free open_ => exact absurd rfl failed

/-- Saving that succeeds leaves the content in the output file, and nothing
    in the place of the temporary file. -/
theorem Saving.published (way : Saving fs directory content result) (done : result.1 = none) :
    result.2.read directory.outputFile.text = .ok content ∧
      result.2.exists? directory.temporaryFile.text = .ok false := by
  have same := way.sameDirectories
  cases way with
  | done place admits free open_ =>
    have admitted := admits.of_sameDirectories same
    constructor
    · refine read_eq_ok_iff.2 ⟨holdsNull_outputFile admits.clean, outputAt place, ?_⟩
      rw [admitted.locate_output]
      unfold look
      rw [at?_saved, if_pos rfl]
    · show (fs.saved place content).exists? directory.temporaryFile.text = _
      unfold exists?
      rw [admitted.locate_temporary, admits.temporary_clean]
      unfold look
      rw [at?_saved, if_neg (outputAt_ne_temporaryAt place place).symm, if_pos rfl]
      rfl
  | _ => cases done

/-- However saving ends, there is no temporary file afterwards. -/
theorem Saving.withdrawn (way : Saving fs directory content result) (old : Utf8.Octets) :
    result.2.read directory.temporaryFile.text ≠ .ok old := by
  have same := way.sameDirectories
  -- What is read would stand where the path leads afterwards.
  intro left
  obtain ⟨clean, location, reached⟩ := read_eq_ok_iff.1 left
  cases way with
  | null held =>
    rw [holdsNull_temporaryFile_iff.2 held] at clean
    cases clean
  | missing _ lost =>
    rw [lost] at reached
    cases reached
  | blocked cause _ lost other =>
    rw [lost] at reached
    cases reached
  | obstructed place admits taken =>
    rw [admits.locate_temporary] at reached
    unfold look at reached
    rw [taken] at reached
    cases reached
  | occupied place admits free taken =>
    rw [(admits.of_sameDirectories same).locate_temporary] at reached
    unfold look at reached
    rw [at?_givenUp, if_pos rfl] at reached
    cases reached
  | done place admits free open_ =>
    rw [(admits.of_sameDirectories same).locate_temporary] at reached
    unfold look at reached
    rw [at?_saved, if_neg (outputAt_ne_temporaryAt place place).symm, if_pos rfl] at reached
    cases reached

end FileSystem

/-! ## Section 3: What a step leaves behind -/

namespace Step

/-- A step that ends with an outcome and leaves a file system behind is
    atomic. -/
structure IsAtomic (fs : FileSystem) (configuration : Configuration) (outcome : Outcome)
    (after : FileSystem) : Prop where
  /-- The current directory stays. -/
  current : after.current = fs.current
  /-- Every file and directory but the two files is as before. -/
  elsewhere : ∀ location, ¬ fs.IsFileOf configuration.output location →
    after.at? location = fs.at? location
  /-- Without success the output file is as before, too. -/
  kept : outcome ≠ .finished 0 →
    after.locate configuration.output.outputFile.text =
      fs.locate configuration.output.outputFile.text ∧
    ∀ location, fs.LeadsTo configuration.output.outputFile.text location →
      after.at? location = fs.at? location
  /-- With success it holds the source map, and there is no temporary file
      nor anything else of that name. -/
  published : outcome = .finished 0 →
    ∃ ids, IdTable.load fs configuration.tableFile = .ok ids ∧
      after.read configuration.output.outputFile.text =
        .ok (sourcesOf fs configuration ids).serialize ∧
      after.exists? configuration.output.temporaryFile.text = .ok false
  /-- With a table there is no temporary file afterwards, in any outcome. -/
  withdrawn : ∀ ids, IdTable.load fs configuration.tableFile = .ok ids →
    ∀ content, after.read configuration.output.temporaryFile.text ≠ .ok content
  /-- Without a table nothing is changed. -/
  untouched : ∀ error, IdTable.load fs configuration.tableFile = .error error → after = fs

variable {fs : FileSystem} {configuration : Configuration}

/-- A step without a table is atomic, as it changes nothing. -/
theorem isAtomic_of_load_error {error : TableError} {outcome : Outcome}
    (failed : IdTable.load fs configuration.tableFile = .error error)
    (unsuccessful : outcome ≠ .finished 0) : IsAtomic fs configuration outcome fs where
  current := rfl
  elsewhere := fun _ _ => rfl
  kept := fun _ => ⟨rfl, fun _ _ => rfl⟩
  published := fun done => absurd done unsuccessful
  withdrawn := by
    intro ids loaded
    rw [failed] at loaded
    cases loaded
  untouched := fun _ _ => rfl

/-- A step with a table is atomic if it succeeds exactly when its source map
    is saved. -/
theorem isAtomic_of_load_ok {ids : IdTable} {outcome : Outcome}
    (loaded : IdTable.load fs configuration.tableFile = .ok ids)
    (success : outcome = .finished 0 ↔ (savingOf fs configuration ids).1 = none) :
    IsAtomic fs configuration outcome (savingOf fs configuration ids).2 := by
  have way := FileSystem.saving_save fs configuration.output
    (sourcesOf fs configuration ids).serialize
  refine ⟨way.sameDirectories.current, fun _ => way.elsewhere, ?_, ?_, ?_, ?_⟩
  · intro unsuccessful
    exact way.kept (fun done => unsuccessful (success.2 done))
  · intro done
    exact ⟨ids, loaded, way.published (success.1 done)⟩
  · intro _ _ content
    exact way.withdrawn content
  · intro error failed
    rw [loaded] at failed
    cases failed

/-- Every step is atomic, from every file system and with all arguments. -/
theorem run_isAtomic (fs : FileSystem) (configuration : Configuration) :
    IsAtomic fs configuration (run fs configuration).1 (run fs configuration).2.2 := by
  cases loaded : IdTable.load fs configuration.tableFile with
  | error error =>
    have unsuccessful : (run fs configuration).1 ≠ .finished 0 := by
      intro done
      obtain ⟨⟨ids, eq⟩, -⟩ := finished_zero_iff.1 done
      rw [loaded] at eq
      cases eq
    rw [run_of_load_error loaded] at unsuccessful ⊢
    exact isAtomic_of_load_error loaded unsuccessful
  | ok ids =>
    rw [run_of_load_ok loaded]
    exact isAtomic_of_load_ok loaded (withOutput_finished_zero_iff _ _ _)

end Step

end StringOrigins
