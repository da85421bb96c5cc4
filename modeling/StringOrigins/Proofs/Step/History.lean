import StringOrigins.Proofs.SourceMap.Survey
import StringOrigins.Proofs.Step.Atomicity

/-! # How a step depends on earlier steps

    The two files that a step may change have other names than the files
    that it reads, and no walk that succeeds passes through a regular file.
    So a step cannot observe what an earlier step has left in the place of
    the output file or of the temporary file, however its paths are
    spelled: it ends alike from file systems that differ there only, and
    done twice it does nothing more (`run_history_independent`). -/

namespace StringOrigins

namespace FileSystem

/-! ## Section 1: Three ways to be alike -/

/-- The same current directory and the same items everywhere. -/
structure SameItems (fs other : FileSystem) : Prop where
  current : other.current = fs.current
  item : ∀ location, other.at? location = fs.at? location

/-- A difference in the presence or the content of the two files of a
    directory, and in nothing else. -/
structure DifferOnlyIn (directory : Path) (fs other : FileSystem) : Prop
    extends SameDirectories fs other where
  elsewhere : ∀ location, ¬ fs.IsFileOf directory location →
    ¬ other.IsFileOf directory location → other.at? location = fs.at? location

/-- The same files as far as a step reads them: whatever differs is a
    regular file called like an output file or a temporary file. -/
structure SameInputs (fs other : FileSystem) : Prop extends SameDirectories fs other where
  entry : ∀ place name, name ≠ "strings.json" → name ≠ "strings.json.tmp" →
    other.at? (place ++ [name]) = fs.at? (place ++ [name])

variable {fs other : FileSystem} {directory : Path} {place location : Location}
  {content : Utf8.Octets} {result : Option OutputError × FileSystem}

theorem SameItems.refl (fs : FileSystem) : SameItems fs fs := ⟨rfl, fun _ => rfl⟩

/-- The two files of any directory are called alike. -/
theorem exists_place_of_isFileOf (there : fs.IsFileOf directory location) :
    ∃ place, location = outputAt place ∨ location = temporaryAt place := by
  rcases there with ⟨destination, reached, rfl⟩ | ⟨destination, reached, rfl⟩
  · obtain ⟨-, place, -, rfl⟩ := (locate_child_eq_ok_iff isEntryName_output).1 reached
    refine ⟨place, Or.inl ?_⟩
    rw [location_look, String.ofList_toList]
    rfl
  · obtain ⟨-, place, -, rfl⟩ := (locate_child_eq_ok_iff isEntryName_temporary).1 reached
    refine ⟨place, Or.inr ?_⟩
    rw [location_look, String.ofList_toList]
    rfl

/-- An entry of another name is none of the two files of any directory. -/
theorem not_isFileOf_entry {name : String} (notOutput : name ≠ "strings.json")
    (notTemporary : name ≠ "strings.json.tmp") : ¬ fs.IsFileOf directory (place ++ [name]) := by
  intro there
  obtain ⟨home, eq | eq⟩ := exists_place_of_isFileOf there
  · exact notOutput (List.singleton_inj.1 (List.append_inj_right' eq rfl))
  · exact notTemporary (List.singleton_inj.1 (List.append_inj_right' eq rfl))

theorem DifferOnlyIn.sameInputs (differ : DifferOnlyIn directory fs other) :
    SameInputs fs other where
  toSameDirectories := differ.toSameDirectories
  entry := by
    intro place name notOutput notTemporary
    apply differ.elsewhere
    · exact not_isFileOf_entry notOutput notTemporary
    · exact not_isFileOf_entry notOutput notTemporary

/-! ## Section 2: Saving twice -/

/-- Saving makes a difference in the two files of the directory only. -/
theorem Saving.differOnlyIn (way : Saving fs directory content result) :
    DifferOnlyIn directory fs result.2 :=
  ⟨way.sameDirectories, fun _ other _ => way.elsewhere other⟩

/-- Saving that changes nothing goes the same way again. -/
theorem again_of_unchanged {error : Option OutputError}
    (unchanged : fs.save directory content = (error, fs)) :
    (fs.save directory content).1 = error ∧ SameItems fs (fs.save directory content).2 := by
  rw [unchanged]
  exact ⟨rfl, .refl fs⟩

/-- Saving the same content again ends with the same error or none, and
    leaves everything as it is. -/
theorem Saving.again (way : Saving fs directory content result) :
    (result.2.save directory content).1 = result.1 ∧
      SameItems result.2 (result.2.save directory content).2 := by
  have same := way.sameDirectories
  cases way with
  | null held => exact again_of_unchanged (save_of_null held)
  | missing clean lost =>
    apply again_of_unchanged
    rw [save_of_error clean lost, if_pos rfl]
  | blocked cause clean lost other =>
    apply again_of_unchanged
    rw [save_of_error clean lost, if_neg other]
  | obstructed place admits taken => exact again_of_unchanged (admits.save_of_directory taken)
  | occupied place admits free taken =>
    have admitted : (fs.givenUp place content).Admits directory place :=
      admits.of_sameDirectories same
    have gone : (fs.givenUp place content).at? (temporaryAt place) = none := by
      rw [at?_givenUp, if_pos rfl]
    have still : (fs.givenUp place content).at? (outputAt place) = some .directory := by
      rw [at?_givenUp, if_neg (outputAt_ne_temporaryAt place place), taken]
    show ((fs.givenUp place content).save directory content).1 = _ ∧
      SameItems (fs.givenUp place content) ((fs.givenUp place content).save directory content).2
    rw [admitted.save_of_taken (by rw [gone]; exact fun e => nomatch e) still]
    refine ⟨rfl, rfl, fun location => ?_⟩
    -- What is given up again was not there before either.
    rw [at?_givenUp]
    split
    · rename_i eq
      rw [eq, gone]
    · rfl
  | done place admits free open_ =>
    have admitted : (fs.saved place content).Admits directory place :=
      admits.of_sameDirectories same
    have there : (fs.saved place content).at? (outputAt place) = some (.file content) := by
      rw [at?_saved, if_pos rfl]
    have gone : (fs.saved place content).at? (temporaryAt place) = none := by
      rw [at?_saved, if_neg (outputAt_ne_temporaryAt place place).symm, if_pos rfl]
    show ((fs.saved place content).save directory content).1 = _ ∧
      SameItems (fs.saved place content) ((fs.saved place content).save directory content).2
    rw [admitted.save_of_open (by rw [gone]; exact fun e => nomatch e)
      (by rw [there]; exact fun e => nomatch e)]
    refine ⟨rfl, rfl, fun location => ?_⟩
    -- The file that is replaced has the same content already.
    rw [at?_saved]
    split
    · rename_i eq
      rw [eq, there]
    · split
      · rename_i eq
        rw [eq, gone]
      · rfl

/-- What is saved covers all that differs in the two files. -/
theorem DifferOnlyIn.sameItems_saved (differ : DifferOnlyIn directory fs other)
    (admits : fs.Admits directory place) (content : Utf8.Octets) :
    SameItems (fs.saved place content) (other.saved place content) := by
  have admitted := admits.of_sameDirectories differ.toSameDirectories
  refine ⟨differ.current, fun location => ?_⟩
  rw [at?_saved, at?_saved]
  split
  · rfl
  · rename_i notOutput
    split
    · rfl
    · rename_i notTemporary
      apply differ.elsewhere
      · rw [admits.isFileOf_iff]
        exact not_or.2 ⟨notOutput, notTemporary⟩
      · rw [admitted.isFileOf_iff]
        exact not_or.2 ⟨notOutput, notTemporary⟩

end FileSystem

/-! ## Section 3: What a step reads -/

namespace Step

open FileSystem (SameItems DifferOnlyIn SameInputs SameDirectories)

variable {fs other : FileSystem} {configuration : Configuration} {ids : IdTable}
  {place : Location}

theorem isEntryName_tableFile : IsEntryName "R.txt".toList := by decide

/-- A table that is loaded is loaded from any file system with the same inputs. -/
theorem load_of_sameInputs (same : SameInputs fs other)
    (loaded : IdTable.load fs configuration.tableFile = .ok ids) :
    IdTable.load other configuration.tableFile = .ok ids := by
  obtain ⟨octets, done, held⟩ := IdTable.load_eq_ok_iff.1 loaded
  refine IdTable.load_eq_ok_iff.2 ⟨octets, ?_, held⟩
  refine FileSystem.read_child_of_sameDirectories same.toSameDirectories isEntryName_tableFile ?_
    done
  intro directory
  rw [String.ofList_toList]
  exact same.entry directory "R.txt" (by decide) (by decide)

/-- So is the survey of the resource directories. -/
theorem survey_of_sameInputs (same : SameInputs fs other) (ids : IdTable)
    (configuration : Configuration) :
    Survey.of other ids configuration.rootPath configuration.resourceDirectories =
      Survey.of fs ids configuration.rootPath configuration.resourceDirectories := by
  refine Survey.of_congr same.toSameDirectories ?_ ids _ _
  intro place
  exact same.entry place "strings.xml" (by decide) (by decide)

/-- A directory goes on to accept files, whatever regular files come and go. -/
theorem Accepts.of_sameDirectories {directory : Path} (accepts : Accepts fs directory place)
    (same : SameDirectories fs other) : Accepts other directory place where
  toAdmits := accepts.toAdmits.of_sameDirectories same
  free := fun taken => accepts.free ((same.directory_iff _).1 taken)
  open_ := fun taken => accepts.open_ ((same.directory_iff _).1 taken)

/-! ## Section 4: Two steps -/

/-- Steps from file systems with the same inputs both succeed, if one does. -/
theorem finished_zero_of_sameInputs (same : SameInputs fs other)
    (done : (run fs configuration).1 = .finished 0) :
    (run other configuration).1 = .finished 0 := by
  obtain ⟨⟨ids, loaded⟩, place, accepts⟩ := finished_zero_iff.1 done
  exact finished_zero_iff.2 ⟨⟨ids, load_of_sameInputs same loaded⟩, place,
    accepts.of_sameDirectories same.toSameDirectories⟩

/-- Steps that succeed from file systems that differ in their two files only
    leave the same file system behind. -/
theorem sameItems_of_differOnlyIn (differ : DifferOnlyIn configuration.output fs other)
    (done : (run fs configuration).1 = .finished 0) :
    SameItems (run fs configuration).2.2 (run other configuration).2.2 := by
  have same := differ.sameInputs
  obtain ⟨⟨ids, loaded⟩, place, accepts⟩ := finished_zero_iff.1 done
  -- Both steps save the same content, over whatever there was.
  have sources : sourcesOf other configuration ids = sourcesOf fs configuration ids := by
    unfold sourcesOf
    rw [survey_of_sameInputs same]
  rw [run_of_accepts loaded accepts, run_of_accepts (load_of_sameInputs same loaded)
    (accepts.of_sameDirectories same.toSameDirectories), sources]
  exact differ.sameItems_saved accepts.toAdmits _

/-- A step that is done again ends in the same way, reports the same and
    changes nothing more. -/
theorem run_again (fs : FileSystem) (configuration : Configuration) :
    (run (run fs configuration).2.2 configuration).1 = (run fs configuration).1 ∧
      (run (run fs configuration).2.2 configuration).2.1 = (run fs configuration).2.1 ∧
      SameItems (run fs configuration).2.2 (run (run fs configuration).2.2 configuration).2.2 := by
  cases loaded : IdTable.load fs configuration.tableFile with
  | error error =>
    -- The table may be lost for another reason from another tree, but the
    -- tree is the same one still.
    have stays : (run fs configuration).2.2 = fs := by rw [run_of_load_error loaded]
    rw [stays, stays]
    exact ⟨rfl, rfl, .refl fs⟩
  | ok ids =>
    have way := FileSystem.saving_save fs configuration.output
      (sourcesOf fs configuration ids).serialize
    have same : SameInputs fs (savingOf fs configuration ids).2 := way.differOnlyIn.sameInputs
    have survey := survey_of_sameInputs same ids configuration
    have sources : sourcesOf (savingOf fs configuration ids).2 configuration ids =
        sourcesOf fs configuration ids := by
      unfold sourcesOf
      rw [survey]
    -- The second step saves what the first one has saved, in the same way.
    obtain ⟨error, items⟩ := way.again
    have twice : (savingOf (savingOf fs configuration ids).2 configuration ids).1 =
          (savingOf fs configuration ids).1 ∧
        SameItems (savingOf fs configuration ids).2
          (savingOf (savingOf fs configuration ids).2 configuration ids).2 := by
      show ((savingOf fs configuration ids).2.save configuration.output
          (sourcesOf (savingOf fs configuration ids).2 configuration ids).serialize).1 = _ ∧
        SameItems _ ((savingOf fs configuration ids).2.save configuration.output
          (sourcesOf (savingOf fs configuration ids).2 configuration ids).serialize).2
      rw [sources]
      exact ⟨error, items⟩
    have after : (run fs configuration).2.2 = (savingOf fs configuration ids).2 := by
      rw [run_of_load_ok loaded]
    rw [after, run_of_load_ok (load_of_sameInputs same loaded), run_of_load_ok loaded, sources,
      survey, twice.1]
    exact ⟨rfl, rfl, twice.2⟩

/-- A step depends on no earlier one.  From two file systems that differ in
    the presence or the content of its two files only, it succeeds or does
    not succeed in both, and succeeding leaves the same file system behind.
    From every file system, a second step right after the first one ends
    in the same way, reports the same and changes nothing more. -/
theorem run_history_independent (fs other : FileSystem) (configuration : Configuration) :
    (DifferOnlyIn configuration.output fs other →
      ((run fs configuration).1 = .finished 0 ↔ (run other configuration).1 = .finished 0) ∧
      ((run fs configuration).1 = .finished 0 →
        SameItems (run fs configuration).2.2 (run other configuration).2.2)) ∧
    (run (run fs configuration).2.2 configuration).1 = (run fs configuration).1 ∧
    (run (run fs configuration).2.2 configuration).2.1 = (run fs configuration).2.1 ∧
    SameItems (run fs configuration).2.2 (run (run fs configuration).2.2 configuration).2.2 := by
  refine ⟨?_, run_again fs configuration⟩
  intro differ
  have same := differ.sameInputs
  have back : SameInputs other fs :=
    ⟨same.toSameDirectories.symm, fun place name notOutput notTemporary =>
      (same.entry place name notOutput notTemporary).symm⟩
  refine ⟨⟨?_, ?_⟩, ?_⟩
  · exact finished_zero_of_sameInputs same
  · exact finished_zero_of_sameInputs back
  · exact sameItems_of_differOnlyIn differ

/-- A tree with an old output file, and a temporary file of a step that was
    cut short. -/
def interruptedTree : FileSystem :=
  (smallTree.put ["out", "strings.json"] (.file [123])).put ["out", "strings.json.tmp"] (.file [])

theorem differOnlyIn_interruptedTree :
    DifferOnlyIn smallBuild.output smallTree interruptedTree where
  toSameDirectories := by
    have first : SameDirectories smallTree (smallTree.put ["out", "strings.json"] (.file [123])) :=
      .put_file _ _ (by decide)
    exact first.trans (.put_file _ _ (by decide))
  elsewhere := by
    intro location notThere _
    rw [accepts_smallTree.toAdmits.isFileOf_iff, not_or] at notThere
    have notOutput : location ≠ ["out", "strings.json"] := notThere.1
    have notTemporary : location ≠ ["out", "strings.json.tmp"] := notThere.2
    unfold interruptedTree
    rw [FileSystem.at?_put_ne _ _ notTemporary, FileSystem.at?_put_ne _ _ notOutput]

/-- The step succeeds from both trees and leaves the same tree behind. -/
theorem sameItems_interruptedTree :
    (run interruptedTree smallBuild).1 = .finished 0 ∧
      SameItems (run smallTree smallBuild).2.2 (run interruptedTree smallBuild).2.2 := by
  have done : (run smallTree smallBuild).1 = .finished 0 :=
    finished_zero_iff.2 ⟨⟨∅, load_smallTree⟩, ["out"], accepts_smallTree⟩
  obtain ⟨success, items⟩ := (run_history_independent smallTree interruptedTree smallBuild).1
    differOnlyIn_interruptedTree
  exact ⟨success.1 done, items done⟩

end Step

end StringOrigins
