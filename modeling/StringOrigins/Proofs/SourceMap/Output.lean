import StringOrigins.Proofs.FileSystem.Operations
import StringOrigins.SourceMap.Output

/-! # Saving in a directory

    There are six ways in which saving a content can go, told apart by what
    the path of the temporary file leads to and by what stands in the place
    of the output file.  `Saving` lists them with the error and the file
    system that each ends with, and `saving_save` says that there are no
    others. -/

namespace StringOrigins.FileSystem

open Utf8 (Octets)

/-! ## Section 1: The two files of a directory -/

/-- Where the output file of a directory stands. -/
def outputAt (place : Location) : Location := place ++ ["strings.json"]

/-- Where the temporary file of a directory stands. -/
def temporaryAt (place : Location) : Location := place ++ ["strings.json.tmp"]

theorem outputAt_ne_nil (place : Location) : outputAt place ≠ [] := by simp [outputAt]

theorem temporaryAt_ne_nil (place : Location) : temporaryAt place ≠ [] := by simp [temporaryAt]

/-- The two files never are the same. -/
theorem outputAt_ne_temporaryAt (place other : Location) : outputAt place ≠ temporaryAt other := by
  intro eq
  have last : some "strings.json" = some "strings.json.tmp" := by
    simpa [outputAt, temporaryAt] using congrArg List.getLast? eq
  exact absurd last (by decide)

/-- The path of a directory leads to a directory, and the path of the
    temporary file in it can be asked for. -/
structure Admits (fs : FileSystem) (directory : Path) (place : Location) : Prop where
  clean : ¬ directory.HoldsNull
  size : directory.temporaryFile.text.utf8ByteSize ≤ maxPathSize
  reached : fs.locate directory.text = .ok (.found place .directory)

variable {fs other : FileSystem} {directory : Path} {place : Location} {content : Octets}

theorem isEntryName_output : IsEntryName "strings.json".toList := by decide

theorem isEntryName_temporary : IsEntryName "strings.json.tmp".toList := by decide

/-- The path of the output file is shorter than that of the temporary file. -/
theorem size_outputFile_le (directory : Path) :
    directory.outputFile.text.utf8ByteSize ≤ directory.temporaryFile.text.utf8ByteSize := by
  have shorter : (String.ofList "strings.json".toList).utf8ByteSize ≤
      (String.ofList "strings.json.tmp".toList).utf8ByteSize := by decide
  unfold Path.outputFile Path.temporaryFile
  rw [size_text_child, size_text_child]
  omega

theorem holdsNull_outputFile (clean : ¬ directory.HoldsNull) :
    holdsNull directory.outputFile.text = false := by
  refine Bool.eq_false_iff.2 (fun null => clean ?_)
  have child : directory.outputFile.HoldsNull := (holdsNull_text_iff _).1 null
  exact (holdsNull_child_iff directory (by decide) (by decide)).1 child

theorem holdsNull_temporaryFile_iff :
    holdsNull directory.temporaryFile.text = true ↔ directory.HoldsNull := by
  rw [holdsNull_text_iff]
  exact holdsNull_child_iff directory (by decide) (by decide)

namespace Admits

theorem locate_output (h : fs.Admits directory place) :
    fs.locate directory.outputFile.text = .ok (fs.look (outputAt place)) := by
  refine (locate_child_eq_ok_iff isEntryName_output).2 ⟨?_, place, h.reached, ?_⟩
  · exact Nat.le_trans (size_outputFile_le directory) h.size
  · rw [String.ofList_toList]
    rfl

theorem locate_temporary (h : fs.Admits directory place) :
    fs.locate directory.temporaryFile.text = .ok (fs.look (temporaryAt place)) := by
  refine (locate_child_eq_ok_iff isEntryName_temporary).2 ⟨h.size, place, h.reached, ?_⟩
  rw [String.ofList_toList]
  rfl

theorem temporary_clean (h : fs.Admits directory place) :
    holdsNull directory.temporaryFile.text = false :=
  Bool.eq_false_iff.2 (fun null => h.clean (holdsNull_temporaryFile_iff.1 null))

/-- Where a directory stands does not depend on regular files. -/
theorem of_sameDirectories (h : fs.Admits directory place) (same : SameDirectories fs other) :
    other.Admits directory place := by
  refine ⟨h.clean, h.size, ?_⟩
  rw [← h.reached]
  exact locate_of_sameDirectories same (by rw [h.reached]; trivial)

end Admits

/-- A directory is admitted if the path of its temporary file leads anywhere. -/
theorem admits_of_locate (clean : ¬ directory.HoldsNull) {destination : Destination}
    (reached : fs.locate directory.temporaryFile.text = .ok destination) :
    ∃ place, fs.Admits directory place ∧ destination = fs.look (temporaryAt place) := by
  obtain ⟨size, place, walked, eq⟩ := (locate_child_eq_ok_iff isEntryName_temporary).1 reached
  refine ⟨place, ⟨clean, size, walked⟩, ?_⟩
  rw [eq, String.ofList_toList]
  rfl

/-! ## Section 2: The operations on a file that has been located -/

/-- A file that has been taken away again leaves nothing. -/
theorem at?_erase_put (fs : FileSystem) {location : Location} (item : Item)
    (ne : location ≠ []) (other : Location) :
    ((fs.put location item).erase location).at? other =
      if other = location then none else fs.at? other := by
  split
  · rename_i eq
    rw [eq, at?_erase_self _ ne]
  · rename_i differs
    rw [at?_erase_ne _ differs, at?_put_ne _ _ differs]

/-- Writing puts the content where there is no directory. -/
theorem write_of_look {path : String} {location : Location} (content : Octets)
    (clean : holdsNull path = false)
    (reached : fs.locate path = .ok (fs.look location))
    (free : fs.at? location ≠ some .directory) :
    fs.write path content = .ok (fs.put location (.file content)) := by
  unfold write
  rw [clean, reached]
  unfold look
  cases item : fs.at? location with
  | none => rfl
  | some item' =>
    cases item' with
    | directory => exact absurd item free
    | file old => rfl

/-- Writing on a directory is refused. -/
theorem write_of_directory {path : String} {location : Location}
    (clean : holdsNull path = false) (reached : fs.locate path = .ok (fs.look location))
    (taken : fs.at? location = some .directory) :
    fs.write path content = .error (.refused .isADirectory path) := by
  unfold write
  rw [clean, reached]
  unfold look
  rw [taken]
  rfl

/-- Removing a directory is refused. -/
theorem discard_of_directory {path : String} {location : Location}
    (clean : holdsNull path = false) (reached : fs.locate path = .ok (fs.look location))
    (taken : fs.at? location = some .directory) :
    fs.discard path = .error (.refused .isADirectory path) := by
  unfold discard remove
  rw [clean, reached]
  unfold look
  rw [taken]
  rfl

/-- Removing a file takes it away. -/
theorem discard_of_file {path : String} {location : Location} (clean : holdsNull path = false)
    (reached : fs.locate path = .ok (fs.look location))
    (there : fs.at? location = some (.file content)) :
    fs.discard path = .ok (fs.erase location) := by
  unfold discard remove
  rw [clean, reached]
  unfold look
  rw [there]
  rfl

/-- A path that cannot be followed is written to and removed with the same error. -/
theorem write_of_error {path : String} {cause : Cause} (clean : holdsNull path = false)
    (lost : fs.locate path = .error cause) :
    fs.write path content = .error (.refused cause path) := by
  unfold write
  rw [clean, lost]
  rfl

theorem discard_of_error {path : String} {cause : Cause} (clean : holdsNull path = false)
    (lost : fs.locate path = .error cause) :
    fs.discard path = if cause = .notFound then .ok fs else .error (.refused cause path) := by
  unfold discard remove
  rw [clean, lost]
  cases cause <;> rfl

/-- A file is moved to where there is no directory. -/
theorem move_of_look {source target : String} {here there : Location}
    (cleanSource : holdsNull source = false) (cleanTarget : holdsNull target = false)
    (reachedSource : fs.locate source = .ok (fs.look here))
    (reachedTarget : fs.locate target = .ok (fs.look there))
    (file : fs.at? here = some (.file content)) (free : fs.at? there ≠ some .directory) :
    fs.move source target = .ok ((fs.erase here).put there (.file content)) := by
  unfold move
  rw [cleanSource, cleanTarget, reachedSource, reachedTarget]
  unfold look
  rw [file]
  cases item : fs.at? there with
  | none => rfl
  | some item' =>
    cases item' with
    | directory => exact absurd item free
    | file old => rfl

/-- No file is moved over a directory. -/
theorem move_of_directory {source target : String} {here there : Location}
    (cleanSource : holdsNull source = false) (cleanTarget : holdsNull target = false)
    (reachedSource : fs.locate source = .ok (fs.look here))
    (reachedTarget : fs.locate target = .ok (fs.look there))
    (file : fs.at? here = some (.file content)) (taken : fs.at? there = some .directory) :
    fs.move source target = .error (.notMoved .isADirectory source target) := by
  unfold move
  rw [cleanSource, cleanTarget, reachedSource, reachedTarget]
  unfold look
  rw [file, taken]
  rfl

/-! ## Section 3: The ways of saving -/

/-- The file system after a content has been written to the temporary file
    and moved into place. -/
def saved (fs : FileSystem) (place : Location) (content : Octets) : FileSystem :=
  ((fs.put (temporaryAt place) (.file content)).erase (temporaryAt place)).put (outputAt place)
    (.file content)

/-- The file system after a content has been written to the temporary file
    and given up again. -/
def givenUp (fs : FileSystem) (place : Location) (content : Octets) : FileSystem :=
  (fs.put (temporaryAt place) (.file content)).erase (temporaryAt place)

/-- What stands where after a content has been saved. -/
theorem at?_saved (fs : FileSystem) (place : Location) (content : Octets) (location : Location) :
    (fs.saved place content).at? location =
      if location = outputAt place then some (.file content)
      else if location = temporaryAt place then none else fs.at? location := by
  unfold saved
  split
  · rename_i eq
    rw [eq, at?_put_self _ _ (outputAt_ne_nil place)]
  · rename_i differs
    rw [at?_put_ne _ _ differs, at?_erase_put fs _ (temporaryAt_ne_nil place)]

/-- What stands where after a content has been given up. -/
theorem at?_givenUp (fs : FileSystem) (place : Location) (content : Octets) (location : Location) :
    (fs.givenUp place content).at? location =
      if location = temporaryAt place then none else fs.at? location :=
  at?_erase_put fs _ (temporaryAt_ne_nil place) location

/-- The ways in which saving a content in a directory can end. -/
inductive Saving (fs : FileSystem) (directory : Path) (content : Octets) :
    Option OutputError × FileSystem → Prop where
  /-- The path holds U+0000, so that no file is asked for. -/
  | null (held : directory.HoldsNull) :
    Saving fs directory content (some (.escaped .nullCharacter), fs)
  /-- The directory is missing, so that there is nothing to remove either. -/
  | missing (clean : ¬ directory.HoldsNull)
    (lost : fs.locate directory.temporaryFile.text = .error .notFound) :
    Saving fs directory content
      (some (.notSaved directory.outputFile
        (.refused .notFound directory.temporaryFile.text)), fs)
  /-- The path of the temporary file cannot be followed for another reason,
      so that removing it fails as well. -/
  | blocked (cause : Cause) (clean : ¬ directory.HoldsNull)
    (lost : fs.locate directory.temporaryFile.text = .error cause) (other : cause ≠ .notFound) :
    Saving fs directory content
      (some (.escaped (.refused cause directory.temporaryFile.text)), fs)
  /-- A directory stands in the place of the temporary file and cannot be
      removed like a file. -/
  | obstructed (place : Location) (admits : fs.Admits directory place)
    (taken : fs.at? (temporaryAt place) = some .directory) :
    Saving fs directory content
      (some (.escaped (.refused .isADirectory directory.temporaryFile.text)), fs)
  /-- A directory stands in the place of the output file. -/
  | occupied (place : Location) (admits : fs.Admits directory place)
    (free : fs.at? (temporaryAt place) ≠ some .directory)
    (taken : fs.at? (outputAt place) = some .directory) :
    Saving fs directory content
      (some (.notSaved directory.outputFile (.notMoved .isADirectory
        directory.temporaryFile.text directory.outputFile.text)), fs.givenUp place content)
  /-- The content is written and moved into place. -/
  | done (place : Location) (admits : fs.Admits directory place)
    (free : fs.at? (temporaryAt place) ≠ some .directory)
    (open_ : fs.at? (outputAt place) ≠ some .directory) :
    Saving fs directory content (none, fs.saved place content)

theorem save_of_null (held : directory.HoldsNull) :
    fs.save directory content = (some (.escaped .nullCharacter), fs) := by
  have refused : fs.write directory.temporaryFile.text content = .error .nullCharacter := by
    unfold write
    rw [holdsNull_temporaryFile_iff.2 held]
    rfl
  unfold save
  simp only [refused]

/-- A path that cannot be followed is first written to and then removed. -/
theorem save_of_error {cause : Cause} (clean : ¬ directory.HoldsNull)
    (lost : fs.locate directory.temporaryFile.text = .error cause) :
    fs.save directory content =
      (some (if cause = .notFound then
          .notSaved directory.outputFile (.refused .notFound directory.temporaryFile.text)
        else .escaped (.refused cause directory.temporaryFile.text)), fs) := by
  have cleanText : holdsNull directory.temporaryFile.text = false :=
    Bool.eq_false_iff.2 (fun null => clean (holdsNull_temporaryFile_iff.1 null))
  unfold save abandon
  -- The walk that has failed to write fails to remove, with the same cause.
  simp only [write_of_error cleanText lost, discard_of_error cleanText lost]
  cases cause <;> rfl

namespace Admits

variable (admits : fs.Admits directory place)

include admits

theorem save_of_directory (taken : fs.at? (temporaryAt place) = some .directory) :
    fs.save directory content =
      (some (.escaped (.refused .isADirectory directory.temporaryFile.text)), fs) := by
  have clean := admits.temporary_clean
  unfold save abandon
  simp only [write_of_directory clean admits.locate_temporary taken,
    discard_of_directory clean admits.locate_temporary taken]
  rfl

/-- Once written, the temporary file is there, and what else the directory
    holds is as before. -/
theorem of_written (content : Octets)
    (free : fs.at? (temporaryAt place) ≠ some .directory) :
    (fs.put (temporaryAt place) (.file content)).Admits directory place ∧
      (fs.put (temporaryAt place) (.file content)).at? (temporaryAt place) =
        some (.file content) ∧
      (fs.put (temporaryAt place) (.file content)).at? (outputAt place) =
        fs.at? (outputAt place) := by
  refine ⟨admits.of_sameDirectories (.put_file fs content free), ?_, ?_⟩
  · exact at?_put_self fs _ (temporaryAt_ne_nil place)
  · exact at?_put_ne fs _ (outputAt_ne_temporaryAt place place)

theorem save_of_taken (free : fs.at? (temporaryAt place) ≠ some .directory)
    (taken : fs.at? (outputAt place) = some .directory) :
    fs.save directory content =
      (some (.notSaved directory.outputFile (.notMoved .isADirectory
        directory.temporaryFile.text directory.outputFile.text)), fs.givenUp place content) := by
  have clean := admits.temporary_clean
  obtain ⟨admitted, there, kept⟩ := admits.of_written content free
  have written := write_of_look content clean admits.locate_temporary free
  have stuck := move_of_directory clean (holdsNull_outputFile admits.clean)
    admitted.locate_temporary admitted.locate_output there (kept.trans taken)
  have removed := discard_of_file clean admitted.locate_temporary there
  -- The content is written, cannot be moved, and is removed again.
  unfold save abandon
  simp only [written, stuck, removed]
  rfl

theorem save_of_open (free : fs.at? (temporaryAt place) ≠ some .directory)
    (open_ : fs.at? (outputAt place) ≠ some .directory) :
    fs.save directory content = (none, fs.saved place content) := by
  have clean := admits.temporary_clean
  obtain ⟨admitted, there, kept⟩ := admits.of_written content free
  have written := write_of_look content clean admits.locate_temporary free
  have moved := move_of_look clean (holdsNull_outputFile admits.clean)
    admitted.locate_temporary admitted.locate_output there (fun taken => open_ (kept ▸ taken))
  unfold save
  simp only [written, moved]
  rfl

end Admits

/-- Saving ends in one of the ways listed. -/
theorem saving_save (fs : FileSystem) (directory : Path) (content : Octets) :
    Saving fs directory content (fs.save directory content) := by
  -- The path of the temporary file decides first, then what stands in its
  -- place, and the output file only once the content has been written.
  by_cases held : directory.HoldsNull
  · rw [save_of_null held]
    exact .null held
  · cases located : fs.locate directory.temporaryFile.text with
    | error cause =>
      rw [save_of_error held located]
      by_cases missing : cause = .notFound
      · rw [if_pos missing]
        exact .missing held (missing ▸ located)
      · rw [if_neg missing]
        exact .blocked cause held located missing
    | ok destination =>
      obtain ⟨place, admits, -⟩ := admits_of_locate held located
      by_cases taken : fs.at? (temporaryAt place) = some .directory
      · rw [admits.save_of_directory taken]
        exact .obstructed place admits taken
      · by_cases filled : fs.at? (outputAt place) = some .directory
        · rw [admits.save_of_taken taken filled]
          exact .occupied place admits taken filled
        · rw [admits.save_of_open taken filled]
          exact .done place admits taken filled

end StringOrigins.FileSystem
