import StringOrigins.Proofs.FileSystem.Walk
import StringOrigins.Proofs.Path.Joining

/-! # Operations on the entries of a directory

    What reading and looking for the entry of a directory depend on: the
    directories of the file system and the item of that entry.  Two file
    systems that differ in regular files of other names cannot be told
    apart by it (`read_child_of_sameDirectories`, `exists?_child_congr`). -/

namespace StringOrigins

open Utf8 (Octets)

/-! ## Section 1: Paths that hold U+0000 -/

/-- Whether a part of a path holds U+0000. -/
def Path.HoldsNull (p : Path) : Prop := ∃ part ∈ p.parts, '\x00' ∈ part

namespace FileSystem

/-- The text of a path holds U+0000 if a part of it does. -/
theorem holdsNull_text_iff (p : Path) : holdsNull p.text = true ↔ p.HoldsNull := by
  unfold holdsNull Path.text Path.HoldsNull
  rw [String.toList_ofList, List.contains_iff_mem]
  exact p.mem_chars_iff (by decide) (by decide)

/-- A path holds U+0000 only if the text that it was read from does. -/
theorem holdsNull_of_ofText {s : String} (h : (Path.ofText s).HoldsNull) :
    holdsNull s = true := by
  obtain ⟨part, m, null⟩ := h
  have piece : part ∈ Path.split s.toList := (List.mem_filter.1 m).1
  unfold holdsNull
  rw [List.contains_iff_mem]
  exact (Path.exists_mem_split_iff (by decide)).1 ⟨part, piece, null⟩

/-- A resolved path holds U+0000 only if the path or its root does. -/
theorem holdsNull_of_resolve {p : Path} {root : Option Path} (h : (p.resolve root).HoldsNull) :
    p.HoldsNull ∨ ∃ directory, root = some directory ∧ directory.HoldsNull := by
  obtain ⟨part, m, null⟩ := h
  rcases Path.mem_parts_resolve m with m | ⟨directory, eq, m⟩
  · exact Or.inl ⟨part, m, null⟩
  · exact Or.inr ⟨directory, eq, part, m, null⟩

/-- An entry brings in no U+0000 if its name has none. -/
theorem holdsNull_child_iff (p : Path) {part : List Char} (h : IsPart part)
    (clean : '\x00' ∉ part) : (p.child part h).HoldsNull ↔ p.HoldsNull := by
  simp [Path.HoldsNull, clean, List.mem_append, or_and_right, exists_or]

/-! ## Section 2: Changes that keep the directories -/

namespace SameDirectories

variable {fs other : FileSystem}

theorem refl (fs : FileSystem) : SameDirectories fs fs := ⟨rfl, fun _ => Iff.rfl⟩

theorem trans {third : FileSystem} (first : SameDirectories fs other)
    (second : SameDirectories other third) : SameDirectories fs third :=
  ⟨second.current.trans first.current, fun location =>
    (second.directory_iff location).trans (first.directory_iff location)⟩

/-- A regular file that is put in the place of another one or of nothing
    keeps the directories. -/
theorem put_file (fs : FileSystem) {location : Location} (content : Octets)
    (vacant : fs.at? location ≠ some .directory) :
    SameDirectories fs (fs.put location (.file content)) := by
  -- The root is a directory, so it is not the location of the file.
  have ne : location ≠ [] := fun e => vacant (by simp [e])
  refine ⟨rfl, fun place => ?_⟩
  by_cases eq : place = location
  · subst eq
    simp [vacant, at?_put_self fs _ ne]
  · rw [at?_put_ne fs _ eq]

/-- So does a regular file or nothing that is taken away. -/
theorem erase (fs : FileSystem) {location : Location}
    (vacant : fs.at? location ≠ some .directory) : SameDirectories fs (fs.erase location) := by
  have ne : location ≠ [] := fun e => vacant (by simp [e])
  refine ⟨rfl, fun place => ?_⟩
  by_cases eq : place = location
  · subst eq
    simp [vacant, at?_erase_self fs ne]
  · rw [at?_erase_ne fs eq]

end SameDirectories

/-! ## Section 3: Reading an entry -/

section entries

variable {fs other : FileSystem} {p : Path} {part : List Char} {h : IsPart part}

/-- A file is read where its path leads. -/
theorem read_eq_ok_iff {path : String} {content : Octets} :
    fs.read path = .ok content ↔
      holdsNull path = false ∧ ∃ location, fs.locate path = .ok (.found location (.file content)) := by
  unfold read
  cases null : holdsNull path with
  | true => simp
  | false =>
    cases fs.locate path with
    | error cause => simp
    | ok destination =>
      cases destination with
      | vacant location => simp
      | found location item => cases item <;> simp

/-- It is read where the walk from the root leads, if that is where all paths start. -/
theorem read_of_walk (home : fs.current = []) (clean : holdsNull p.text = false)
    (short : p.text.utf8ByteSize ≤ maxPathSize) (location : Location) {content : Octets}
    (walk : fs.walk [] p.names = .ok (.found location (.file content))) :
    fs.read p.text = .ok content := by
  have origin : fs.origin p = [] := by
    unfold origin
    split
    · rfl
    · exact home
  refine read_eq_ok_iff.2 ⟨clean, location, ?_⟩
  rw [locate_text, if_neg (Nat.not_lt.2 short), origin]
  exact (if_pos rfl).trans walk

/-- What cannot be read is refused for the path that was given. -/
theorem refused_of_read {path : String} {error : FileError} (clean : holdsNull path = false)
    (failed : fs.read path = .error error) : ∃ cause, error = .refused cause path := by
  unfold read at failed
  rw [clean] at failed
  cases reached : fs.locate path with
  | error cause =>
    rw [reached] at failed
    exact ⟨cause, (Except.error.inj failed).symm⟩
  | ok destination =>
    rw [reached] at failed
    cases destination with
    | vacant location => exact ⟨.notFound, (Except.error.inj failed).symm⟩
    | found location item =>
      cases item with
      | directory => exact ⟨.isADirectory, (Except.error.inj failed).symm⟩
      | file content => cases failed

/-- Only a path with U+0000 is refused without a look at the file system. -/
theorem null_of_read {path : String} (failed : fs.read path = .error .nullCharacter) :
    holdsNull path = true := by
  cases null : holdsNull path with
  | true => rfl
  | false =>
    obtain ⟨cause, eq⟩ := refused_of_read null failed
    cases eq

/-- The entry of a directory that can be read reads the same in all file
    systems with the same directories and the same entries of its name. -/
theorem read_child_of_sameDirectories (same : SameDirectories fs other)
    (name : IsEntryName part)
    (agree : ∀ directory, other.at? (directory ++ [String.ofList part]) =
      fs.at? (directory ++ [String.ofList part]))
    {content : Octets} (done : fs.read (p.child part h).text = .ok content) :
    other.read (p.child part h).text = .ok content := by
  obtain ⟨clean, location, reached⟩ := read_eq_ok_iff.1 done
  exact read_eq_ok_iff.2
    ⟨clean, location, locate_child_of_sameDirectories same name agree reached⟩

/-- What a path leads to if an error of the walk is not told apart from
    nothing, unless a name is too long. -/
theorem exists?_of_error {path : String} {cause : Cause} (clean : holdsNull path = false)
    (lost : fs.locate path = .error cause) (short : cause ≠ .nameTooLong) :
    fs.exists? path = .ok false := by
  unfold exists?
  rw [clean, lost]
  cases cause with
  | nameTooLong => exact absurd rfl short
  | _ => rfl

/-- Whether an entry exists is the same in all file systems with the same
    directories and the same entries of its name. -/
theorem exists?_child_congr (same : SameDirectories fs other) (name : IsEntryName part)
    (agree : ∀ directory, other.at? (directory ++ [String.ofList part]) =
      fs.at? (directory ++ [String.ofList part])) :
    other.exists? (p.child part h).text = fs.exists? (p.child part h).text := by
  have transfer : fs.locate (p.child part h).text = other.locate (p.child part h).text →
      other.exists? (p.child part h).text = fs.exists? (p.child part h).text := by
    intro eq
    unfold exists?
    rw [eq]
  -- If either walk arrives somewhere, so does the other one, at the same place.
  cases here : fs.locate (p.child part h).text with
  | ok destination =>
    exact transfer (here.trans (locate_child_of_sameDirectories same name agree here).symm)
  | error cause =>
    cases there : other.locate (p.child part h).text with
    | ok destination =>
      have back := locate_child_of_sameDirectories same.symm name
        (fun directory => (agree directory).symm) there
      exact transfer (back.trans there.symm)
    | error cause' =>
      -- Neither walk arrives, so only a name that is too long would show.
      by_cases long : cause = .nameTooLong
      · have firm : IsFirm (fs.locate (p.child part h).text) := by
          rw [here, long]
          trivial
        exact transfer (locate_of_sameDirectories same firm).symm
      · by_cases long' : cause' = .nameTooLong
        · have firm : IsFirm (other.locate (p.child part h).text) := by
            rw [there, long']
            trivial
          exact transfer (locate_of_sameDirectories same.symm firm)
        · cases clean : holdsNull (p.child part h).text with
          | true =>
            unfold exists?
            rw [clean]
            rfl
          | false => rw [exists?_of_error clean here long, exists?_of_error clean there long']

/-- What exists is found where its path leads. -/
theorem locate_of_exists? {path : String} (there : fs.exists? path = .ok true) :
    ∃ location item, fs.locate path = .ok (.found location item) := by
  unfold exists? at there
  cases null : holdsNull path with
  | true =>
    rw [null] at there
    cases there
  | false =>
    rw [null] at there
    cases reached : fs.locate path with
    | error cause =>
      rw [reached] at there
      cases cause <;> cases there
    | ok destination =>
      cases destination with
      | found location item => exact ⟨location, item, rfl⟩
      | vacant location =>
        rw [reached] at there
        cases there

/-- A path with U+0000 leads to nothing that exists. -/
theorem null_of_exists? {path : String} (there : fs.exists? path = .ok true) :
    holdsNull path = false := by
  rcases held : holdsNull path with _ | _
  · rfl
  · unfold exists? at there
    rw [held] at there
    cases there

/-- What is read depends on where the path leads. -/
theorem read_congr {path : String} (same : other.locate path = fs.locate path) :
    other.read path = fs.read path := by
  unfold read
  rw [same]

/-- A file that can be read exists. -/
theorem exists?_of_read {path : String} {content : Octets} (done : fs.read path = .ok content) :
    fs.exists? path = .ok true := by
  obtain ⟨clean, location, reached⟩ := read_eq_ok_iff.1 done
  unfold exists?
  rw [clean, reached]
  rfl

end entries

/-! ## Section 4: What is missing -/

section missing

variable {fs : FileSystem} {path : String}

/-- There is nothing that a path leads to. -/
inductive IsMissing (fs : FileSystem) (path : String) : Prop where
  /-- The path holds U+0000. -/
  | null (held : holdsNull path = true)
  /-- Its last name is not there. -/
  | last {location : Location} (reached : fs.locate path = .ok (.vacant location))
  /-- Another name is not there, or it is no directory. -/
  | between {cause : Cause} (kind : cause = .notFound ∨ cause = .notADirectory)
      (failed : fs.locate path = .error cause)

/-- A walk is not refused for a directory. -/
theorem ne_isADirectory_of_walk {directory : Location} {names : List String} {cause : Cause}
    (failed : fs.walk directory names = .error cause) : cause ≠ .isADirectory := by
  induction names generalizing directory with
  | nil => cases failed
  | cons name rest ih =>
    rw [walk_cons] at failed
    by_cases dot : name = "."
    · rw [if_pos dot] at failed
      exact ih failed
    rw [if_neg dot] at failed
    by_cases parent : name = ".."
    · rw [if_pos parent] at failed
      exact ih failed
    rw [if_neg parent] at failed
    by_cases long : maxNameSize < name.utf8ByteSize
    · rw [if_pos long] at failed
      cases failed
      simp
    rw [if_neg long] at failed
    cases item : fs.at? (directory ++ [name]) with
    | none =>
      rw [item] at failed
      dsimp only at failed
      split at failed
      · cases failed
      · cases failed
        simp
    | some item' =>
      rw [item] at failed
      cases item' with
      | directory => exact ih failed
      | file content =>
        dsimp only at failed
        split at failed
        · cases failed
        · cases failed
          simp

theorem ne_isADirectory_of_locate {cause : Cause} (failed : fs.locate path = .error cause) :
    cause ≠ .isADirectory := by
  unfold locate at failed
  split at failed
  · cases failed
    simp
  · split at failed
    · cases failed
      simp
    · split at failed
      · exact ne_isADirectory_of_walk failed
      · cases failed
        simp

/-- What does not exist is missing. -/
theorem isMissing_of_exists? (absent : fs.exists? path = .ok false) : fs.IsMissing path := by
  unfold exists? at absent
  split at absent
  · rename_i held
    exact .null held
  · split at absent
    · cases absent
    · rename_i reached
      exact .last reached
    · cases absent
    · rename_i cause short reached
      have other := ne_isADirectory_of_locate reached
      cases cause with
      | notFound => exact .between (.inl rfl) reached
      | notADirectory => exact .between (.inr rfl) reached
      | isADirectory => exact absurd rfl other
      | nameTooLong => exact absurd rfl short

/-- An error in the place of an answer is one of the operating system. -/
theorem refused_of_exists? {error : FileError} (failed : fs.exists? path = .error error) :
    ∃ cause, error = .refused cause path := by
  unfold exists? at failed
  split at failed
  · cases failed
  · split at failed
    · cases failed
    · cases failed
    · cases failed
      exact ⟨_, rfl⟩
    · cases failed

/-- What exists can be read, or it is a directory. -/
theorem read_of_exists? (there : fs.exists? path = .ok true) :
    (∃ octets, fs.read path = .ok octets) ∨ fs.read path = .error (.refused .isADirectory path) := by
  obtain ⟨location, item, reached⟩ := locate_of_exists? there
  unfold read
  rw [null_of_exists? there, reached]
  cases item with
  | directory => exact .inr rfl
  | file content => exact .inl ⟨content, rfl⟩

end missing

end FileSystem

end StringOrigins
