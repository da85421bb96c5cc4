import StringOrigins.FileSystem.Basic
import StringOrigins.Proofs.Path.Printing

/-! # Walking to the entry of a directory

    The text of a path is walked by the parts of the path, and the walk to
    an entry is the walk to its directory followed by one look.  So an
    entry is reached exactly if its directory is and its text is not too
    long (`locate_child_eq_ok_iff`), and a walk tells nothing about regular
    files on its way (`walk_of_sameDirectories`). -/

namespace StringOrigins

/-- The names that a path is walked by. -/
def Path.names (p : Path) : List String := p.parts.map String.ofList

/-- Whether a part can be looked up: it is not the parent part, and not too long. -/
def IsEntryName (part : List Char) : Prop :=
  part ≠ ['.', '.'] ∧ (String.ofList part).utf8ByteSize ≤ FileSystem.maxNameSize

instance (part : List Char) : Decidable (IsEntryName part) :=
  inferInstanceAs (Decidable (_ ∧ _))

namespace FileSystem

/-! ## Section 1: The names of a path -/

/-- The directory that a path is walked from. -/
def origin (fs : FileSystem) (p : Path) : Location := if p.isAbsolute then [] else fs.current

theorem start_text (fs : FileSystem) (p : Path) : fs.start p.text.toList = fs.origin p := by
  unfold start origin Path.text
  rw [String.toList_ofList]
  by_cases absolute : p.isAbsolute = true
  · rw [if_pos absolute, if_pos (p.head?_chars.2 absolute)]
  · rw [if_neg absolute, if_neg (fun e => absolute (p.head?_chars.1 e))]

theorem walk_nil (fs : FileSystem) (directory : Location) :
    fs.walk directory [] = .ok (.found directory .directory) := by
  rw [walk.eq_def]

/-- One name of a walk.  A regular file or nothing ends the walk, and what
    it ends with depends on whether more names follow. -/
theorem walk_cons (fs : FileSystem) (directory : Location) (name : String) (rest : List String) :
    fs.walk directory (name :: rest) =
      if name = "." then fs.walk directory rest
      else if name = ".." then fs.walk directory.dropLast rest
      else if maxNameSize < name.utf8ByteSize then .error .nameTooLong
      else match fs.at? (directory ++ [name]) with
        | some .directory => fs.walk (directory ++ [name]) rest
        | some (.file content) =>
          if rest = [] then .ok (.found (directory ++ [name]) (.file content))
          else .error .notADirectory
        | none => if rest = [] then .ok (.vacant (directory ++ [name])) else .error .notFound := by
  rw [walk.eq_def]
  dsimp only
  cases fs.at? (directory ++ [name]) with
  | none => cases rest <;> rfl
  | some item => cases item <;> cases rest <;> rfl

/-- A walk goes on inside of a directory. -/
theorem walk_directory {fs : FileSystem} {directory : Location} {name : String}
    (plain : name ≠ "." ∧ name ≠ "..") (short : name.utf8ByteSize ≤ maxNameSize)
    (entered : fs.at? (directory ++ [name]) = some .directory) (rest : List String) :
    fs.walk directory (name :: rest) = fs.walk (directory ++ [name]) rest := by
  rw [walk_cons, if_neg plain.1, if_neg plain.2, if_neg (Nat.not_lt.2 short), entered]

/-- It ends at a regular file. -/
theorem walk_file {fs : FileSystem} {directory : Location} {name : String}
    (plain : name ≠ "." ∧ name ≠ "..") (short : name.utf8ByteSize ≤ maxNameSize)
    {content : Utf8.Octets} (file : fs.at? (directory ++ [name]) = some (.file content)) :
    fs.walk directory [name] = .ok (.found (directory ++ [name]) (.file content)) := by
  rw [walk_cons, if_neg plain.1, if_neg plain.2, if_neg (Nat.not_lt.2 short), file]
  exact if_pos rfl

/-- A dot leads nowhere else. -/
theorem walk_dot (fs : FileSystem) (directory : Location) :
    fs.walk directory ["."] = fs.walk directory [] := by
  rw [walk_cons, if_pos rfl]

/-- The text of a path is walked by its parts.  The dot or slash of a path
    without parts asks for the directory that the walk starts at. -/
theorem walk_text (fs : FileSystem) (directory : Location) (p : Path) :
    fs.walk directory (names p.text.toList) = fs.walk directory p.names := by
  unfold names Path.text Path.names
  rw [String.toList_ofList]
  simp only [p.pieces_chars]
  by_cases ne : p.parts = []
  · -- Without parts the text is a dot or one or two slashes.
    cases anchor : p.anchor with
    | here =>
      have dot : p.chars = ['.'] := by simp [Path.chars, anchor, ne]
      simp [ne, dot, walk_dot]
    | root =>
      have slash : p.chars = ['/'] := by simp [Path.chars, anchor, ne, Anchor.chars]
      simp [ne, slash, walk_dot]
    | doubleRoot =>
      have slashes : p.chars = ['/', '/'] := by simp [Path.chars, anchor, ne, Anchor.chars]
      simp [ne, slashes, walk_dot]
  · rw [if_neg (p.getLast?_chars ne), if_neg (fun both => ne both.2)]

/-- Where a path leads, in terms of its parts. -/
theorem locate_text (fs : FileSystem) (p : Path) :
    fs.locate p.text =
      if maxPathSize < p.text.utf8ByteSize then .error .nameTooLong
      else if fs.at? (fs.origin p) = some .directory then fs.walk (fs.origin p) p.names
      else .error .notFound := by
  have ne : p.text ≠ "" := by
    unfold Path.text
    exact fun empty => p.chars_ne_nil (String.ofList_eq_empty_iff.1 empty)
  unfold locate
  rw [if_neg ne, start_text, walk_text]

/-! ## Section 2: The last name -/

/-- What a location is to a walk that ends there. -/
def look (fs : FileSystem) (location : Location) : Destination :=
  match fs.at? location with
  | none => .vacant location
  | some item => .found location item

/-- What one more name leads to. -/
def enter (fs : FileSystem) (name : String) : Destination → Except Cause Destination
  | .found directory .directory => .ok (fs.look (directory ++ [name]))
  | .found _ (.file _) => .error .notADirectory
  | .vacant _ => .error .notFound

/-- The name of an entry is looked up where it stands. -/
theorem walk_entry (fs : FileSystem) (directory : Location) {part : List Char} (h : IsPart part)
    (name : IsEntryName part) :
    fs.walk directory [String.ofList part] =
      .ok (fs.look (directory ++ [String.ofList part])) := by
  have dot : String.ofList part ≠ "." := fun e => h.2.1 (String.ofList_injective (e.trans rfl))
  have parent : String.ofList part ≠ ".." :=
    fun e => name.1 (String.ofList_injective (e.trans rfl))
  have short : ¬ maxNameSize < (String.ofList part).utf8ByteSize := Nat.not_lt.2 name.2
  unfold look
  rw [walk_cons, if_neg dot, if_neg parent, if_neg short]
  cases fs.at? (directory ++ [String.ofList part]) with
  | none => rfl
  | some item => cases item <;> simp [walk_nil]

/-- A walk by some names and one more is the walk by these names, and from
    where it ends one step more. -/
theorem walk_concat (fs : FileSystem) (directory : Location) (names : List String)
    {part : List Char} (h : IsPart part) (name : IsEntryName part) :
    fs.walk directory (names ++ [String.ofList part]) =
      (fs.walk directory names).bind (fs.enter (String.ofList part)) := by
  -- Each name may lead to another directory, so the induction is over all of them.
  induction names generalizing directory with
  | nil =>
    rw [List.nil_append, walk_entry fs directory h name, walk_nil]
    rfl
  | cons first rest ih =>
    rw [List.cons_append, walk_cons, walk_cons]
    split
    · exact ih directory
    · split
      · exact ih directory.dropLast
      · split
        · rfl
        · cases fs.at? (directory ++ [first]) with
          | none => cases rest <;> rfl
          | some item =>
            cases item with
            | directory => exact ih (directory ++ [first])
            | file content => cases rest <;> rfl

/-! ## Section 3: The size of the text of an entry -/

theorem size_text (p : Path) : p.text.utf8ByteSize = (String.ofList p.chars).utf8ByteSize := rfl

/-- The size of the text of an entry. -/
theorem size_text_child (p : Path) {part : List Char} (h : IsPart part) :
    (p.child part h).text.utf8ByteSize =
      (String.ofList p.front).utf8ByteSize + (String.ofList part).utf8ByteSize := by
  rw [size_text, p.chars_child, String.ofList_append, String.utf8ByteSize_append]

/-- A text is not empty, so it has a size. -/
theorem size_pos {s : List Char} (ne : s ≠ []) : 0 < (String.ofList s).utf8ByteSize := by
  refine Nat.pos_of_ne_zero (fun zero => ?_)
  exact ne (String.ofList_eq_empty_iff.1 (String.utf8ByteSize_eq_zero_iff.1 zero))

/-- The text of a directory is not longer than that of its entries. -/
theorem size_text_le_child (p : Path) {part : List Char} (h : IsPart part) :
    p.text.utf8ByteSize ≤ (p.child part h).text.utf8ByteSize := by
  rw [size_text_child, size_text]
  have hpart := size_pos h.1
  unfold Path.front
  split
  · rename_i empty
    unfold Path.chars
    split
    · -- The single dot is not part of the text of an entry.
      have one : (String.ofList ['.']).utf8ByteSize = 1 := by decide
      omega
    · simp [empty]
  · rw [String.ofList_append, String.utf8ByteSize_append]
    omega

/-! ## Section 4: Entries -/

/-- Where the path of an entry leads. -/
theorem locate_child (fs : FileSystem) (p : Path) {part : List Char} (h : IsPart part)
    (name : IsEntryName part) :
    fs.locate (p.child part h).text =
      if maxPathSize < (p.child part h).text.utf8ByteSize then .error .nameTooLong
      else (fs.locate p.text).bind (fs.enter (String.ofList part)) := by
  have size := size_text_le_child p h
  have sameOrigin : fs.origin (p.child part h) = fs.origin p := rfl
  have namesChild : (p.child part h).names = p.names ++ [String.ofList part] := by
    simp [Path.names]
  rw [locate_text fs (p.child part h), locate_text fs p, sameOrigin, namesChild,
    walk_concat fs _ _ h name]
  by_cases long : maxPathSize < (p.child part h).text.utf8ByteSize
  · rw [if_pos long, if_pos long]
  -- A directory is not longer than its entry, so it is not too long either.
  · have short : ¬ maxPathSize < p.text.utf8ByteSize := by omega
    rw [if_neg long, if_neg long, if_neg short]
    split <;> rfl

/-- The path of an entry leads somewhere exactly if it is not too long and
    that of its directory leads to a directory. -/
theorem locate_child_eq_ok_iff {fs : FileSystem} {p : Path} {part : List Char} {h : IsPart part}
    (name : IsEntryName part) {destination : Destination} :
    fs.locate (p.child part h).text = .ok destination ↔
      (p.child part h).text.utf8ByteSize ≤ maxPathSize ∧
      ∃ directory, fs.locate p.text = .ok (.found directory .directory) ∧
        destination = fs.look (directory ++ [String.ofList part]) := by
  rw [locate_child fs p h name]
  constructor
  · intro reached
    split at reached
    · cases reached
    · rename_i size
      refine ⟨Nat.not_lt.1 size, ?_⟩
      cases walked : fs.locate p.text with
      | error cause => rw [walked] at reached; cases reached
      | ok place =>
        rw [walked] at reached
        cases place with
        | vacant location => cases reached
        | found location item =>
          cases item with
          | file content => cases reached
          | directory => exact ⟨location, rfl, (Except.ok.inj reached).symm⟩
  · rintro ⟨size, directory, walked, rfl⟩
    rw [if_neg (Nat.not_lt.2 size), walked]
    rfl

/-! ## Section 5: Walks and regular files -/

/-- Two file systems with the same directories.  Their regular files may
    differ in any way. -/
structure SameDirectories (fs other : FileSystem) : Prop where
  current : other.current = fs.current
  directory_iff : ∀ location, other.at? location = some .directory ↔
    fs.at? location = some .directory

theorem SameDirectories.symm {fs other : FileSystem} (same : SameDirectories fs other) :
    SameDirectories other fs :=
  ⟨same.current.symm, fun location => (same.directory_iff location).symm⟩

/-- The results of a walk that no regular file can bring about or prevent. -/
def IsFirm : Except Cause Destination → Prop
  | .ok (.found _ .directory) => True
  | .error .nameTooLong => True
  | _ => False

/-- A walk to a directory passes directories only, and so does one that
    meets a name that is too long. -/
theorem walk_of_sameDirectories {fs other : FileSystem} (same : SameDirectories fs other)
    {directory : Location} {names : List String} (firm : IsFirm (fs.walk directory names)) :
    other.walk directory names = fs.walk directory names := by
  -- The induction follows the walk.  At a regular file or at nothing it
  -- would end, and not firmly, so only directories are left.
  induction names generalizing directory with
  | nil => rw [walk_nil, walk_nil]
  | cons name rest ih =>
    rw [walk_cons] at firm
    rw [walk_cons, walk_cons]
    split
    · rename_i dot
      rw [if_pos dot] at firm
      exact ih firm
    · rename_i dot
      rw [if_neg dot] at firm
      split
      · rename_i parent
        rw [if_pos parent] at firm
        exact ih firm
      · rename_i parent
        rw [if_neg parent] at firm
        split
        · rfl
        · rename_i short
          rw [if_neg short] at firm
          cases item : fs.at? (directory ++ [name]) with
          | none => rw [item] at firm; cases rest <;> exact firm.elim
          | some item' =>
            cases item' with
            | file content => rw [item] at firm; cases rest <;> exact firm.elim
            | directory =>
              rw [item] at firm
              rw [(same.directory_iff _).2 item]
              exact ih firm

/-- The same for paths. -/
theorem locate_of_sameDirectories {fs other : FileSystem} (same : SameDirectories fs other)
    {path : String} (firm : IsFirm (fs.locate path)) : other.locate path = fs.locate path := by
  have start : other.start path.toList = fs.start path.toList := by
    unfold FileSystem.start
    rw [same.current]
  unfold locate at firm ⊢
  rw [start]
  split
  · rfl
  · rename_i ne
    rw [if_neg ne] at firm
    split
    · rfl
    · rename_i size
      rw [if_neg size] at firm
      by_cases directory : fs.at? (fs.start path.toList) = some .directory
      · rw [if_pos directory] at firm
        rw [if_pos directory, if_pos ((same.directory_iff _).2 directory)]
        exact walk_of_sameDirectories same firm
      · rw [if_neg directory] at firm
        exact firm.elim

/-- The path of an entry that leads somewhere leads to the same place in
    all file systems with the same directories. -/
theorem locate_child_of_sameDirectories {fs other : FileSystem} (same : SameDirectories fs other)
    {p : Path} {part : List Char} {h : IsPart part} (name : IsEntryName part)
    (agree : ∀ directory, other.at? (directory ++ [String.ofList part]) =
      fs.at? (directory ++ [String.ofList part]))
    {destination : Destination} (reached : fs.locate (p.child part h).text = .ok destination) :
    other.locate (p.child part h).text = .ok destination := by
  obtain ⟨size, directory, walked, rfl⟩ := (locate_child_eq_ok_iff name).1 reached
  refine (locate_child_eq_ok_iff name).2 ⟨size, directory, ?_, ?_⟩
  · rw [← walked]
    exact locate_of_sameDirectories same (by rw [walked]; trivial)
  · unfold look
    rw [agree directory]

end FileSystem

end StringOrigins
