import StringOrigins.Proofs.FileSystem.Operations
import StringOrigins.SourceMap.Survey

/-! # What a survey records

    A directory contributes the names of its strings file if that can be
    scraped, and none otherwise.  A name is recorded for the first
    directory that contributes it, as far as it has an id
    (`getElem?_sources_of`).

    A survey looks at no file but strings files, so it comes out the same
    in file systems that differ in other regular files (`of_congr`). -/

namespace StringOrigins

/-! ## Section 1: Contributions -/

namespace Survey

/-- The strings file of a directory, as it is read. -/
def fileOf (root : Option Path) (directory : String) : Path :=
  (Path.ofText directory).stringsFile.resolve root

/-- The names that a directory contributes: all that its strings file
    defines, or none if that is missing or yields nothing. -/
def contribution (fs : FileSystem) (root : Option Path) (directory : String) : List String :=
  match StringsFile.scrape fs (fileOf root directory).text with
  | .ok names => names
  | .error _ => []

/-- The directory that a name is recorded for: the first that contributes it. -/
def provider? (fs : FileSystem) (root : Option Path) (directories : List String)
    (name : String) : Option String :=
  directories.find? fun directory => name ∈ contribution fs root directory

/-- What is recorded of a name with an id for a directory. -/
def entryOf (directory : String) (id : Int) : Entry :=
  ⟨id, (Path.ofText directory).stringsFile.text⟩

end Survey

/-! ## Section 2: Entering names -/

section entering

variable (ids : IdTable) (source : String)

/-- Entering a name changes nothing but the entry of that name, and this
    only if it has none yet. -/
theorem Intake.getElem?_enter (intake : Intake) (name other : String) :
    (intake.enter ids source name).sources[other]? =
      intake.sources[other]?.or
        (if other = name then ids[other]?.map (⟨·, source⟩) else none) := by
  unfold enter
  cases given : ids[name]? with
  | none =>
    by_cases same : other = name
    · simp [same, given]
    · simp [same]
  | some id =>
    dsimp only
    by_cases known : name ∈ intake.sources
    · rw [if_pos known]
      by_cases same : other = name
      · subst same
        obtain ⟨entry, found⟩ :=
          Option.isSome_iff_exists.1 (Dictionary.mem_iff_isSome_getElem?.1 known)
        simp [found]
      · simp [same]
    · rw [if_neg known, Dictionary.getElem?_insert]
      by_cases same : other = name
      · subst same
        rw [Dictionary.mem_iff_isSome_getElem?, Option.not_isSome_iff_eq_none] at known
        simp [known, given]
      · simp [same]

/-- Entering names adds entries for those of them that have none yet. -/
theorem SourceMap.getElem?_enterAll (sources : SourceMap) (names : List String) (other : String) :
    (sources.enterAll ids source names).sources[other]? =
      sources[other]?.or (if other ∈ names then ids[other]?.map (⟨·, source⟩) else none) := by
  -- An entry that a name gets is one that the names behind it find there.
  have later : ∀ intake : Intake, (names.foldl (Intake.enter ids source) intake).sources[other]? =
      intake.sources[other]?.or
        (if other ∈ names then ids[other]?.map (⟨·, source⟩) else none) := by
    induction names with
    | nil => simp
    | cons name rest ih =>
      intro intake
      rw [List.foldl_cons, ih, Intake.getElem?_enter, Option.or_assoc]
      by_cases same : other = name
      · cases ids[other]? <;> simp [same]
      · simp [same]
  exact later ⟨sources, 0⟩

end entering

/-! ## Section 3: Visits -/

namespace StringsFile

/-- Only a file that can be read yields names. -/
theorem read_of_scrape {fs : FileSystem} {path : String} {names : List String}
    (done : scrape fs path = .ok names) : ∃ content, fs.read path = .ok content := by
  unfold scrape at done
  cases result : fs.read path with
  | ok content => exact ⟨content, rfl⟩
  | error error => rw [result] at done; cases error <;> cases done

/-- What a file yields depends on what is read from it. -/
theorem scrape_congr {fs other : FileSystem} {path : String}
    (same : other.read path = fs.read path) : scrape other path = scrape fs path := by
  unfold scrape
  rw [same]

end StringsFile

namespace Survey

variable (fs : FileSystem) (ids : IdTable) (root : Option Path)

/-- A directory whose strings file is not found contributes nothing. -/
theorem contribution_of_not_exists {directory : String}
    (absent : fs.exists? (fileOf root directory).text ≠ .ok true) :
    contribution fs root directory = [] := by
  unfold contribution
  cases result : StringsFile.scrape fs (fileOf root directory).text with
  | error error => rfl
  | ok names =>
    obtain ⟨content, done⟩ := StringsFile.read_of_scrape result
    exact absurd (FileSystem.exists?_of_read done) absent

/-- What a visit to a directory may come to. -/
inductive Visited (survey : Survey) (directory : String) : Survey → Prop where
  | unreachable {error : FileError}
      (failed : fs.exists? (fileOf root directory).text = .error error) :
      Visited survey directory
        ⟨survey.sources, survey.visits ++ [.unreachable (fileOf root directory) error]⟩
  | absent (missing : fs.exists? (fileOf root directory).text = .ok false) :
      Visited survey directory ⟨survey.sources, survey.visits ++ [.absent directory]⟩
  | refused {error : ScrapeError} (there : fs.exists? (fileOf root directory).text = .ok true)
      (failed : StringsFile.scrape fs (fileOf root directory).text = .error error) :
      Visited survey directory ⟨survey.sources, survey.visits ++ [.refused error]⟩
  | counted {names : List String} (there : fs.exists? (fileOf root directory).text = .ok true)
      (scraped : StringsFile.scrape fs (fileOf root directory).text = .ok names) :
      Visited survey directory
        ⟨(survey.sources.enterAll ids (Path.ofText directory).stringsFile.text names).sources,
          survey.visits ++ [.counted (Path.ofText directory).stringsFile.text names.length
            (survey.sources.enterAll ids (Path.ofText directory).stringsFile.text names).added]⟩

theorem visited_visit (survey : Survey) (directory : String) :
    Visited fs ids root survey directory (visit fs ids root survey directory) := by
  unfold visit
  cases found : fs.exists? ((Path.ofText directory).stringsFile.resolve root).text with
  | error error =>
    simp only [found]
    exact .unreachable found
  | ok there =>
    simp only [found]
    cases there with
    | false => exact .absent found
    | true =>
      cases scraped : StringsFile.scrape fs
          ((Path.ofText directory).stringsFile.resolve root).text with
      | error error => exact .refused found scraped
      | ok names => exact .counted found scraped

/-- A visit records what the directory contributes and is not recorded yet. -/
theorem getElem?_sources_visit (survey : Survey) (directory name : String) :
    (visit fs ids root survey directory).sources[name]? =
      survey.sources[name]?.or
        (if name ∈ contribution fs root directory then ids[name]?.map (entryOf directory)
          else none) := by
  have way := visited_visit fs ids root survey directory
  generalize visit fs ids root survey directory = later at way
  -- A directory that is skipped contributes nothing.
  cases way with
  | unreachable failed =>
    simp [contribution_of_not_exists fs root (fun there => by rw [failed] at there; cases there)]
  | absent missing =>
    simp [contribution_of_not_exists fs root (fun there => by rw [missing] at there; cases there)]
  | refused there failed => simp [contribution, failed]
  | counted there scraped =>
    rw [contribution, scraped]
    exact SourceMap.getElem?_enterAll ids _ survey.sources _ name

/-- The first directory that contributes a name is the first of all, or the
    first of the others. -/
theorem provider?_cons (first : String) (rest : List String) (name : String) :
    provider? fs root (first :: rest) name =
      if name ∈ contribution fs root first then some first else provider? fs root rest name := by
  unfold provider?
  rw [List.find?_cons]
  by_cases m : name ∈ contribution fs root first <;> simp [m]

/-- Visits record each name for the first directory that contributes it,
    unless it is recorded already. -/
theorem getElem?_sources_foldl (survey : Survey) (directories : List String) (name : String) :
    (directories.foldl (visit fs ids root) survey).sources[name]? =
      survey.sources[name]?.or
        ((provider? fs root directories name).bind fun directory =>
          ids[name]?.map (entryOf directory)) := by
  -- What an earlier directory has recorded goes before what a later one offers.
  induction directories generalizing survey with
  | nil => simp [provider?]
  | cons first rest ih =>
    rw [List.foldl_cons, ih, getElem?_sources_visit, provider?_cons, Option.or_assoc]
    by_cases m : name ∈ contribution fs root first
    · cases ids[name]? <;> simp [m]
    · simp [m]

/-- A survey records a name exactly if it has an id and some directory
    contributes it, and then for the first such directory. -/
theorem getElem?_sources_of (directories : List String) (name : String) :
    (of fs ids root directories).sources[name]? =
      (provider? fs root directories name).bind fun directory =>
        ids[name]?.map (entryOf directory) := by
  unfold of
  rw [getElem?_sources_foldl]
  simp [initial]

end Survey

/-! ## Section 4: The directories that list a name -/

namespace Survey

/-- The strings file of a directory is there, is not refused, and lists a name. -/
def Lists (fs : FileSystem) (root : Option Path) (directory name : String) : Prop :=
  fs.exists? (fileOf root directory).text = .ok true ∧
    ∃ names, StringsFile.scrape fs (fileOf root directory).text = .ok names ∧ name ∈ names

/-- A directory lists a name, and none before it does. -/
def IsFirst (fs : FileSystem) (root : Option Path) (directories : List String)
    (directory name : String) : Prop :=
  Lists fs root directory name ∧ ∃ before after, directories = before ++ directory :: after ∧
    ∀ other ∈ before, ¬ Lists fs root other name

variable {fs : FileSystem} {root : Option Path} {directory name : String}
  {directories : List String}

/-- A directory contributes what it lists. -/
theorem mem_contribution_iff :
    name ∈ contribution fs root directory ↔ Lists fs root directory name := by
  constructor
  · intro m
    have there : fs.exists? (fileOf root directory).text = .ok true := by
      apply Classical.byContradiction
      intro absent
      rw [contribution_of_not_exists fs root absent] at m
      cases m
    refine ⟨there, ?_⟩
    unfold contribution at m
    cases scraped : StringsFile.scrape fs (fileOf root directory).text with
    | error error =>
      rw [scraped] at m
      cases m
    | ok names =>
      rw [scraped] at m
      exact ⟨names, rfl, m⟩
  · rintro ⟨-, names, scraped, m⟩
    unfold contribution
    rw [scraped]
    exact m

theorem provider?_eq_some_iff :
    provider? fs root directories name = some directory ↔
      IsFirst fs root directories directory name := by
  unfold provider? IsFirst
  rw [List.find?_eq_some_iff_append]
  simp only [decide_eq_true_eq, Bool.not_eq_eq_eq_not, Bool.not_true, decide_eq_false_iff_not,
    mem_contribution_iff]

theorem isSome_provider?_iff :
    (provider? fs root directories name).isSome = true ↔
      ∃ directory ∈ directories, Lists fs root directory name := by
  unfold provider?
  rw [List.find?_isSome]
  simp only [decide_eq_true_eq, mem_contribution_iff]

/-- The names that are recorded are those with an id that some directory lists. -/
theorem mem_sources_of (ids : IdTable) :
    name ∈ (of fs ids root directories).sources ↔
      name ∈ ids ∧ ∃ directory ∈ directories, Lists fs root directory name := by
  rw [Dictionary.mem_iff_isSome_getElem?, getElem?_sources_of, ← isSome_provider?_iff,
    Std.TreeMap.mem_iff_isSome_getElem?]
  cases provider? fs root directories name with
  | none => simp
  | some directory => simp

end Survey

/-! ## Section 5: Surveys and other files -/

namespace Survey

variable {fs other : FileSystem}

/-- A resolved strings file is the entry of a directory. -/
theorem fileOf_eq_child (root : Option Path) (directory : String) :
    fileOf root directory =
      (((Path.ofText directory).child "values".toList).resolve root).child
        "strings.xml".toList := by
  unfold fileOf Path.stringsFile
  exact Path.resolve_child _ root _ _

theorem isEntryName_stringsFile : IsEntryName "strings.xml".toList := by decide

variable (same : FileSystem.SameDirectories fs other)
  (agree : ∀ place, other.at? (place ++ ["strings.xml"]) = fs.at? (place ++ ["strings.xml"]))

include same agree

theorem exists?_fileOf_congr (root : Option Path) (directory : String) :
    other.exists? (fileOf root directory).text = fs.exists? (fileOf root directory).text := by
  rw [fileOf_eq_child]
  refine FileSystem.exists?_child_congr same isEntryName_stringsFile (fun place => ?_)
  rw [String.ofList_toList]
  exact agree place

/-- A strings file that exists is the same file in both file systems. -/
theorem scrape_fileOf_congr {root : Option Path} {directory : String}
    (there : fs.exists? (fileOf root directory).text = .ok true) :
    StringsFile.scrape other (fileOf root directory).text =
      StringsFile.scrape fs (fileOf root directory).text := by
  obtain ⟨location, item, reached⟩ := FileSystem.locate_of_exists? there
  refine StringsFile.scrape_congr (FileSystem.read_congr ?_)
  rw [reached]
  rw [fileOf_eq_child] at reached ⊢
  refine FileSystem.locate_child_of_sameDirectories same isEntryName_stringsFile
    (fun place => ?_) reached
  rw [String.ofList_toList]
  exact agree place

theorem visit_congr (ids : IdTable) (root : Option Path) (survey : Survey) (directory : String) :
    visit other ids root survey directory = visit fs ids root survey directory := by
  have sameExists := exists?_fileOf_congr same agree root directory
  unfold fileOf at sameExists
  unfold visit
  simp only [sameExists]
  cases found : fs.exists? ((Path.ofText directory).stringsFile.resolve root).text with
  | error error => rfl
  | ok there =>
    cases there with
    | false => rfl
    | true =>
      have sameScrape := scrape_fileOf_congr same agree found
      unfold fileOf at sameScrape
      rw [sameScrape]

/-- A survey is the same in file systems with the same directories and the
    same files called like strings files. -/
theorem of_congr (ids : IdTable) (root : Option Path) (directories : List String) :
    of other ids root directories = of fs ids root directories := by
  have step : visit other ids root = visit fs ids root := by
    funext survey directory
    exact visit_congr same agree ids root survey directory
  unfold of
  rw [step]

end Survey

end StringOrigins
