import StringOrigins.Proofs.SourceMap.Survey
import StringOrigins.Proofs.StringsFile.Names

/-! # Which directories count

    A directory is accepted if its strings file is there and is not
    refused.  One visit adds the names of an accepted directory and nothing
    else (`sources_visit`), so a survey depends on the accepted directories
    and their names alone (`sources_of`).  What the other directories hold,
    and whether they are visited at all, shows nowhere in the source map
    (`of_first_accepted`). -/

namespace StringOrigins.Survey

variable (fs : FileSystem) (ids : IdTable) (root : Option Path)

/-! ## Section 1: Accepted directories -/

/-- All names of a directory whose strings file is there and is not refused. -/
def accepted? (directory : String) : Option (List String) :=
  match fs.exists? (fileOf root directory).text,
    StringsFile.scrape fs (fileOf root directory).text with
  | .ok true, .ok names => some names
  | _, _ => none

/-- The accepted ones of some directories, in order, each with all its names. -/
def accepted (directories : List String) : List (String × List String) :=
  directories.filterMap fun directory => (accepted? fs root directory).map (directory, ·)

/-- The source map with the names of one more accepted directory. -/
def collect (sources : SourceMap) (given : String × List String) : SourceMap :=
  (sources.enterAll ids (Path.ofText given.1).stringsFile.text given.2).sources

/-! ## Section 2: Visits and surveys -/

/-- A visit adds the names of an accepted directory, and no others. -/
theorem sources_visit (survey : Survey) (directory : String) :
    (visit fs ids root survey directory).sources =
      ((accepted? fs root directory).map (directory, ·)).elim survey.sources
        (collect ids survey.sources) := by
  have way := visited_visit fs ids root survey directory
  generalize visit fs ids root survey directory = later at way
  -- Each way to skip a directory is a way not to accept it.
  cases way with
  | unreachable failed =>
    rw [accepted?, failed]
    rfl
  | absent missing =>
    rw [accepted?, missing]
    rfl
  | refused there failed =>
    rw [accepted?, there, failed]
    rfl
  | counted there scraped =>
    rw [accepted?, there, scraped]
    rfl

/-- Visits add the names of the accepted directories, one directory after another. -/
theorem sources_foldl (survey : Survey) (directories : List String) :
    (directories.foldl (visit fs ids root) survey).sources =
      (accepted fs root directories).foldl (collect ids) survey.sources := by
  unfold accepted
  induction directories generalizing survey with
  | nil => rfl
  | cons first rest ih =>
    rw [List.foldl_cons, ih, sources_visit, List.filterMap_cons]
    rcases accepted? fs root first with _ | names
    · rfl
    · rfl

/-- The source map of a survey is collected from the accepted directories. -/
theorem sources_of (directories : List String) :
    (of fs ids root directories).sources = (accepted fs root directories).foldl (collect ids) ∅ :=
  sources_foldl fs ids root initial directories

/-! ## Section 3: What a visit reports -/

/-- A visit finds something that can be reported: no error escapes from it. -/
theorem exists_found (survey : Survey) (directory : String) :
    ∃ found, (visit fs ids root survey directory).visits = survey.visits ++ [found] ∧
      found ≠ .refused .nullCharacter := by
  have way := visited_visit fs ids root survey directory
  generalize visit fs ids root survey directory = later at way
  cases way with
  | unreachable failed => exact ⟨_, rfl, nofun⟩
  | absent missing => exact ⟨_, rfl, nofun⟩
  | refused there failed =>
    -- A file that is there has no U+0000 in its path.
    refine ⟨_, rfl, fun eq => ?_⟩
    rw [Visit.refused.inj eq] at failed
    exact StringsFile.scrape_ne_null (FileSystem.null_of_exists? there) failed
  | counted there scraped => exact ⟨_, rfl, nofun⟩

/-- All that a survey finds can be reported. -/
theorem ne_null_of_mem_visits {directories : List String} {found : Visit}
    (m : found ∈ (of fs ids root directories).visits) : found ≠ .refused .nullCharacter := by
  have later : ∀ survey : Survey, (∀ v ∈ survey.visits, v ≠ .refused .nullCharacter) →
      ∀ v ∈ (directories.foldl (visit fs ids root) survey).visits,
        v ≠ .refused .nullCharacter := by
    clear m
    induction directories with
    | nil => exact fun survey clean => clean
    | cons first rest ih =>
      intro survey clean
      rw [List.foldl_cons]
      refine ih _ ?_
      obtain ⟨new, eq, other⟩ := exists_found fs ids root survey first
      intro v m
      rw [eq] at m
      rcases List.mem_append.1 m with m | m
      · exact clean v m
      · rw [List.mem_singleton.1 m]
        exact other
  exact later initial (fun v m => absurd m List.not_mem_nil) found m

/-! ## Section 4: The law of the first directory -/

/-- A survey has an entry for a name exactly if the name has an id and some
    directory lists it.  The entry is the id with the strings file of the
    first directory that lists the name.  The same entries come from any
    other file system and any other directories with the same accepted
    ones.  And no error escapes from a survey. -/
theorem of_first_accepted (directories : List String) :
    (∀ name, name ∈ (of fs ids root directories).sources ↔
      name ∈ ids ∧ ∃ directory ∈ directories, Lists fs root directory name) ∧
    (∀ name entry, (of fs ids root directories).sources[name]? = some entry ↔
      ∃ id directory, ids[name]? = some id ∧ IsFirst fs root directories directory name ∧
        entry = ⟨id, (Path.ofText directory).stringsFile.text⟩) ∧
    (∀ other others, accepted other root others = accepted fs root directories →
      (of other ids root others).sources = (of fs ids root directories).sources) ∧
    ∀ found ∈ (of fs ids root directories).visits, found ≠ .refused .nullCharacter := by
  refine ⟨fun name => mem_sources_of ids, fun name entry => ?_, fun other others same => ?_,
    fun found m => ne_null_of_mem_visits fs ids root m⟩
  · rw [getElem?_sources_of, Option.bind_eq_some_iff]
    constructor
    · rintro ⟨directory, first, mapped⟩
      obtain ⟨id, known, rfl⟩ := Option.map_eq_some_iff.1 mapped
      exact ⟨id, directory, known, provider?_eq_some_iff.1 first, rfl⟩
    · rintro ⟨id, directory, known, first, rfl⟩
      refine ⟨directory, provider?_eq_some_iff.2 first, ?_⟩
      rw [known]
      rfl
  · rw [sources_of, sources_of, same]

end StringOrigins.Survey
