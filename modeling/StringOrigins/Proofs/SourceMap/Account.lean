import Mathlib.Algebra.GroupWithZero.Nat
import Mathlib.Data.List.Induction
import StringOrigins.Proofs.SourceMap.Provenance

/-! # The account of a survey

    Every directory of a survey is accounted for by one event, in the order
    of the directories.  The event tells why the directory adds nothing, or
    it counts the names of its strings file and those of them that are new
    (`Told`).  The new ones are counted while they are entered, each of them
    once (`exists_new`), and the source map grows by as many
    (`size_enterAll`).  So the counts add up to its size, and the problems of
    the caller are the warnings, behind those that it had before
    (`of_accounts`). -/

namespace StringOrigins

/-! ## Section 1: New names -/

section counting

variable (ids : IdTable) (source : String)

namespace Intake

theorem mem_enter {intake : Intake} {name other : String} :
    other ∈ (intake.enter ids source name).sources ↔
      other ∈ intake.sources ∨ other = name ∧ name ∈ ids := by
  simp only [Dictionary.mem_iff_isSome_getElem?, getElem?_enter,
    Std.TreeMap.mem_iff_isSome_getElem?]
  by_cases same : other = name
  · subst same
    cases intake.sources[other]? <;> simp
  · simp [same]

/-- A name that has an id and no entry is counted. -/
theorem added_enter (intake : Intake) (name : String) :
    (intake.enter ids source name).added =
      intake.added + if name ∈ ids ∧ name ∉ intake.sources then 1 else 0 := by
  have given : name ∈ ids ↔ ids[name]?.isSome = true := Std.TreeMap.mem_iff_isSome_getElem?
  unfold enter
  simp only [given]
  cases ids[name]? with
  | none => simp
  | some id => by_cases known : name ∈ intake.sources <;> simp [known]

/-- As many entries are added as are counted. -/
theorem size_enter (intake : Intake) (name : String) :
    (intake.enter ids source name).sources.size + intake.added =
      intake.sources.size + (intake.enter ids source name).added := by
  unfold enter
  cases ids[name]? with
  | none => rfl
  | some id =>
    by_cases known : name ∈ intake.sources
    · simp [known]
    · simp only [known, if_false]
      rw [Dictionary.size_insert_of_not_mem _ known]
      omega

end Intake

namespace SourceMap

/-- After all names, the counter tells by how much the source map has grown. -/
theorem size_enterAll (sources : SourceMap) (names : List String) :
    (sources.enterAll ids source names).sources.size =
      sources.size + (sources.enterAll ids source names).added := by
  have later : ∀ intake : Intake,
      (names.foldl (Intake.enter ids source) intake).sources.size + intake.added =
        intake.sources.size + (names.foldl (Intake.enter ids source) intake).added := by
    induction names with
    | nil => exact fun intake => rfl
    | cons first rest ih =>
      intro intake
      have one := intake.size_enter ids source first
      have more := ih (intake.enter ids source first)
      rw [List.foldl_cons]
      omega
  exact later ⟨sources, 0⟩

/-- The counter counts each name that is new, once, however often it comes. -/
theorem exists_new (sources : SourceMap) (names : List String) :
    ∃ new : List String, new.Nodup ∧
      (∀ name, name ∈ new ↔ name ∈ names ∧ name ∈ ids ∧ name ∉ sources) ∧
      (sources.enterAll ids source names).added = new.length := by
  have later : ∀ intake : Intake, ∃ new : List String, new.Nodup ∧
      (∀ name, name ∈ new ↔ name ∈ names ∧ name ∈ ids ∧ name ∉ intake.sources) ∧
      (names.foldl (Intake.enter ids source) intake).added = intake.added + new.length := by
    induction names with
    | nil => exact fun intake => ⟨[], by simp, by simp, rfl⟩
    | cons first rest ih =>
      intro intake
      obtain ⟨new, distinct, among, added⟩ := ih (intake.enter ids source first)
      rw [List.foldl_cons, added, Intake.added_enter]
      by_cases isNew : first ∈ ids ∧ first ∉ intake.sources
      · refine ⟨first :: new, List.nodup_cons.2 ⟨?_, distinct⟩, fun name => ?_, ?_⟩
        · -- From now on it has an entry.
          intro m
          exact ((among first).1 m).2.2 ((Intake.mem_enter ids source).2 (.inr ⟨rfl, isNew.1⟩))
        · rw [List.mem_cons, among, Intake.mem_enter, List.mem_cons]
          by_cases same : name = first
          · subst same
            simp [isNew]
          · simp [same]
        · rw [if_pos isNew, List.length_cons]
          omega
      · refine ⟨new, distinct, fun name => ?_, ?_⟩
        · rw [among, Intake.mem_enter, List.mem_cons]
          by_cases same : name = first
          · subst same
            grind
          · simp [same]
        · rw [if_neg isNew]
          rfl
  obtain ⟨new, distinct, among, added⟩ := later ⟨sources, 0⟩
  exact ⟨new, distinct, among, added.trans (Nat.zero_add _)⟩

end SourceMap

end counting

/-! ## Section 2: One visit -/

namespace Survey

variable (fs : FileSystem) (ids : IdTable) (root : Option Path)

/-- How a directory behind some others is accounted for: by one event and the
    number of entries that it adds. -/
inductive Told (before : List String) (directory : String) : Event → Nat → Prop where
  /-- Its strings file is missing. -/
  | absent (missing : fs.IsMissing (fileOf root directory).text) :
      Told before directory ⟨.debug, "No strings file in " ++ directory⟩ 0
  /-- It cannot be told whether the strings file is there. -/
  | unreachable {cause : Cause} (failed : fs.exists? (fileOf root directory).text =
        .error (.refused cause (fileOf root directory).text)) :
      Told before directory ⟨.warning, "Failed to read strings file: '" ++
        (fileOf root directory).text ++ "': " ++
        (FileError.refused cause (fileOf root directory).text).message⟩ 0
  /-- The strings file is there but cannot be read. -/
  | unreadable {cause : Cause} (there : fs.exists? (fileOf root directory).text = .ok true)
      (failed : fs.read (fileOf root directory).text =
        .error (.refused cause (fileOf root directory).text)) :
      Told before directory ⟨.warning, "Failed to parse strings file: '" ++
        (fileOf root directory).text ++ "': " ++
        (FileError.refused cause (fileOf root directory).text).message⟩ 0
  /-- The strings file is read but not scraped. -/
  | unscraped {octets : Utf8.Octets} {error : ScrapeError}
      (read : fs.read (fileOf root directory).text = .ok octets)
      (failed : StringsFile.ofOctets (fileOf root directory).text octets = .error error)
      (own : error ≠ .nullCharacter) :
      Told before directory ⟨.warning, error.message⟩ 0
  /-- The strings file is scraped.  Its new names are those with an id that no
      directory before lists, each of them once. -/
  | counted {octets : Utf8.Octets} {names new : List String}
      (read : fs.read (fileOf root directory).text = .ok octets)
      (scraped : StringsFile.ofOctets (fileOf root directory).text octets = .ok names)
      (distinct : new.Nodup)
      (among : ∀ name, name ∈ new ↔
        name ∈ names ∧ name ∈ ids ∧ ∀ other ∈ before, ¬ Lists fs root other name) :
      Told before directory ⟨.debug, (Path.ofText directory).stringsFile.text ++ ": " ++
        toString names.length ++ " names, " ++ toString new.length ++ " new"⟩ new.length

/-- A visit behind some others finds one thing, which accounts for the
    directory and for the entries that it adds. -/
theorem told_visit {survey : Survey} {before : List String}
    (known : ∀ name, name ∈ survey.sources ↔
      name ∈ ids ∧ ∃ other ∈ before, Lists fs root other name) (directory : String) :
    ∃ found, (visit fs ids root survey directory).visits = survey.visits ++ [found] ∧
      Told fs ids root before directory found.event found.added ∧
      (visit fs ids root survey directory).sources.size = survey.sources.size + found.added := by
  have way := visited_visit fs ids root survey directory
  generalize visit fs ids root survey directory = later at way
  cases way with
  | unreachable failed =>
    obtain ⟨cause, rfl⟩ := FileSystem.refused_of_exists? failed
    exact ⟨_, rfl, .unreachable failed, rfl⟩
  | absent missing => exact ⟨_, rfl, .absent (FileSystem.isMissing_of_exists? missing), rfl⟩
  | @refused error there failed =>
    refine ⟨_, rfl, ?_, rfl⟩
    rw [StringsFile.scrape] at failed
    -- Either it is there but cannot be read, or it is read but not scraped.
    rcases FileSystem.read_of_exists? there with ⟨octets, read⟩ | unread
    · rw [read] at failed
      have own : error ≠ .nullCharacter := by
        rintro rfl
        exact StringsFile.ofOctets_ne_null octets failed
      exact .unscraped read failed own
    · rw [unread] at failed
      cases failed
      exact .unreadable there unread
  | @counted names there scraped =>
    obtain ⟨octets, read⟩ := StringsFile.read_of_scrape scraped
    rw [StringsFile.scrape, read] at scraped
    obtain ⟨new, distinct, among, added⟩ := SourceMap.exists_new ids
      (Path.ofText directory).stringsFile.text survey.sources names
    refine ⟨_, rfl, ?_, SourceMap.size_enterAll ids _ survey.sources names⟩
    simp only [Visit.event, Visit.added, added]
    refine .counted read scraped distinct fun name => ?_
    rw [among, known]
    grind

/-! ## Section 3: A whole survey -/

/-- An account of directories, in their order. -/
inductive Accounts : List String → List Event → List Nat → Prop where
  | nil : Accounts [] [] []
  | concat {directories : List String} {events : List Event} {counts : List Nat}
      {directory : String} {event : Event} {count : Nat}
      (earlier : Accounts directories events counts)
      (told : Told fs ids root directories directory event count) :
      Accounts (directories ++ [directory]) (events ++ [event]) (counts ++ [count])

/-- The survey of one directory more is one visit more. -/
theorem of_concat (directories : List String) (directory : String) :
    of fs ids root (directories ++ [directory]) =
      visit fs ids root (of fs ids root directories) directory := by
  unfold of
  rw [List.foldl_append]
  rfl

/-- A survey accounts for its directories and for the size of its source map. -/
theorem accounts_of (directories : List String) :
    ∃ counts, Accounts fs ids root directories (of fs ids root directories).events counts ∧
      counts.sum = (of fs ids root directories).sources.size := by
  induction directories using List.reverseRecOn with
  | nil => exact ⟨[], .nil, rfl⟩
  | append_singleton directories directory ih =>
    obtain ⟨counts, earlier, sum⟩ := ih
    obtain ⟨found, visits, told, size⟩ :=
      told_visit fs ids root (fun _ => mem_sources_of ids) directory
    rw [of_concat, size]
    refine ⟨counts ++ [found.added], ?_, ?_⟩
    · rw [events, visits, List.map_append]
      exact .concat earlier told
    · rw [List.sum_append, sum, List.sum_singleton]

/-- What a visit finds is a warning exactly if it is a problem, and then
    with the same text. -/
theorem problems_eq (survey : Survey) :
    survey.problems = (survey.events.filter fun e => e.level = .warning).map Event.text := by
  unfold problems events
  induction survey.visits with
  | nil => rfl
  | cons found rest ih =>
    rw [List.filterMap_cons, List.map_cons, List.filter_cons]
    cases found <;> simp [Visit.problem?, Visit.event, ih]

end Survey

/-! ## Section 4: Findings -/

namespace Findings

variable (fs : FileSystem) (ids : IdTable) (root : Option Path)

/-- A visit finds the same whatever has been found before in other visits. -/
theorem visit_eq (survey : Survey) (directory : String) :
    Survey.visit fs ids root survey directory =
      ⟨(Survey.visit fs ids root ⟨survey.sources, []⟩ directory).sources,
        survey.visits ++ (Survey.visit fs ids root ⟨survey.sources, []⟩ directory).visits⟩ := by
  unfold Survey.visit
  dsimp only
  split
  · rfl
  · rfl
  · split
    · rfl
    · rfl

/-- What a caller gets is the survey and its reports. -/
theorem of_eq (given : Option (List String)) (directories : List String) :
    of fs ids root given directories =
      ⟨(Survey.of fs ids root directories).sources, (Survey.of fs ids root directories).events,
        given.map (· ++ (Survey.of fs ids root directories).problems)⟩ := by
  induction directories using List.reverseRecOn with
  | nil =>
    show Findings.mk ∅ [] given = ⟨∅, [], given.map (· ++ [])⟩
    simp
  | append_singleton directories directory ih =>
    have step : of fs ids root given (directories ++ [directory]) =
        visit fs ids root (of fs ids root given directories) directory := by
      unfold of
      rw [List.foldl_append]
      rfl
    rw [step, ih, Survey.of_concat, visit_eq]
    simp [visit, Survey.events, Survey.problems, Function.comp_def]

/-- Every directory is accounted for once and in order, no error escapes, the
    counts add up to the size of the source map, and the problems are the
    given ones and then the warnings.  Whether and which problems are given
    makes no other difference. -/
theorem of_accounts (given : Option (List String)) (directories : List String) :
    (∃ counts, Survey.Accounts fs ids root directories
        (of fs ids root given directories).events counts ∧
      counts.sum = (of fs ids root given directories).sources.size) ∧
    (∀ found ∈ (Survey.of fs ids root directories).visits, found ≠ .refused .nullCharacter) ∧
    (of fs ids root given directories).problems = given.map (· ++
      ((of fs ids root given directories).events.filter fun e => e.level = .warning).map
        Event.text) ∧
    ∀ other, (of fs ids root other directories).sources = (of fs ids root given directories).sources ∧
      (of fs ids root other directories).events = (of fs ids root given directories).events := by
  rw [of_eq fs ids root given directories]
  refine ⟨Survey.accounts_of fs ids root directories,
    fun found m => Survey.ne_null_of_mem_visits fs ids root m, ?_, fun other => ?_⟩
  · rw [Survey.problems_eq]
  · rw [of_eq]
    exact ⟨rfl, rfl⟩

end Findings

end StringOrigins
