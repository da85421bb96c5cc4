import StringOrigins.IdTable.Basic
import StringOrigins.Journal
import StringOrigins.SourceMap.Basic
import StringOrigins.StringsFile

/-! # Surveys of resource directories

    A survey visits resource directories one after another and collects the
    names that their strings files define, as far as they have an id.  The
    first directory that defines a name is recorded for it.  Every visit is
    accounted for: a directory may have no strings file, or one that yields
    nothing, or one whose names are counted. -/

namespace StringOrigins

/-! ## Section 1: Visits -/

/-- What a visit to a directory finds. -/
inductive Visit where
  /-- The directory has no strings file. -/
  | absent (directory : String)
  /-- Whether there is a strings file cannot be told. -/
  | unreachable (path : Path) (error : FileError)
  /-- The strings file yields nothing. -/
  | refused (error : ScrapeError)
  /-- The strings file has so many names, and so many of them are added. -/
  | counted (source : String) (names added : Nat)
  deriving DecidableEq

namespace Visit

/-- The problem that a visit finds, if it finds one. -/
def problem? : Visit → Option String
  | .absent _ => none
  | .unreachable path error =>
    some ("Failed to read strings file: '" ++ path.text ++ "': " ++ error.message)
  | .refused error => some error.message
  | .counted _ _ _ => none

/-- How many entries a visit adds. -/
def added : Visit → Nat
  | .counted _ _ added => added
  | _ => 0

/-- How a visit is reported. -/
def event (visit : Visit) : Event :=
  match visit with
  | .absent directory => ⟨.debug, "No strings file in " ++ directory⟩
  | .counted source names added =>
    ⟨.debug, source ++ ": " ++ toString names ++ " names, " ++ toString added ++ " new"⟩
  | .unreachable _ _ => ⟨.warning, visit.problem?.getD ""⟩
  | .refused error => ⟨.warning, error.message⟩

end Visit

/-! ## Section 2: Collecting names -/

/-- A source map while names are entered, and how many entries have been added. -/
structure Intake where
  sources : SourceMap
  added : Nat

/-- Enters a name that has an id, unless it has an entry already. -/
def Intake.enter (ids : IdTable) (source : String) (intake : Intake) (name : String) : Intake :=
  match ids[name]? with
  | none => intake
  | some id =>
    if name ∈ intake.sources then intake
    else ⟨intake.sources.insert name ⟨id, source⟩, intake.added + 1⟩

/-- Enters the names of a strings file, one after another. -/
def SourceMap.enterAll (ids : IdTable) (source : String) (sources : SourceMap)
    (names : List String) : Intake :=
  names.foldl (Intake.enter ids source) ⟨sources, 0⟩

/-! ## Section 3: Surveys -/

/-- The source map after some visits, and what these visits found, in order. -/
structure Survey where
  sources : SourceMap
  visits : List Visit

namespace Survey

/-- The survey before any visit. -/
def initial : Survey := ⟨∅, []⟩

/-- The survey after one more visit. -/
def visit (fs : FileSystem) (ids : IdTable) (root : Option Path) (survey : Survey)
    (directory : String) : Survey :=
  let relative := (Path.ofText directory).stringsFile
  let file := relative.resolve root
  let account (found : Visit) : Survey := { survey with visits := survey.visits ++ [found] }
  match fs.exists? file.text with
  | .error error => account (.unreachable file error)
  | .ok false => account (.absent directory)
  | .ok true =>
    match StringsFile.scrape fs file.text with
    | .error error => account (.refused error)
    | .ok names =>
      let intake := survey.sources.enterAll ids relative.text names
      -- Names that have an entry already, or no id, are counted but not added.
      ⟨intake.sources, survey.visits ++ [.counted relative.text names.length intake.added]⟩

/-- The survey of some directories. -/
def of (fs : FileSystem) (ids : IdTable) (root : Option Path) (directories : List String) :
    Survey :=
  directories.foldl (visit fs ids root) initial

/-- The problems that a survey finds, in order. -/
def problems (survey : Survey) : List String := survey.visits.filterMap Visit.problem?

/-- How a survey is reported. -/
def events (survey : Survey) : List Event := survey.visits.map Visit.event

end Survey

/-! ## Section 4: Findings -/

/-- What a survey has given to its caller so far. -/
structure Findings where
  sources : SourceMap
  /-- All that has been reported. -/
  events : List Event
  /-- The problems that the caller collects, if it does. -/
  problems : Option (List String)

namespace Findings

/-- The findings after one more visit. -/
def visit (fs : FileSystem) (ids : IdTable) (root : Option Path) (findings : Findings)
    (directory : String) : Findings :=
  let survey := Survey.visit fs ids root ⟨findings.sources, []⟩ directory
  ⟨survey.sources, findings.events ++ survey.events, findings.problems.map (· ++ survey.problems)⟩

/-- The findings in some directories.  Their problems come behind those that
    are given, if any list is given. -/
def of (fs : FileSystem) (ids : IdTable) (root : Option Path) (given : Option (List String))
    (directories : List String) : Findings :=
  directories.foldl (visit fs ids root) ⟨∅, [], given⟩

end Findings

end StringOrigins
