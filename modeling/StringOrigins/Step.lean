import StringOrigins.SourceMap.Output
import StringOrigins.SourceMap.Survey

/-! # The build step

    One step of a build: the id table is loaded, the resource directories
    are surveyed, and the source map is written.  The step ends with a
    status, unless an error escapes from it. -/

namespace StringOrigins

/-- What a step works on.  Relative paths start at the root, if there is one. -/
structure Configuration where
  /-- The directory of the id table. -/
  tableDirectory : String
  /-- The resource directories, the first one having precedence. -/
  resourceDirectories : List String
  /-- The directory that the source map is written to. -/
  outputDirectory : String
  root : Option String
  deriving DecidableEq, Repr

namespace Configuration

/-- The directory that relative paths start at. -/
def rootPath (configuration : Configuration) : Option Path := configuration.root.map Path.ofText

/-- The file of the id table. -/
def tableFile (configuration : Configuration) : Path :=
  ((Path.ofText configuration.tableDirectory).resolve configuration.rootPath).child
    "R.txt".toList

/-- The directory that the source map is written to. -/
def output (configuration : Configuration) : Path :=
  (Path.ofText configuration.outputDirectory).resolve configuration.rootPath

/-- The strings files of the resource directories. -/
def stringsFiles (configuration : Configuration) : List Path :=
  configuration.resourceDirectories.map fun directory =>
    (Path.ofText directory).stringsFile.resolve configuration.rootPath

/-- The files that a step may read or write. -/
def files (configuration : Configuration) : List Path :=
  configuration.tableFile :: configuration.stringsFiles ++
    [configuration.output.temporaryFile, configuration.output.outputFile]

end Configuration

/-- How a step ends. -/
inductive Outcome where
  | finished (status : Nat)
  /-- An error that the step does not report. -/
  | escaped (error : FileError)
  /-- A path is made of what is no text. -/
  | noPath
  deriving DecidableEq, Repr

/-- What is said of a step that does not finish. -/
def Outcome.message : Outcome → String
  | .finished _ => ""
  | .escaped error => error.message
  | .noPath => "expected str, bytes or os.PathLike object, not list"

namespace Step

/-- The name of the step in its reports. -/
def name : String := "build_string_source_map"

/-- A step that reports an error and fails. -/
def failure (text : String) : Outcome × List Event :=
  (.finished 1, [⟨.error, name ++ ": " ++ text⟩])

/-- The end of a step whose id table cannot be had. -/
def withoutTable : TableError → Outcome × List Event
  | .nullCharacter => (.escaped .nullCharacter, [])
  | .missing path => failure (TableError.missing path).message
  | error => failure ("Failure parsing R.txt file. " ++ error.message)

/-- The report on a source map that has been written. -/
def written (sources : SourceMap) (directory : Path) : Event :=
  ⟨.info, "Wrote " ++ toString sources.size ++ " string resources to " ++
    directory.outputFile.text⟩

/-- The end of a step whose source map has or has not been written. -/
def withOutput (sources : SourceMap) (directory : Path) :
    Option OutputError → Outcome × List Event
  | none => (.finished 0, [written sources directory])
  | some (.escaped error) => (.escaped error, [])
  | some error => failure error.message

/-- Runs a step. -/
def run (fs : FileSystem) (configuration : Configuration) :
    Outcome × List Event × FileSystem :=
  match IdTable.load fs configuration.tableFile with
  | .error error =>
    let (outcome, events) := withoutTable error
    (outcome, events, fs)
  | .ok ids =>
    let survey := Survey.of fs ids configuration.rootPath configuration.resourceDirectories
    let (error, saved) := fs.save configuration.output survey.sources.serialize
    let (outcome, events) := withOutput survey.sources configuration.output error
    (outcome, survey.events ++ events, saved)

end Step

end StringOrigins
