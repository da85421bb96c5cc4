import StringOrigins.CommandLine.Choices
import StringOrigins.Step

/-! # Running a command line

    A command line either explains itself, or is refused, or runs the build
    step with what it chooses.  The result is what the program prints, how
    it ends, and the file system that it leaves. -/

namespace StringOrigins.CommandLine

/-! ## Section 1: Running the step -/

namespace Chosen

/-- A configuration, all of whose texts are chosen. -/
def ofConfiguration (configuration : Configuration) : Chosen :=
  ⟨.text configuration.tableDirectory, configuration.resourceDirectories,
    .text configuration.outputDirectory, configuration.root.map .text⟩

/-- The texts that are chosen.  What stands for an empty value is never looked at. -/
def configuration (chosen : Chosen) : Configuration :=
  ⟨chosen.tableDirectory.text?.getD "", chosen.resourceDirectories,
    chosen.outputDirectory.text?.getD "", chosen.root.bind Value.text?⟩

/-- Whether a value leads to a path: it is a text, and if this is relative,
    the root is not an empty value. -/
def hasPath (chosen : Chosen) : Value → Bool
  | .text text => (Path.ofText text).isAbsolute || chosen.root != some .empty
  | .empty => false

/-- Runs the step, as far as the values lead to paths. -/
def run (fs : FileSystem) (chosen : Chosen) : Outcome × List Event × FileSystem :=
  let configuration := chosen.configuration
  if chosen.hasPath chosen.tableDirectory then
    match IdTable.load fs configuration.tableFile with
    | .error _ => Step.run fs configuration
    | .ok ids =>
      let directories :=
        chosen.resourceDirectories.takeWhile fun text => chosen.hasPath (.text text)
      -- The output directory is not asked for before all directories are visited.
      if directories = chosen.resourceDirectories ∧ chosen.hasPath chosen.outputDirectory then
        Step.run fs configuration
      else (.noPath, (Survey.of fs ids configuration.rootPath directories).events, fs)
  else (.noPath, [], fs)

end Chosen

/-! ## Section 2: Running the program -/

/-- What a run of the program comes to. -/
structure Result where
  outcome : Outcome
  standardOutput : String
  standardError : String
  files : FileSystem

/-- A value as it is shown. -/
def Value.shown : Value → String
  | .text s => s
  | .empty => "[]"

/-- The root as it is shown. -/
def shownRoot : Option Value → String
  | some (.text text) => if text = "" then "<cwd>" else text
  | _ => "<cwd>"

/-- What is chosen as it is shown. -/
def announcement (chosen : Chosen) : String :=
  "[CONFIG] r_dot_java_dir= " ++ chosen.tableDirectory.shown ++ "\n" ++
  "[CONFIG] res_dirs= " ++ ", ".intercalate chosen.resourceDirectories ++ "\n" ++
  "[CONFIG] out= " ++ chosen.outputDirectory.shown ++ "\n" ++
  "[CONFIG] project_root= " ++ shownRoot chosen.root ++ "\n"

/-- The events of a run as they are shown. -/
def report (isVerbose : Bool) (events : List Event) : String :=
  String.join ((events.filter (Event.isShown isVerbose)).map Event.line)

/-- Runs the program on arguments. -/
def run (fs : FileSystem) (arguments : List String) : Result :=
  match choose arguments with
  | .error .help => ⟨.finished 0, helpText, "", fs⟩
  | .error (.usage error) => ⟨.finished 2, "", error.message, fs⟩
  | .ok (chosen, isVerbose) =>
    let (outcome, events, files) := chosen.run fs
    ⟨outcome, announcement chosen, report isVerbose events, files⟩

end StringOrigins.CommandLine
