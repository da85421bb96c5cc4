import StringOrigins.CommandLine.Setting
import StringOrigins.FileSystem.Error

/-! # Usage

    The texts that explain the command line, and the errors in its use. -/

namespace StringOrigins.CommandLine

/-- The name of the program. -/
def program : String := "python -m string_source_map.main"

/-- The short explanation. -/
def usage : String :=
  "usage: python -m string_source_map.main [-h] --r-dot-java-dir R_DOT_JAVA_DIR\n" ++
  "                                        --res-dir RES_DIRS [RES_DIRS ...]\n" ++
  "                                        --out OUT\n" ++
  "                                        [--project-root PROJECT_ROOT] [-v]\n"

/-- The full explanation. -/
def helpText : String :=
  usage ++
  "\n" ++
  "Map each Android <string>, <plurals> and <string-array> resource to its\n" ++
  "aapt id (from R.txt) and the first strings.xml that defines it.\n" ++
  "\n" ++
  "options:\n" ++
  "  -h, --help            show this help message and exit\n" ++
  "  --r-dot-java-dir R_DOT_JAVA_DIR\n" ++
  "                        Directory containing the R.txt written by aapt\n" ++
  "  --res-dir RES_DIRS [RES_DIRS ...]\n" ++
  "                        Resource directory, in aapt order (repeatable; first\n" ++
  "                        one wins)\n" ++
  "  --out OUT             Directory where strings.json is written\n" ++
  "  --project-root PROJECT_ROOT\n" ++
  "                        Base directory for relative paths (default: current\n" ++
  "                        directory)\n" ++
  "  -v, --verbose         Enable debug logging\n"

/-- An error in the use of the command line. -/
inductive UsageError where
  /-- An abbreviation of several spellings. -/
  | ambiguous (argument : String) (spellings : List String)
  /-- A setting without the values that it takes. -/
  | valueExpected (setting : Setting)
  /-- A value for a setting that takes none. -/
  | valueIgnored (setting : Setting) (value : String)
  /-- Settings that are not given. -/
  | missing (settings : List Setting)
  /-- Arguments that belong to no setting. -/
  | unrecognized (arguments : List String)
  deriving DecidableEq, Repr

namespace UsageError

/-- An error about a setting. -/
def about (setting : Setting) (text : String) : String :=
  "argument " ++ setting.name ++ ": " ++ text

/-- The wording of an error. -/
def text : UsageError → String
  | .ambiguous argument spellings =>
    "ambiguous option: " ++ argument ++ " could match " ++ ", ".intercalate spellings
  | .valueExpected setting =>
    about setting
      (if setting.arity = .several then "expected at least one argument"
      else "expected one argument")
  | .valueIgnored setting value =>
    about setting ("ignored explicit argument " ++ FileError.quoted value)
  | .missing settings =>
    "the following arguments are required: " ++ ", ".intercalate (settings.map Setting.name)
  | .unrecognized arguments => "unrecognized arguments: " ++ " ".intercalate arguments

/-- The report of an error. -/
def message (error : UsageError) : String :=
  usage ++ program ++ ": error: " ++ error.text ++ "\n"

end UsageError

end StringOrigins.CommandLine
