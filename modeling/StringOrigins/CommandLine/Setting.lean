/-! # Settings

    What can be set on the command line: how each setting is spelled, how
    many values it takes, and whether it has to be given. -/

namespace StringOrigins.CommandLine

/-- Something that can be set. -/
inductive Setting where
  | help
  | tableDirectory
  | resourceDirectories
  | output
  | root
  | verbose
  deriving DecidableEq, Repr

/-- How many values a setting takes. -/
inductive Arity where
  | none
  | one
  | several
  deriving DecidableEq, Repr

namespace Setting

/-- The settings, in the order in which they are listed. -/
def all : List Setting :=
  [.help, .tableDirectory, .resourceDirectories, .output, .root, .verbose]

/-- The spellings of a setting. -/
def spellings : Setting → List String
  | .help => ["-h", "--help"]
  | .tableDirectory => ["--r-dot-java-dir"]
  | .resourceDirectories => ["--res-dir"]
  | .output => ["--out"]
  | .root => ["--project-root"]
  | .verbose => ["-v", "--verbose"]

/-- How many values a setting takes. -/
def arity : Setting → Arity
  | .help => .none
  | .tableDirectory => .one
  | .resourceDirectories => .several
  | .output => .one
  | .root => .one
  | .verbose => .none

/-- The settings that have to be given. -/
def required : List Setting := [.tableDirectory, .resourceDirectories, .output]

/-- All spellings of a setting, for messages. -/
def name (setting : Setting) : String := "/".intercalate setting.spellings

/-- The spellings of all settings, each with its setting. -/
def spelled : List (String × Setting) :=
  all.flatMap fun setting => setting.spellings.map (·, setting)

/-- The setting with a spelling. -/
def ofSpelling? (spelling : String) : Option Setting := spelled.lookup spelling

end Setting

end StringOrigins.CommandLine
