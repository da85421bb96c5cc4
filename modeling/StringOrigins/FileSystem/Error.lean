import StringOrigins.Text.Quoted

/-! # Errors of the file system

    Why an operation on a path fails, and how the failure is shown.  A
    path that holds U+0000 is refused before the file system is asked. -/

namespace StringOrigins

/-- What the file system objects to. -/
inductive Cause where
  | notFound
  | notADirectory
  | isADirectory
  | nameTooLong
  deriving DecidableEq, Repr

namespace Cause

/-- The error number of the operating system. -/
def number : Cause → Nat
  | .notFound => 2
  | .notADirectory => 20
  | .isADirectory => 21
  | .nameTooLong => 36

/-- The wording of the operating system. -/
def wording : Cause → String
  | .notFound => "No such file or directory"
  | .notADirectory => "Not a directory"
  | .isADirectory => "Is a directory"
  | .nameTooLong => "File name too long"

/-- The number and the wording. -/
def message (cause : Cause) : String :=
  "[Errno " ++ toString cause.number ++ "] " ++ cause.wording

end Cause

/-- A failed operation on files. -/
inductive FileError where
  /-- The path holds U+0000. -/
  | nullCharacter
  /-- The operation failed on a path. -/
  | refused (cause : Cause) (path : String)
  /-- A file could not be moved from the first path to the second. -/
  | notMoved (cause : Cause) (source target : String)
  deriving DecidableEq, Repr

namespace FileError

/-- A path between quotes. -/
def quoted (path : String) : String := String.ofList (Quoted.quote path.toList)

/-- The text that a failure is shown as. -/
def message : FileError → String
  | .nullCharacter => "embedded null byte"
  | .refused cause path => cause.message ++ ": " ++ quoted path
  | .notMoved cause source target =>
    cause.message ++ ": " ++ quoted source ++ " -> " ++ quoted target

end FileError

end StringOrigins
