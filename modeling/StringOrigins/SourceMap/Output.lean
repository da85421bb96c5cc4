import StringOrigins.FileSystem.Basic
import StringOrigins.SourceMap.Basic

/-! # Writing a source map

    A source map is written to a temporary file beside its destination,
    which is then moved into place, so the destination holds either what it
    held before or the whole new map.  If the file cannot be written or
    moved, the temporary file is removed again. -/

namespace StringOrigins

/-- The file of a source map in a directory. -/
def Path.outputFile (directory : Path) : Path := directory.child "strings.json".toList

/-- The temporary file beside it. -/
def Path.temporaryFile (directory : Path) : Path := directory.child "strings.json.tmp".toList

/-- How writing a source map fails. -/
inductive OutputError where
  /-- The file could not be written or moved into place. -/
  | notSaved (path : Path) (error : FileError)
  /-- The temporary file could not be removed after that, or the path holds
      U+0000, so that no file was asked for. -/
  | escaped (error : FileError)
  deriving DecidableEq

/-- The report of an error. -/
def OutputError.message : OutputError → String
  | .notSaved path error =>
    "Failed when trying to save the output file: '" ++ path.text ++ "': " ++ error.message
  | .escaped error => error.message

namespace FileSystem

/-- Removes a regular file; one that is not there needs no removal. -/
def discard (fs : FileSystem) (path : String) : Except FileError FileSystem :=
  match fs.remove path with
  | .error (.refused .notFound _) => .ok fs
  | result => result

/-- What is left of a failed attempt to write to a directory. -/
def abandon (fs : FileSystem) (directory : Path) (error : FileError) : OutputError × FileSystem :=
  match fs.discard directory.temporaryFile.text with
  | .ok fs => (.notSaved directory.outputFile error, fs)
  | .error error => (.escaped error, fs)

/-- Writes a content to the output file of a directory. -/
def save (fs : FileSystem) (directory : Path) (content : Utf8.Octets) :
    Option OutputError × FileSystem :=
  let temporary := directory.temporaryFile.text
  match fs.write temporary content with
  | .error .nullCharacter => (some (.escaped .nullCharacter), fs)
  | .error error => (fs.abandon directory error).map some id
  | .ok written =>
    -- From here on the temporary file exists, so a failure has to discard it.
    match written.move temporary directory.outputFile.text with
    | .error error => (written.abandon directory error).map some id
    | .ok moved => (none, moved)

end FileSystem

end StringOrigins
