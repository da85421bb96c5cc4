import StringOrigins.CommandLine.Run
import StringOrigins.FileSystem.Layout

/-! # The program

    Runs the command line on the files of the disk.  What the step may read
    or write is looked at first, the run is computed, and then the files
    that it changes are written. -/

namespace StringOrigins.Program

open Utf8 (Octets)

/-! ## Section 1: Reading the disk -/

/-- The path of a location. -/
def pathOf (location : Location) : String := "/" ++ "/".intercalate location

/-- What stands at a path, if anything does. -/
def look (path : String) : IO (Option Item) := do
  let target := (← IO.currentDir) / path
  if ← target.isDir then return some .directory
  else if ← target.pathExists then
    let content ← IO.FS.readBinFile target
    return some (.file content.toList)
  else return none

/-- Looks along names from a directory, as far as there are directories. -/
def lookAlong (fs : FileSystem) (directory : Location) : List String → IO FileSystem
  | [] => return fs
  | name :: rest =>
    if name = "." then lookAlong fs directory rest
    else if name = ".." then lookAlong fs directory.dropLast rest
    else do
      let location := directory ++ [name]
      match ← look (pathOf location) with
      | none => return fs
      | some .directory => lookAlong (fs.put location .directory) location rest
      | some (.file content) => return fs.put location (.file content)

/-- Looks at what a path leads to. -/
def lookAt (fs : FileSystem) (path : String) : IO FileSystem :=
  if FileSystem.holdsNull path then return fs
  else lookAlong fs (fs.start path.toList) (FileSystem.names path.toList)

/-- The part of the disk that a command line has to do with. -/
def observe (arguments : List String) : IO FileSystem := do
  let current := (Path.ofText (← IO.currentDir).toString).parts.map String.ofList
  let files :=
    match CommandLine.choose arguments with
    | .ok (chosen, _) => chosen.configuration.files.map Path.text
    | .error _ => []
  files.foldlM lookAt (FileSystem.empty current)

/-! ## Section 2: Writing the disk -/

/-- Puts a content in the place of a file at once. -/
def replace (path : String) (content : Octets) : IO Unit := do
  let temporary := path ++ ".tmp"
  IO.FS.writeBinFile temporary content.toByteArray
  IO.FS.rename temporary path

/-- Makes the changes between two trees on the disk. -/
def commit (before after : FileSystem) : IO Unit :=
  (FileSystem.changes before after).forM fun (location, content?) =>
    match content? with
    | some content => replace (pathOf location) content
    | none => IO.FS.removeFile (pathOf location)

/-! ## Section 3: Running -/

/-- Runs the program on the disk and gives its exit status. -/
def run (arguments : List String) : IO UInt32 := do
  -- All reading comes first, all writing last; between them nothing is done to the disk.
  let before ← observe arguments
  let result := CommandLine.run before arguments
  commit before result.files
  IO.print result.standardOutput
  IO.eprint result.standardError
  match result.outcome with
  | .finished status => return status.toUInt32
  | outcome =>
    IO.eprintln outcome.message
    return 1

end StringOrigins.Program

/-- The entry of the program. -/
def main (arguments : List String) : IO UInt32 := StringOrigins.Program.run arguments
