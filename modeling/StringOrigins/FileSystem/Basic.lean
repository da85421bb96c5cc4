import Std.Data.TreeMap.Lemmas
import StringOrigins.FileSystem.Error
import StringOrigins.Path.Basic
import StringOrigins.Text.Utf8

/-! # File system

    A tree of directories and regular files, as a finite map from locations
    to items.  A location is the list of names from the root.  Operations
    take the text of a path, which is walked name by name from the root or
    from the current directory; the first name that cannot be passed gives
    the error.  There are no links, no permissions and no limit of space.

    `read`, `write`, `move` and `remove` are all that a program does to
    files here.  Each changes at most the items at the locations that its
    paths lead to, and changes nothing when it fails. -/

namespace StringOrigins

open Utf8 (Octets)

/-! ## Section 1: The tree -/

/-- The names that lead from the root to an item, outermost first. -/
abbrev Location := List String

/-- What stands at a location. -/
inductive Item where
  | directory
  | file (content : Octets)
  deriving DecidableEq, Repr

/-- The items of a tree, and the directory that relative paths start at. -/
structure FileSystem where
  items : Std.TreeMap Location Item
  current : Location

namespace FileSystem

/-- The item at a location.  The root is always a directory. -/
def at? (fs : FileSystem) (location : Location) : Option Item :=
  if location = [] then some .directory else fs.items[location]?

/-- The tree with an item at a location. -/
def put (fs : FileSystem) (location : Location) (item : Item) : FileSystem :=
  { fs with items := fs.items.insert location item }

/-- The tree without the item at a location. -/
def erase (fs : FileSystem) (location : Location) : FileSystem :=
  { fs with items := fs.items.erase location }

@[simp] theorem at?_root (fs : FileSystem) : fs.at? [] = some .directory := rfl

@[simp] theorem at?_put_self (fs : FileSystem) {location : Location} (item : Item)
    (h : location ≠ []) : (fs.put location item).at? location = some item := by
  simp [at?, put, h]

@[simp] theorem at?_put_ne (fs : FileSystem) {location other : Location} (item : Item)
    (h : other ≠ location) : (fs.put location item).at? other = fs.at? other := by
  simp [at?, put, Std.TreeMap.getElem?_insert, h.symm]

@[simp] theorem at?_erase_self (fs : FileSystem) {location : Location} (h : location ≠ []) :
    (fs.erase location).at? location = none := by
  simp [at?, erase, h]

@[simp] theorem at?_erase_ne (fs : FileSystem) {location other : Location}
    (h : other ≠ location) : (fs.erase location).at? other = fs.at? other := by
  simp [at?, erase, Std.TreeMap.getElem?_erase, h.symm]

@[simp] theorem current_put (fs : FileSystem) (location : Location) (item : Item) :
    (fs.put location item).current = fs.current := rfl

@[simp] theorem current_erase (fs : FileSystem) (location : Location) :
    (fs.erase location).current = fs.current := rfl

/-! ## Section 2: Walking a path -/

/-- Octets that a name may have. -/
def maxNameSize : Nat := 255

/-- Octets that a path may have. -/
def maxPathSize : Nat := 4095

/-- Where a path leads. -/
inductive Destination where
  /-- There is an item. -/
  | found (location : Location) (item : Item)
  /-- Only the last name is missing: an item can be created there. -/
  | vacant (location : Location)
  deriving DecidableEq, Repr

/-- Follows names from a directory. -/
def walk (fs : FileSystem) (directory : Location) : List String → Except Cause Destination
  | [] => .ok (.found directory .directory)
  | name :: rest =>
    if name = "." then fs.walk directory rest
    else if name = ".." then fs.walk directory.dropLast rest
    -- The size of a name is checked when it is looked up, not before.
    else if maxNameSize < name.utf8ByteSize then .error .nameTooLong
    else
      match fs.at? (directory ++ [name]), rest with
      | none, [] => .ok (.vacant (directory ++ [name]))
      | none, _ :: _ => .error .notFound
      | some .directory, rest => fs.walk (directory ++ [name]) rest
      | some (.file content), [] => .ok (.found (directory ++ [name]) (.file content))
      | some (.file _), _ :: _ => .error .notADirectory

/-- The names of a path.  A slash at the end asks for a directory, as a dot does. -/
def names (path : List Char) : List String :=
  let pieces := ((Path.split path).filter (· ≠ [])).map String.ofList
  if path.getLast? = some '/' then pieces ++ ["."] else pieces

/-- The directory that the walk of a path starts at. -/
def start (fs : FileSystem) (path : List Char) : Location :=
  if path.head? = some '/' then [] else fs.current

/-- Where the text of a path leads. -/
def locate (fs : FileSystem) (path : String) : Except Cause Destination :=
  if path = "" then .error .notFound
  else if maxPathSize < path.utf8ByteSize then .error .nameTooLong
  else if fs.at? (fs.start path.toList) = some .directory then
    fs.walk (fs.start path.toList) (names path.toList)
  else .error .notFound

/-- Whether a path holds U+0000. -/
def holdsNull (path : String) : Bool := path.toList.contains '\x00'

/-! ## Section 3: Operations -/

/-- The content of a regular file. -/
def read (fs : FileSystem) (path : String) : Except FileError Octets :=
  if holdsNull path then .error .nullCharacter
  else match fs.locate path with
    | .ok (.found _ (.file content)) => .ok content
    | .ok (.found _ .directory) => .error (.refused .isADirectory path)
    | .ok (.vacant _) => .error (.refused .notFound path)
    | .error cause => .error (.refused cause path)

/-- Whether a path leads to an item.  A path that cannot be walked for want
    of a directory leads to none, nor does one with U+0000; a name that is
    too long is an error. -/
def exists? (fs : FileSystem) (path : String) : Except FileError Bool :=
  if holdsNull path then .ok false
  else match fs.locate path with
    | .ok (.found _ _) => .ok true
    | .ok (.vacant _) => .ok false
    | .error .nameTooLong => .error (.refused .nameTooLong path)
    | .error _ => .ok false

/-- Creates a regular file or replaces the content of one. -/
def write (fs : FileSystem) (path : String) (content : Octets) : Except FileError FileSystem :=
  if holdsNull path then .error .nullCharacter
  else match fs.locate path with
    | .ok (.found location (.file _)) => .ok (fs.put location (.file content))
    | .ok (.found _ .directory) => .error (.refused .isADirectory path)
    | .ok (.vacant location) => .ok (fs.put location (.file content))
    | .error cause => .error (.refused cause path)

/-- Moves a regular file, over another one if there is one. -/
def move (fs : FileSystem) (source target : String) : Except FileError FileSystem :=
  if holdsNull source || holdsNull target then .error .nullCharacter
  else match fs.locate source, fs.locate target with
    | .error cause, _ => .error (.notMoved cause source target)
    | _, .error cause => .error (.notMoved cause source target)
    | .ok (.vacant _), _ => .error (.notMoved .notFound source target)
    | .ok (.found _ .directory), _ => .error (.notMoved .isADirectory source target)
    | _, .ok (.found _ .directory) => .error (.notMoved .isADirectory source target)
    | .ok (.found here (.file content)), .ok (.found there (.file _)) =>
      .ok ((fs.erase here).put there (.file content))
    | .ok (.found here (.file content)), .ok (.vacant there) =>
      .ok ((fs.erase here).put there (.file content))

/-- Removes a regular file. -/
def remove (fs : FileSystem) (path : String) : Except FileError FileSystem :=
  if holdsNull path then .error .nullCharacter
  else match fs.locate path with
    | .ok (.found location (.file _)) => .ok (fs.erase location)
    | .ok (.found _ .directory) => .error (.refused .isADirectory path)
    | .ok (.vacant _) => .error (.refused .notFound path)
    | .error cause => .error (.refused cause path)

end FileSystem

end StringOrigins
