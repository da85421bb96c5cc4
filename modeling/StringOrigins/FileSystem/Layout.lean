import StringOrigins.FileSystem.Basic

/-! # Laying out a file system

    Trees are built from the empty one by installing files and directories
    together with the directories above them, and by clearing a location
    with all below it.  `changes` compares two trees file by file. -/

namespace StringOrigins.FileSystem

open Utf8 (Octets)

/-- The locations from the root down to a location, itself included. -/
def lineage (location : Location) : List Location :=
  (List.range (location.length + 1)).map location.take

/-- The tree of the root alone, with a current directory and those above it. -/
def empty (current : Location) : FileSystem :=
  (lineage current).foldl (fun fs place => fs.put place .directory) ⟨∅, current⟩

/-- The tree with an item at a location and directories above it.  What
    stood there before is replaced; directories that exist are kept. -/
def install (fs : FileSystem) (location : Location) (item : Item) : FileSystem :=
  let above := (lineage location.dropLast).foldl (fun fs place => fs.put place .directory) fs
  if item = .directory ∧ above.at? location = some .directory then above
  else above.put location item

/-- The tree without a location and all below it. -/
def clear (fs : FileSystem) (location : Location) : FileSystem :=
  { fs with items := fs.items.filter fun place _ => !location.isPrefixOf place }

/-- The content of a regular file at a location. -/
def content? (fs : FileSystem) (location : Location) : Option Octets :=
  match fs.at? location with
  | some (.file content) => some content
  | _ => none

/-- The regular files that differ between two trees: each with its content
    in the second tree, or with none if it is not there. -/
def changes (before after : FileSystem) : List (Location × Option Octets) :=
  let gone := before.items.keys.filter fun place =>
    (before.content? place).isSome && (after.content? place).isNone
  let changed := after.items.keys.filter fun place =>
    (after.content? place).isSome && after.content? place != before.content? place
  gone.map (·, none) ++ changed.map fun place => (place, after.content? place)

end StringOrigins.FileSystem
