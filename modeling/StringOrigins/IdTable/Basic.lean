import Std.Data.TreeMap.Lemmas
import StringOrigins.FileSystem.Basic
import StringOrigins.IdTable.Error
import StringOrigins.IdTable.Record
import StringOrigins.ResourceId

/-! # Id tables

    An id table gives the ids of string resources by name.  `parse` reads
    one from the lines of a text and stops at the first faulty line; of
    several records of one name the last wins.  `load` reads one from a
    file, which has to be UTF-8. -/

namespace StringOrigins

/-- The ids of string resources, by name. -/
abbrev IdTable := Std.TreeMap String Int

namespace IdTable

/-! ## Section 1: Lines -/

/-- The table with one more line, which has been stripped of white space. -/
def enter (table : IdTable) (line : List Char) : Except LineFault IdTable :=
  if line = [] then .ok table
  else match Record.ofLine? line with
    | none => .error (.notARecord line)
    | some record =>
      if record.isKept then
        match ResourceId.read record.value with
        | .ok id => .ok (table.insert (String.ofList record.name) id)
        | .error .malformed => .error (.badId record.value)
        | .error .tooLarge => .error (.idTooLarge record.value)
      else .ok table

/-- The table with more lines, the first of which has the given number. -/
def enterAll (source : Option String) (number : Nat) (table : IdTable) :
    List (List Char) → Except TableError IdTable
  | [] => .ok table
  | line :: rest =>
    match table.enter (Text.strip line) with
    | .ok table => enterAll source (number + 1) table rest
    | .error fault => .error (.faultyLine source number fault)

/-! ## Section 2: Texts and files -/

/-- The table that a text holds. -/
def parse (source : Option String) (text : List Char) : Except TableError IdTable :=
  enterAll source 1 ∅ (Text.lines text)

/-- The table that the octets of a file hold. -/
def ofOctets (path : Path) (octets : Utf8.Octets) : Except TableError IdTable :=
  match Utf8.decode octets with
  | .error fault => .error (.undecodable path fault)
  | .ok text => parse (some path.text) (Text.unifyLineEnds text)

/-- The table that a file holds. -/
def load (fs : FileSystem) (path : Path) : Except TableError IdTable :=
  match fs.read path.text with
  | .error .nullCharacter => .error .nullCharacter
  | .error (.refused .notFound _) => .error (.missing path)
  | .error error => .error (.unreadable path error)
  | .ok octets => ofOctets path octets

end IdTable

end StringOrigins
