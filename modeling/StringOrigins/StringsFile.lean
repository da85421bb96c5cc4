import StringOrigins.FileSystem.Basic
import StringOrigins.ResourceKind
import StringOrigins.Xml.Document

/-! # Strings files

    A strings file is an XML document in which elements without a
    namespace, at any depth, define string resources.  The names that it
    defines are grouped by kind and in document order within a kind.  A
    file with a fault, or with one nameless definition, has no names. -/

namespace StringOrigins

/-- Why a strings file has no names. -/
inductive ScrapeError where
  /-- The file cannot be read. -/
  | unreadable (path : String) (error : FileError)
  /-- The file is no XML document. -/
  | malformed (path : String) (fault : Xml.Fault)
  /-- A definition has no name; the line is where its start tag ends. -/
  | nameless (path : String) (kind : ResourceKind) (line : Nat)
  /-- The path holds U+0000, so that no file was asked for. -/
  | nullCharacter
  deriving DecidableEq

namespace ScrapeError

/-- How a file that yields nothing is reported. -/
def failure (path detail : String) : String :=
  "Failed to parse strings file: '" ++ path ++ "': " ++ detail

/-- The report of an error.  All faults of a document read the same. -/
def message : ScrapeError → String
  | .unreadable path error => failure path error.message
  | .malformed path _ => failure path "<xml error>"
  | .nameless path kind line =>
    "<" ++ String.ofList kind.tag ++ "> without a name attribute at line " ++ toString line ++
      " of '" ++ path ++ "'"
  | .nullCharacter => FileError.nullCharacter.message

end ScrapeError

namespace StringsFile

/-- The elements that define resources of a kind. -/
def ofKind (kind : ResourceKind) (elements : List Xml.Element) : List Xml.Element :=
  elements.filter fun element => element.space = none ∧ element.base = kind.tag

/-- The elements that define resources, with their kinds, grouped by kind. -/
def definitions (elements : List Xml.Element) : List (ResourceKind × Xml.Element) :=
  ResourceKind.all.flatMap fun kind => (ofKind kind elements).map (kind, ·)

/-- The name of the resource that an element defines. -/
def name? (element : Xml.Element) : Option String :=
  (element.value? "name".toList).map String.ofList

/-- The names of definitions, or the first one without a name. -/
def namesOf (path : String) : List (ResourceKind × Xml.Element) → Except ScrapeError (List String)
  | [] => .ok []
  | (kind, element) :: rest =>
    match name? element with
    | none => .error (.nameless path kind element.place.line)
    | some name => (namesOf path rest).map (name :: ·)

/-- The names that a document defines. -/
def names (path : String) (elements : List Xml.Element) : Except ScrapeError (List String) :=
  namesOf path (definitions elements)

/-- The names that the octets of a file define. -/
def ofOctets (path : String) (octets : Utf8.Octets) : Except ScrapeError (List String) :=
  match Xml.elements octets with
  | .error fault => .error (.malformed path fault)
  | .ok elements => names path elements

/-- The names that a file defines. -/
def scrape (fs : FileSystem) (path : String) : Except ScrapeError (List String) :=
  match fs.read path with
  | .error .nullCharacter => .error .nullCharacter
  | .error error => .error (.unreadable path error)
  | .ok octets => ofOctets path octets

end StringsFile

end StringOrigins
