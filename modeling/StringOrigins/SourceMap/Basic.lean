import StringOrigins.Dictionary
import StringOrigins.Json.Printer
import StringOrigins.ResourceId
import StringOrigins.Text.Utf8

/-! # Source maps

    A source map gives, for the name of a string resource, its id and the
    strings file that defines it.  It has its names in the order in which
    they have been found.  Its file is a JSON object with the names in the
    order of their characters, and ends with a line feed. -/

namespace StringOrigins

/-- Where a string resource comes from. -/
structure Entry where
  /-- The id of the resource. -/
  id : Int
  /-- The path of the strings file that defines the resource. -/
  source : String
  deriving DecidableEq, Repr

/-- The origins of string resources, by name. -/
abbrev SourceMap := Dictionary Entry

/-- The JSON form of an entry. -/
def Entry.toJson (entry : Entry) : Json :=
  .object [("androidResourceId".toList, .text (ResourceId.chars entry.id)),
    ("stringsXmlPath".toList, .text entry.source.toList)]

namespace SourceMap

/-- The JSON form of a source map, with its names as they have been found. -/
def toJson (sources : SourceMap) : Json :=
  .object (sources.toList.map fun (name, entry) => (name.toList, entry.toJson))

/-- The text of the file of a source map. -/
def chars (sources : SourceMap) : List Char := sources.toJson.sorted.print ++ ['\n']

/-- The file of a source map. -/
def serialize (sources : SourceMap) : Utf8.Octets := Utf8.encode sources.chars

end SourceMap

end StringOrigins
