import StringOrigins.FileSystem.Error
import StringOrigins.Path.Basic
import StringOrigins.Text.Utf8

/-! # Faults of id tables

    Why there is no id table to be had from a text or from a file, and how
    that is reported.  A report on a line names the source of the text, as
    far as one is known, and the number of the line. -/

namespace StringOrigins

/-- What is wrong with a line of an id table. -/
inductive LineFault where
  /-- The line is no record. -/
  | notARecord (line : List Char)
  /-- The value of a kept record is no id. -/
  | badId (value : List Char)
  /-- The value of a kept record does not fit in 32 bits. -/
  | idTooLarge (value : List Char)
  deriving DecidableEq, Repr

/-- Why there is no id table. -/
inductive TableError where
  /-- There is no such file. -/
  | missing (path : Path)
  /-- The file cannot be read. -/
  | unreadable (path : Path) (error : FileError)
  /-- The file is not UTF-8. -/
  | undecodable (path : Path) (fault : Utf8.Fault)
  /-- A line is faulty; lines count from one. -/
  | faultyLine (source : Option String) (number : Nat) (fault : LineFault)
  /-- The path holds U+0000, so that no file was asked for. -/
  | nullCharacter
  deriving DecidableEq

namespace TableError

/-- The octets that a decoding fault spans, by their offsets. -/
def span (fault : Utf8.Fault) : String :=
  if fault.continued = 0 then
    "byte 0x" ++ String.ofList (Hex.lowerPadded 2 fault.first.toNat) ++ " in position " ++
      toString fault.offset
  else
    "bytes in position " ++ toString fault.offset ++ "-" ++
      toString (fault.offset + fault.continued)

/-- The wording of a decoding fault. -/
def reason : Utf8.Reason → String
  | .invalidStart => "invalid start byte"
  | .invalidContinuation => "invalid continuation byte"
  | .unexpectedEnd => "unexpected end of data"

/-- How a decoding fault is reported. -/
def decoding (fault : Utf8.Fault) : String :=
  "'utf-8' codec can't decode " ++ span fault ++ ": " ++ reason fault.reason

/-- How a faulty line is reported. -/
def line (source : Option String) (number : Nat) : LineFault → String
  | .notARecord text =>
    "Unexpected line in R.txt " ++ place ++ ": " ++ String.ofList text
  | .badId value =>
    "Bad resource id '" ++ String.ofList value ++ "' in R.txt " ++ place
  | .idTooLarge value =>
    "Resource id '" ++ String.ofList value ++ "' does not fit in 32 bits " ++ place
where
  /-- The source and the number of the line. -/
  place : String := "(" ++ source.getD "None" ++ ":" ++ toString number ++ ")"

/-- The report of an error. -/
def message : TableError → String
  | .missing path => "The '" ++ path.text ++ "' file is not present."
  | .unreadable path error =>
    "Failure reading R.txt file '" ++ path.text ++ "': " ++ error.message
  | .undecodable path fault =>
    "Failure reading R.txt file '" ++ path.text ++ "': " ++ decoding fault
  | .faultyLine source number fault => line source number fault
  | .nullCharacter => FileError.nullCharacter.message

end TableError

end StringOrigins
