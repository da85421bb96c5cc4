import StringOrigins.ResourceKind
import StringOrigins.Text.Word

/-! # Records of an id table

    A line of an id table is `int` or `int[]`, the type of a resource, its
    name and a value, with single blanks between them.  Only the value may
    hold blanks.  A record is kept if its value is a single number and its
    type is a kind of string resource. -/

namespace StringOrigins

/-- A line of an id table. -/
structure Record where
  /-- Whether the value is a list of numbers. -/
  isArray : Bool
  /-- The word for the type of the resource. -/
  typeName : List Char
  /-- The name of the resource. -/
  name : List Char
  /-- What follows the name and one blank. -/
  value : List Char
  deriving DecidableEq, Repr

namespace Record

/-- The array mark behind `int`, if there is one, and what follows the blank. -/
def mark? : List Char → Option (Bool × List Char)
  | ' ' :: rest => some (false, rest)
  | '[' :: ']' :: ' ' :: rest => some (true, rest)
  | _ => none

/-- The word that a text starts with, and what follows it and one blank. -/
def word? (s : List Char) : Option (List Char × List Char) :=
  match s.takeWhile Text.isWord, s.dropWhile Text.isWord with
  | c :: word, ' ' :: rest => some (c :: word, rest)
  | _, _ => none

/-- The record that a line is. -/
def ofLine? : List Char → Option Record
  | 'i' :: 'n' :: 't' :: afterInt => do
    let (isArray, afterMark) ← mark? afterInt
    let (typeName, afterType) ← word? afterMark
    let (name, value) ← word? afterType
    if value = [] then none else some ⟨isArray, typeName, name, value⟩
  | _ => none

/-- Whether a record belongs to a string resource. -/
def isKept (record : Record) : Bool :=
  !record.isArray && ResourceKind.isTypeName record.typeName

end Record

end StringOrigins
