import StringOrigins.Json.Basic
import StringOrigins.Text.Hex

/-! # Printing JSON

    A member of an object stands on a line of its own, two blanks further
    in than the object.  An object without members is a pair of braces.
    In a text only the quote, the backslash and the characters below
    U+0020 are escaped. -/

namespace StringOrigins.Json

/-! ## Section 1: Texts -/

/-- A character between quotes. -/
def escape (c : Char) : List Char :=
  if c = '"' then ['\\', '"']
  else if c = '\\' then ['\\', '\\']
  else if c = '\x08' then ['\\', 'b']
  else if c = '\x0C' then ['\\', 'f']
  else if c = '\n' then ['\\', 'n']
  else if c = '\r' then ['\\', 'r']
  else if c = '\t' then ['\\', 't']
  else if c.toNat < 0x20 then ['\\', 'u'] ++ Hex.lowerPadded 4 c.toNat
  else [c]

/-- A text between quotes. -/
def quote (s : List Char) : List Char := '"' :: s.flatMap escape ++ ['"']

/-! ## Section 2: Objects -/

/-- A new line at a depth. -/
def newLine (depth : Nat) : List Char := '\n' :: List.replicate (2 * depth) ' '

mutual

/-- A value that starts inside a line at the given depth. -/
def printAt (depth : Nat) : Json → List Char
  | .text s => quote s
  | .object [] => ['{', '}']
  | .object (member :: more) =>
    '{' :: printMembers (depth + 1) (member :: more) ++ newLine depth ++ ['}']

/-- Members, each on a line of its own. -/
def printMembers (depth : Nat) : List (List Char × Json) → List Char
  | [] => []
  | [(name, value)] =>
    newLine depth ++ quote name ++ [':', ' '] ++ printAt depth value
  | (name, value) :: more =>
    newLine depth ++ quote name ++ [':', ' '] ++ printAt depth value ++ ',' ::
      printMembers depth more

end

/-- The text of a value. -/
def print (value : Json) : List Char := printAt 0 value

end StringOrigins.Json
