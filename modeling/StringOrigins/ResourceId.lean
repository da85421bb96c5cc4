import StringOrigins.Text.Hex
import StringOrigins.Text.Line

/-! # Resource ids

    The text of a resource id, and its reading.  An id is written `0x` and
    upper-case digits, with zeros up to eight places, of which a minus sign
    takes one.  It is read with digits of either case and must fit in 32
    bits, so ids that are negative or larger are written but not read. -/

namespace StringOrigins.ResourceId

/-! ## Section 1: Writing -/

/-- The places that the sign and the digits fill at least. -/
def places : Nat := 8

/-- The sign of an id: nothing, or a minus. -/
def sign (id : Int) : List Char := if id < 0 then ['-'] else []

/-- An id behind the `0x`: sign, zeros, digits. -/
def padded (id : Int) : List Char :=
  let digits := Hex.upper id.natAbs
  sign id ++ List.replicate (places - (sign id).length - digits.length) '0' ++ digits

/-- The text of an id. -/
def chars (id : Int) : List Char := '0' :: 'x' :: padded id

/-- The text of an id. -/
def text (id : Int) : String := String.ofList (chars id)

/-! ## Section 2: Reading -/

/-- Why a text stands for no id. -/
inductive ReadError where
  /-- It is not `0x` with hexadecimal digits. -/
  | malformed
  /-- The number does not fit in 32 bits. -/
  | tooLarge
  deriving DecidableEq, Repr

/-- The largest id that is read. -/
def largest : Nat := 0xFFFFFFFF

/-- The digits of a text that starts with `0x`. -/
def digits? : List Char → Option (List Char)
  | '0' :: 'x' :: digits => some digits
  | _ => none

/-- The id that a text stands for, whatever white space is around it. -/
def read (s : List Char) : Except ReadError Nat :=
  match (digits? (Text.strip s)).bind Hex.value? with
  | none => .error .malformed
  | some n => if n ≤ largest then .ok n else .error .tooLarge

end StringOrigins.ResourceId
