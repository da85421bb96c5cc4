/-! # Hexadecimal text

    Numbers in base sixteen, written with upper-case or lower-case digits
    and read with either.  `digits` lists digit values, most significant
    first, and `value?` is the reader of a non-empty run of digits. -/

namespace StringOrigins.Hex

/-! ## Section 1: Writing -/

/-- The digit values of a number, most significant first.  Zero has one digit. -/
def digits (n : Nat) : List Nat :=
  if n < 16 then [n] else digits (n / 16) ++ [n % 16]

/-- The upper-case digit of a value below sixteen. -/
def upperDigit (d : Nat) : Char :=
  if d < 10 then Char.ofNat (48 + d) else Char.ofNat (55 + d)

/-- The lower-case digit of a value below sixteen. -/
def lowerDigit (d : Nat) : Char :=
  if d < 10 then Char.ofNat (48 + d) else Char.ofNat (87 + d)

/-- A number in upper-case digits, without leading zeros. -/
def upper (n : Nat) : List Char := (digits n).map upperDigit

/-- A number in lower-case digits, filled with zeros to at least `width` places. -/
def lowerPadded (width n : Nat) : List Char :=
  let written := (digits n).map lowerDigit
  List.replicate (width - written.length) '0' ++ written

/-! ## Section 2: Reading -/

/-- The value of one digit of either case. -/
def digit? (c : Char) : Option Nat :=
  if '0' ≤ c ∧ c ≤ '9' then some (c.toNat - 48)
  else if 'a' ≤ c ∧ c ≤ 'f' then some (c.toNat - 87)
  else if 'A' ≤ c ∧ c ≤ 'F' then some (c.toNat - 55)
  else none

/-- One more digit behind a number that has been read. -/
def push? (n : Nat) (c : Char) : Option Nat := (digit? c).map (16 * n + ·)

/-- The number that a non-empty run of digits stands for. -/
def value? (s : List Char) : Option Nat :=
  if s.isEmpty then none else s.foldlM push? 0

end StringOrigins.Hex
