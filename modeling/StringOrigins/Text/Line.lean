/-! # Lines and blanks

    How a text falls into lines, and what is stripped from the ends of a
    line.  Both classes are the Unicode ones: ten line breaks besides the
    pair CR LF, and the white-space characters.  `unifyLineEnds` is the
    reading of a text file, where a line may end with CR LF or a lone CR
    as well. -/

namespace StringOrigins.Text

/-! ## Section 1: Classes of characters -/

/-- Characters that end a line. -/
def isLineBreak (c : Char) : Bool :=
  let n := c.toNat
  (0x0A ≤ n && n ≤ 0x0D) || (0x1C ≤ n && n ≤ 0x1E) || n == 0x85 || n == 0x2028 || n == 0x2029

/-- White-space characters. -/
def isBlank (c : Char) : Bool :=
  let n := c.toNat
  (0x09 ≤ n && n ≤ 0x0D) || (0x1C ≤ n && n ≤ 0x20) || n == 0x85 || n == 0xA0 || n == 0x1680 ||
    (0x2000 ≤ n && n ≤ 0x200A) || n == 0x2028 || n == 0x2029 || n == 0x202F || n == 0x205F ||
    n == 0x3000

/-- A line break is white space, so a stripped line holds none at its ends. -/
theorem isBlank_of_isLineBreak {c : Char} (h : isLineBreak c = true) : isBlank c = true := by
  simp only [isLineBreak, isBlank, Bool.or_eq_true, Bool.and_eq_true, decide_eq_true_eq,
    beq_iff_eq] at h ⊢
  omega

/-! ## Section 2: Lines -/

/-- The lines of a text behind the beginning of a line, which is held in
    reverse.  The pair CR LF is one break; a text that ends with a break
    has no empty line behind it. -/
def linesFrom (begun : List Char) : List Char → List (List Char)
  | [] => if begun.isEmpty then [] else [begun.reverse]
  | '\r' :: '\n' :: rest => begun.reverse :: linesFrom [] rest
  | c :: rest =>
    if isLineBreak c then begun.reverse :: linesFrom [] rest else linesFrom (c :: begun) rest

/-- The lines of a text, without their breaks. -/
def lines (s : List Char) : List (List Char) := linesFrom [] s

/-- A text without the white space at its two ends. -/
def strip (s : List Char) : List Char :=
  ((s.dropWhile isBlank).reverse.dropWhile isBlank).reverse

/-! ## Section 3: Line ends of files -/

/-- `unifyLineEnds` behind a text that is done, which is held in reverse. -/
def unifyFrom (done : List Char) : List Char → List Char
  | [] => done.reverse
  | '\r' :: '\n' :: rest => unifyFrom ('\n' :: done) rest
  | '\r' :: rest => unifyFrom ('\n' :: done) rest
  | c :: rest => unifyFrom (c :: done) rest

/-- Every CR LF and every lone CR becomes one LF. -/
def unifyLineEnds (s : List Char) : List Char := unifyFrom [] s

end StringOrigins.Text
