import StringOrigins.Text.CharRange

/-! # Characters of XML

    The classes of characters of XML 1.0: what a document may hold, what
    separates the parts of its markup, and what names are made of.  Names
    with a colon are qualified, so the colon is kept apart from the other
    characters of names. -/

namespace StringOrigins.Xml

/-- The code points that a document may hold, also by reference. -/
def isAllowed (n : Nat) : Bool :=
  n == 0x9 || n == 0xA || n == 0xD || (0x20 ≤ n && n ≤ 0xD7FF) || (0xE000 ≤ n && n ≤ 0xFFFD) ||
    (0x10000 ≤ n && n ≤ 0x10FFFF)

/-- The blanks of markup. -/
def isBlank (c : Char) : Bool := c = ' ' || c = '\n' || c = '\t' || c = '\r'

/-- The characters that a name may start with, the colon apart. -/
def nameStartRanges : List (Nat × Nat) :=
  [(0x61, 0x7A), (0x41, 0x5A), (0x5F, 0x5F), (0xC0, 0xD6), (0xD8, 0xF6), (0xF8, 0x2FF),
   (0x370, 0x37D), (0x37F, 0x1FFF), (0x200C, 0x200D), (0x2070, 0x218F), (0x2C00, 0x2FEF),
   (0x3001, 0xD7FF), (0xF900, 0xFDCF), (0xFDF0, 0xFFFD), (0x10000, 0xEFFFF)]

/-- The further characters of names. -/
def nameMoreRanges : List (Nat × Nat) :=
  [(0x2D, 0x2E), (0x30, 0x39), (0xB7, 0xB7), (0x300, 0x36F), (0x203F, 0x2040)]

/-- Whether a name without a colon may start with a character. -/
def isNameStart (c : Char) : Bool := Text.inRanges nameStartRanges c

/-- Whether a name without a colon may hold a character. -/
def isNamePart (c : Char) : Bool := isNameStart c || Text.inRanges nameMoreRanges c

/-- Whether a name may hold a character, the colon included. -/
def isNameChar (c : Char) : Bool := isNamePart c || c = ':'

/-- A name that may stand without qualification: it holds no colon. -/
def isPlainName : List Char → Bool
  | [] => false
  | c :: rest => isNameStart c && rest.all isNamePart

/-- A blank is a character that a document may hold. -/
theorem isAllowed_of_isBlank {c : Char} (h : isBlank c = true) : isAllowed c.toNat = true := by
  simp only [isBlank, Bool.or_eq_true, decide_eq_true_eq] at h
  rcases h with ((rfl | rfl) | rfl) | rfl <;> decide

/-- No name holds a blank. -/
theorem isNameChar_of_isBlank {c : Char} (h : isBlank c = true) : isNameChar c = false := by
  simp only [isBlank, Bool.or_eq_true, decide_eq_true_eq] at h
  rcases h with ((rfl | rfl) | rfl) | rfl <;> decide

end StringOrigins.Xml
