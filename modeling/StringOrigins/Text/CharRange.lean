/-! # Ranges of characters

    A class of characters given as a table of ranges of code points. -/

namespace StringOrigins.Text

/-- Whether a character lies in one of the ranges, both ends included. -/
def inRanges (ranges : List (Nat × Nat)) (c : Char) : Bool :=
  ranges.any fun range => range.1 ≤ c.toNat && c.toNat ≤ range.2

end StringOrigins.Text
